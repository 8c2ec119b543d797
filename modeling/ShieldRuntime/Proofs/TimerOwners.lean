import ShieldRuntime.Library.NameIndex
import ShieldRuntime.Proofs.TimerFiring

/-!
# Whose timers

The timers of all services are in one table and count against one limit.
-/

namespace ShieldRuntime.Proofs
open Library Lua

variable {id : Nat} {s next : TimerState} {l : TimerLabel}

def ownerOf (s : TimerState) (id : Nat) : Option ServiceId :=
  (s.actorTimers.lookup id).map ActorTimerState.serviceId

inductive OwnerMove (s next : TimerState) : Prop
  | quiet : (∀ id, ownerOf next id = ownerOf s id ∨ ownerOf next id = none) →
    (∀ c ∈ next.scheduling, ∃ c' ∈ s.scheduling, c.id = c'.id ∧ c.request = c'.request) →
    next.nextActorTimerId = s.nextActorTimerId →
    (∀ owner id, .created owner id ∈ next.events → .created owner id ∈ s.events ∨ id = 0 ∨
      ∃ c ∈ s.scheduling, c.id = id ∧ c.request.serviceId = owner) → OwnerMove s next
  | scheduled (call : Scheduling) : call.id = s.nextActorTimerId →
    (∀ id, ownerOf next id =
      if id = s.nextActorTimerId then some call.request.serviceId else ownerOf s id) →
    next.scheduling = s.scheduling ++ [call] →
    next.nextActorTimerId = s.nextActorTimerId + 1 → next.events = s.events → OwnerMove s next

section

lemma ownerOf_erase (timers : AList (fun _ : Nat => ActorTimerState)) (gone id : Nat) :
    ((timers.erase gone).lookup id).map ActorTimerState.serviceId =
        (timers.lookup id).map ActorTimerState.serviceId ∨
      ((timers.erase gone).lookup id).map ActorTimerState.serviceId = none := by
  rw [lookup_erase_map]
  split
  · exact .inr rfl
  · exact .inl rfl

variable {new : List TimerEvent}

lemma OwnerMove.of_events (howner : ∀ id, ownerOf next id = ownerOf s id ∨ ownerOf next id = none)
    (hcalls : ∀ c ∈ next.scheduling, ∃ c' ∈ s.scheduling, c.id = c'.id ∧ c.request = c'.request)
    (hid : next.nextActorTimerId = s.nextActorTimerId) (hevents : next.events = s.events ++ new)
    (hnew : ∀ owner id, .created owner id ∈ new → id = 0) : OwnerMove s next := by
  refine .quiet howner hcalls hid ?_
  intro owner id hmem
  rw [hevents, List.mem_append] at hmem
  exact hmem.imp_right fun hmem => .inl (hnew owner id hmem)

lemma OwnerMove.of_same (htimers : next.actorTimers = s.actorTimers)
    (hscheduling : next.scheduling = s.scheduling)
    (hid : next.nextActorTimerId = s.nextActorTimerId) (hevents : next.events = s.events ++ new)
    (hnew : ∀ owner id, .created owner id ∈ new → id = 0) : OwnerMove s next := by
  refine .of_events ?_ ?_ hid hevents hnew
  · intro id
    exact .inl (by rw [ownerOf, ownerOf, htimers])
  · intro c hc
    exact ⟨c, hscheduling ▸ hc, rfl, rfl⟩

lemma OwnerMove.of_created {call : Nat} {c : Scheduling} (hc : s.scheduling[call]? = some c)
    (howner : ∀ id, ownerOf next id = ownerOf s id)
    (hscheduling : next.scheduling = s.scheduling.eraseIdx call)
    (hid : next.nextActorTimerId = s.nextActorTimerId)
    (hevents : next.events = s.events ++ [.created c.request.serviceId c.id]) :
    OwnerMove s next := by
  refine .quiet (fun id => .inl (howner id)) ?_ hid ?_
  · intro c' hc'
    rw [hscheduling] at hc'
    exact ⟨c', (List.eraseIdx_sublist ..).subset hc', rfl, rfl⟩
  · intro owner id hmem
    rw [hevents, List.mem_append, List.mem_singleton] at hmem
    refine hmem.imp_right ?_
    intro heq
    obtain ⟨howner, hid⟩ := TimerEvent.created.inj heq
    exact .inr ⟨c, List.mem_of_getElem? hc, hid.symm, howner.symm⟩

theorem timer_step_owner (h : s.step l = some next) : OwnerMove s next := by
  cases timer_case h with
  | registered | erased | terminated | requested | driverStopped | missed | firedAgain
  | uncancelled | listedTimers | advanced =>
    exact .of_same rfl rfl rfl (List.append_nil _).symm (by simp)
  | limited | anonymous | unscheduled | started | finished =>
    exact .of_same rfl rfl rfl rfl (by simp)
  | scheduled =>
    refine .scheduled _ rfl ?_ rfl rfl rfl
    intro id
    simp only [ownerOf, lookup_insert_map]
  | @spawned call c hc =>
    refine .of_events (fun _ => .inl rfl) ?_ rfl (List.append_nil _).symm (by simp)
    intro c' hc'
    rcases List.mem_or_eq_of_mem_set hc' with hc' | rfl
    · exact ⟨c', hc', rfl, rfl⟩
    · exact ⟨c, List.mem_of_getElem? hc, rfl, rfl⟩
  | spawnFailed =>
    exact .of_events (fun id => ownerOf_erase s.actorTimers _ id)
      (fun c' hc' => ⟨c', (List.eraseIdx_sublist ..).subset hc', rfl, rfl⟩) rfl rfl (by simp)
  | driverLeft hc => exact .of_created hc (fun _ => rfl) rfl rfl rfl
  | driverSet hc _ hlookup =>
    refine .of_created hc ?_ rfl rfl rfl
    intro id
    simp only [ownerOf, TimerState.log, lookup_insert_map]
    split
    · rename_i hid
      subst hid
      exact (congrArg (Option.map ActorTimerState.serviceId) hlookup).symm
    · rfl
  | ticked =>
    unfold TimerState.tick TimerState.post
    split <;> exact .of_same rfl rfl rfl rfl (by simp)
  | firedOnce =>
    exact .of_events (fun id => ownerOf_erase s.actorTimers _ id) (fun c hc => ⟨c, hc, rfl, rfl⟩)
      rfl (List.append_nil _).symm (by simp)
  | cancelled =>
    exact .of_events (fun id => ownerOf_erase s.actorTimers _ id) (fun c hc => ⟨c, hc, rfl, rfl⟩)
      rfl rfl (by simp)

/-- An id belongs to the service it was given to. -/
structure Owned (s : TimerState) : Prop where
  positive : 0 < s.nextActorTimerId
  zero : ownerOf s 0 = none
  calls : ∀ c ∈ s.scheduling, c.id < s.nextActorTimerId ∧
    ∀ owner, ownerOf s c.id = some owner → owner = c.request.serviceId
  created : ∀ owner id, .created owner id ∈ s.events → id < s.nextActorTimerId ∧
    ∀ owner', ownerOf s id = some owner' → owner' = owner

theorem Owned.step (h : Owned s) (hstep : s.step l = some next) : Owned next := by
  cases timer_step_owner hstep with
  | quiet howner hcalls hid hcreated =>
    have hof : ∀ id owner, ownerOf next id = some owner → ownerOf s id = some owner := by
      intro id owner hnext
      rcases howner id with hsame | hnone
      · rw [← hsame, hnext]
      · rw [hnone] at hnext
        cases hnext
    refine ⟨hid ▸ h.positive, ?_, ?_, ?_⟩
    · rcases howner 0 with hsame | hnone
      · rw [hsame, h.zero]
      · exact hnone
    · intro c hc
      obtain ⟨c', hc', hcid, hrequest⟩ := hcalls c hc
      rw [hid, hcid, hrequest]
      exact ⟨(h.calls c' hc').1, fun owner hnext => (h.calls c' hc').2 owner (hof _ owner hnext)⟩
    · intro owner id hmem
      rw [hid]
      rcases hcreated owner id hmem with hmem | rfl | ⟨c, hc, rfl, rfl⟩
      · obtain ⟨hlt, hsame⟩ := h.created owner id hmem
        exact ⟨hlt, fun owner' hnext => hsame owner' (hof id owner' hnext)⟩
      · refine ⟨h.positive, ?_⟩
        intro owner' hnext
        have := hof 0 owner' hnext
        rw [h.zero] at this
        cases this
      · exact ⟨(h.calls c hc).1, fun owner' hnext => (h.calls c hc).2 owner' (hof _ owner' hnext)⟩
  | scheduled call hcall howner hscheduling hid hevents =>
    -- nothing has had the new id before
    have hold : ∀ id, id < s.nextActorTimerId → ownerOf next id = ownerOf s id := by
      intro id hlt
      rw [howner, if_neg hlt.ne]
    refine ⟨by omega, ?_, ?_, ?_⟩
    · rw [hold 0 h.positive, h.zero]
    · intro c hc
      rw [hscheduling, List.mem_append, List.mem_singleton] at hc
      rcases hc with hc | rfl
      · obtain ⟨hlt, hsame⟩ := h.calls c hc
        rw [hold c.id hlt]
        exact ⟨by omega, hsame⟩
      refine ⟨by omega, ?_⟩
      intro owner hnext
      rw [howner, if_pos hcall] at hnext
      exact (Option.some.inj hnext).symm
    · intro owner id hmem
      rw [hevents] at hmem
      obtain ⟨hlt, hsame⟩ := h.created owner id hmem
      rw [hold id hlt]
      exact ⟨by omega, hsame⟩

end

variable {ls : List TimerLabel}

lemma owned_reachable (hrun : run TimerState.step {} ls = some s) : Owned s := by
  have hinit : Owned {} := by
    constructor <;> simp [ownerOf]
  exact reachable_invariant TimerState.step (fun _ _ _ h hstep => h.step hstep) hinit hrun

lemma cancel_keeps {a : ServiceId} (h : Owned s) (hcreated : .created a id ∈ s.events)
    (hstep : s.step (.cancel (some a) id) = some next) {other : Nat} {timer : ActorTimerState}
    (hlookup : s.actorTimers.lookup other = some timer) (howner : timer.serviceId ≠ a) :
    next.actorTimers.lookup other = some timer := by
  have hother : other ≠ id := by
    rintro rfl
    refine howner ((h.created a other hcreated).2 timer.serviceId ?_)
    rw [ownerOf, hlookup, Option.map_some]
  cases hstep
  unfold TimerState.cancelActorTimer
  split
  · exact hlookup
  · exact (AList.lookup_erase_ne hother).trans hlookup

/-- The request is entered when it is made and scheduled next. -/
def creationSucceeds (s : TimerState) (r : TimerRequest) : Bool :=
  match run TimerState.step s [.request r, .schedule s.requests.length] with
  | some next => decide (s.scheduling.length < next.scheduling.length)
  | none => false

/-- The limit of timers does not stand in the way of the request. -/
def hasRoomFor (s : TimerState) (r : TimerRequest) : Prop :=
  r.kind = .sleep ∨ s.actorTimers.entries.length < timerLimit

lemma creationSucceeds_eq {r : TimerRequest} (hroom : hasRoomFor s r) :
    creationSucceeds s r = (decide (r.serviceId ≠ "") && (s.serviceActors r.serviceId).isSome) := by
  have hpasses : ¬(r.kind ≠ .sleep ∧ timerLimit ≤ s.actorTimers.entries.length) := by
    rintro ⟨hkind, hfull⟩
    exact hroom.elim hkind (Nat.not_lt.mpr hfull)
  by_cases hname : r.serviceId = ""
  · simp [creationSucceeds, run, TimerState.step, TimerState.request, hpasses, hname,
      TimerState.log]
  cases hactor : s.serviceActors r.serviceId with
  | none =>
    simp [creationSucceeds, run, TimerState.step, TimerState.request, hpasses, hname,
      TimerState.schedule, TimerState.log, hactor]
  | some =>
    simp [creationSucceeds, run, TimerState.step, TimerState.request, hpasses, hname,
      TimerState.schedule, hactor]

/-- The step enters or erases the actor of the service. -/
def registersActor (a : ServiceId) : TimerLabel → Bool
  | .spawn serviceId | .eraseActor serviceId _ => decide (serviceId = a)
  | _ => false

def isSpawn : TimerLabel → Bool
  | .spawn _ => true
  | _ => false

lemma registersActor_of_cancel (h : cancelTarget l = some id) (a : ServiceId) :
    registersActor a l = false := by
  cases l with
  | cancel | cancelListed => rfl
  | _ => cases h

lemma serviceActors_step (h : s.step l = some next) (a : ServiceId) :
    (next.serviceActors a).isSome =
      if registersActor a l = true then isSpawn l else (s.serviceActors a).isSome := by
  cases timer_case h with
  | @registered serviceId | @erased serviceId =>
    by_cases ha : serviceId = a
    · simp [registersActor, isSpawn, ha]
    · simp [registersActor, ha, Function.update_of_ne (Ne.symm ha)]
  | ticked =>
    unfold TimerState.tick TimerState.post
    split <;> rfl
  | uncancelled hl | cancelled hl =>
    rw [registersActor_of_cancel hl]
    rfl
  | _ => rfl

lemma serviceActors_run {last : TimerState} (hrun : run TimerState.step s ls = some last)
    (a : ServiceId) :
    (last.serviceActors a).isSome =
      (ls.filter (registersActor a)).foldl (fun _ l => isSpawn l) (s.serviceActors a).isSome := by
  induction ls generalizing s with
  | nil =>
    cases hrun
    rfl
  | cons l ls ih =>
    obtain ⟨next, hnext, hrest⟩ := run_cons _ hrun
    rw [ih hrest, serviceActors_step hnext, List.filter_cons]
    split <;> rfl

/-- A service that cancels an id it was given keeps the timers of every other service. Where the
limit has room, whether a service's timer is created is the same in two runs that agree on the
registration of that service alone. -/
theorem timers_of_service (a : ServiceId) :
    (∀ ls s id next, run TimerState.step {} ls = some s → .created a id ∈ s.events →
      s.step (.cancel (some a) id) = some next →
      ∀ other timer, s.actorTimers.lookup other = some timer → timer.serviceId ≠ a →
        next.actorTimers.lookup other = some timer) ∧
    ∀ ls₁ ls₂ s₁ s₂ r, run TimerState.step {} ls₁ = some s₁ →
      run TimerState.step {} ls₂ = some s₂ → r.serviceId = a →
      ls₁.filter (registersActor a) = ls₂.filter (registersActor a) → hasRoomFor s₁ r → hasRoomFor s₂ r →
      creationSucceeds s₁ r = creationSucceeds s₂ r := by
  refine ⟨?_, ?_⟩
  · intro ls s id next hrun hcreated hstep other timer hlookup howner
    exact cancel_keeps (owned_reachable hrun) hcreated hstep hlookup howner
  · rintro ls₁ ls₂ s₁ s₂ r hrun₁ hrun₂ rfl hsame hroom₁ hroom₂
    rw [creationSucceeds_eq hroom₁, creationSucceeds_eq hroom₂, serviceActors_run hrun₁,
      serviceActors_run hrun₂, hsame]

def entering (r : TimerRequest) : List TimerLabel :=
  [.request r, .schedule 0, .spawnDriver 0, .setDriver 0]

def twoTimersRun : List TimerLabel :=
  .spawn "a" :: .spawn "b" ::
    (entering ⟨"a", .once, 10⟩).append (entering ⟨"b", .fixedDelay, 10⟩)

def sleeperRun : List TimerLabel :=
  .spawn "b" :: (entering ⟨"b", .sleep, 10⟩).append [.spawn "a"]

theorem timers_of_service_two :
    (∃ s next, run TimerState.step {} twoTimersRun = some s ∧
      s.step (.cancel (some "a") 1) = some next ∧ next.actorTimers.lookup 1 = none ∧
      next.actorTimers.lookup 2 = some ⟨10, true, "b", true⟩) ∧
    ∃ s₁ s₂, run TimerState.step {} [.spawn "a"] = some s₁ ∧
      run TimerState.step {} sleeperRun = some s₂ ∧
      creationSucceeds s₁ ⟨"a", .once, 10⟩ = creationSucceeds s₂ ⟨"a", .once, 10⟩ := by
  obtain ⟨hkeeps, hsame⟩ := timers_of_service "a"
  refine ⟨⟨_, _, rfl, rfl, rfl, ?_⟩, ⟨_, _, rfl, rfl, ?_⟩⟩
  · exact hkeeps twoTimersRun _ 1 _ rfl (by decide) rfl 2 _ rfl (by decide)
  · exact hsame [.spawn "a"] sleeperRun _ _ _ rfl rfl rfl (by decide) (.inr (by decide))
      (.inr (by decide))

lemma entering_sleep {i : Instance} (hrequests : s.requests = []) (hscheduling : s.scheduling = [])
    (hactor : s.serviceActors "b" = some i) :
    ∃ next, run TimerState.step s (entering ⟨"b", .sleep, 10⟩) = some next ∧
      next.requests = [] ∧ next.scheduling = [] ∧ next.serviceActors = s.serviceActors ∧
      next.actorTimers = s.actorTimers.insert s.nextActorTimerId ⟨10, false, "b", true⟩ := by
  simp [entering, run, TimerState.step, TimerState.request, TimerState.schedule,
    TimerState.spawnDriver, TimerState.setDriver, TimerState.log, hrequests, hscheduling, hactor]

lemma sleepers (n : Nat) :
    ∃ ls s, run TimerState.step {} ls = some s ∧ ls.filter (registersActor "a") = [.spawn "a"] ∧
      s.requests = [] ∧ s.scheduling = [] ∧ s.serviceActors "b" = some 1 ∧
      s.actorTimers.entries.length = n ∧ ∀ id, ownerOf s id ≠ some "a" := by
  induction n with
  | zero =>
    refine ⟨[.spawn "a", .spawn "b"], _, rfl, rfl, rfl, rfl, rfl, rfl, ?_⟩
    intro id
    simp [ownerOf]
  | succ n ih =>
    obtain ⟨ls, s, hrun, hregisters, hrequests, hscheduling, hactor, hlength, howner⟩ := ih
    obtain ⟨next, hnext, hrequests', hscheduling', hactors, htimers⟩ :=
      entering_sleep hrequests hscheduling hactor
    have hplaced : Placed s := reachable_invariant TimerState.step
      (fun _ _ _ h hstep => h.step (timer_step_move hstep)) placed_initial hrun
    have hfresh : s.nextActorTimerId ∉ s.actorTimers := by
      rw [← AList.lookup_eq_none, ← Option.map_eq_none_iff (f := ActorTimerState.repeating)]
      by_contra hne
      obtain ⟨r, hr⟩ := Option.ne_none_iff_exists'.mp hne
      exact lt_irrefl _ (hplaced.bound _ r .table hr)
    refine ⟨ls ++ entering ⟨"b", .sleep, 10⟩, next, run_append _ hrun hnext, ?_, hrequests',
      hscheduling', hactors ▸ hactor, ?_, ?_⟩
    · rw [List.filter_append, hregisters]
      rfl
    · rw [htimers, AList.entries_insert_of_notMem hfresh, List.length_cons, hlength]
    · intro id
      rw [ownerOf, htimers, lookup_insert_map]
      split
      · simp
      · exact howner id

/-- Service "a" cancels a timer of "b". The sleeping coroutines of "b" keep "a", which has no
timer, from creating one that it could create without them. -/
theorem timers_shared :
    (∃ s next timer, run TimerState.step {} twoTimersRun = some s ∧
      s.step (.cancel (some "a") 2) = some next ∧ s.actorTimers.lookup 2 = some timer ∧
      timer.serviceId = "b" ∧ next.actorTimers.lookup 2 = none) ∧
    ∃ ls s₁ s₂, run TimerState.step {} ls = some s₁ ∧
      run TimerState.step {} [.spawn "a"] = some s₂ ∧
      ls.filter (registersActor "a") = [.spawn "a"] ∧ (∀ id, ownerOf s₁ id ≠ some "a") ∧
      creationSucceeds s₁ ⟨"a", .once, 10⟩ = false ∧
      creationSucceeds s₂ ⟨"a", .once, 10⟩ = true := by
  refine ⟨⟨_, _, _, rfl, rfl, rfl, rfl, rfl⟩, ?_⟩
  obtain ⟨ls, s, hrun, hregisters, hrequests, -, -, hlength, howner⟩ := sleepers timerLimit
  refine ⟨ls, s, _, hrun, rfl, hregisters, howner, ?_, by decide⟩
  simp [creationSucceeds, run, TimerState.step, TimerState.request, TimerState.log, hrequests,
    hlength]

section Index

open TimerState

variable {index : ServiceId → List Nat} {a b : ServiceId}

lemma addToIndex_spec (h : ∀ b, (index b).Nodup) (new : Nat) :
    (addToIndex index a new b).Nodup ∧
      ∀ id, id ∈ addToIndex index a new b ↔ id ∈ index b ∨ b = a ∧ id = new := by
  unfold addToIndex
  by_cases hb : b = a <;> split <;> simp_all [or_comm]

lemma removeFromIndex_spec (h : ∀ b, (index b).Nodup) (gone : Nat) :
    (removeFromIndex index a gone b).Nodup ∧
      ∀ id, id ∈ removeFromIndex index a gone b ↔ id ∈ index b ∧ ¬(b = a ∧ id = gone) := by
  unfold removeFromIndex
  by_cases hb : b = a
  · simp [hb, (h a).erase, (h a).mem_erase_iff, and_comm]
  · simp [hb, h]

def callIds (s : TimerState) : List Nat := s.scheduling.map Scheduling.id

/-- The index of a service holds, once each, its timers whose scheduling calls have returned, and no
two of the calls under way have the same id. -/
structure Listed (s : TimerState) : Prop where
  calls : (callIds s).Nodup
  nodup : ∀ serviceId, (s.actorTimersByService serviceId).Nodup
  index : ∀ serviceId id, id ∈ s.actorTimersByService serviceId ↔
    ownerOf s id = some serviceId ∧ id ∉ callIds s

lemma callIds_leave {call : Nat} {c : Scheduling} (h : Listed s) (next : TimerState)
    (hc : s.scheduling[call]? = some c) (hcalls : next.scheduling = s.scheduling.eraseIdx call) :
    c.id ∉ callIds next ∧ (callIds next).Nodup ∧
      ∀ id, id ∈ callIds s ↔ id = c.id ∨ id ∈ callIds next := by
  have hperm : (callIds s).Perm (c.id :: callIds next) := by
    rw [callIds, callIds, hcalls]
    exact (perm_of_getElem? hc).map _
  obtain ⟨hout, hnodup⟩ := List.nodup_cons.mp (hperm.nodup_iff.mp h.calls)
  exact ⟨hout, hnodup, fun id => hperm.mem_iff.trans List.mem_cons⟩

theorem Listed.step (h : Listed s) (howned : Owned s) (hplaced : Placed s)
    (hstep : s.step l = some next) : Listed next := by
  cases timer_case hstep with
  | registered | erased | terminated | requested | driverStopped | missed | firedAgain
  | uncancelled | listedTimers | advanced | limited | anonymous | unscheduled | started | finished =>
    exact { h with }
  | ticked =>
    unfold tick post
    split <;> exact { h with }
  | @scheduled call r target =>
    have hnone : ownerOf s s.nextActorTimerId = none := by
      cases hlookup : s.actorTimers.lookup s.nextActorTimerId with
      | none => rw [ownerOf, hlookup, Option.map_none]
      | some timer => exact absurd (hplaced.bound _ _ .table (kindOf_of_lookup hlookup)) (lt_irrefl _)
    have hnew : ∀ c ∈ s.scheduling, c.id ≠ s.nextActorTimerId :=
      fun c hc => (howned.calls c hc).1.ne
    refine ⟨by simpa [callIds, List.nodup_append] using ⟨h.calls, hnew⟩, h.nodup, ?_⟩
    intro serviceId id
    have hindex := h.index serviceId id
    simp only [ownerOf, lookup_insert_map, callIds, List.map_append] at hindex hnone ⊢
    grind
  | @spawned call c hc =>
    have hperm : (callIds (s.spawnDriver call c)).Perm (callIds s) :=
      ((set_perm_of_getElem? hc _).map _).trans ((perm_of_getElem? hc).map Scheduling.id).symm
    refine ⟨hperm.nodup_iff.mpr h.calls, h.nodup, ?_⟩
    intro serviceId id
    rw [hperm.mem_iff]
    exact h.index serviceId id
  | @spawnFailed call c hc =>
    obtain ⟨-, hcalls, hmem⟩ := callIds_leave h (s.spawnFails call c) hc rfl
    refine ⟨hcalls, h.nodup, ?_⟩
    intro serviceId id
    have hindex := h.index serviceId id
    simp only [ownerOf, spawnFails, log, lookup_erase_map] at hindex hmem ⊢
    grind
  | driverLeft hc _ hlookup =>
    obtain ⟨-, hcalls, hmem⟩ := callIds_leave h { s with scheduling := _ } hc rfl
    refine ⟨hcalls, h.nodup, ?_⟩
    intro serviceId id
    have hindex := h.index serviceId id
    grind [ownerOf, callIds, log]
  | driverSet hc _ hlookup =>
    have howner := (howned.calls _ (List.mem_of_getElem? hc)).2 _
      (congrArg (Option.map ActorTimerState.serviceId) hlookup)
    obtain ⟨hout, hcalls, hmem⟩ := callIds_leave h { s with scheduling := _ } hc rfl
    refine ⟨hcalls, fun _ => (addToIndex_spec h.nodup _).1, ?_⟩
    intro serviceId id
    have hindex := h.index serviceId id
    simp only [log, (addToIndex_spec h.nodup _).2, ownerOf, lookup_insert_map] at hindex ⊢
    grind [callIds]
  | firedOnce _ _ hlookup | cancelled _ hlookup =>
    refine ⟨h.calls, fun _ => (removeFromIndex_spec h.nodup _).1, ?_⟩
    intro serviceId id
    have hindex := h.index serviceId id
    simp only [log, (removeFromIndex_spec h.nodup _).2, ownerOf, lookup_erase_map] at hindex ⊢
    grind [callIds]

end Index

/-- However schedules, fires, cancels and exits are interleaved, the index agrees with the table. -/
theorem timer_index_exact (ls : List TimerLabel) (s : TimerState)
    (hrun : run TimerState.step {} ls = some s) : Listed s := by
  have hstep : ∀ s l next, Owned s ∧ Placed s ∧ Listed s → TimerState.step s l = some next →
      Owned next ∧ Placed next ∧ Listed next := by
    rintro s l next ⟨howned, hplaced, h⟩ hstep
    exact ⟨howned.step hstep, hplaced.step (timer_step_move hstep), h.step howned hplaced hstep⟩
  have hinit : Owned {} ∧ Placed {} ∧ Listed {} := by
    refine ⟨@owned_reachable {} [] rfl, placed_initial, ?_⟩
    constructor <;> simp [ownerOf, callIds]
  exact (reachable_invariant TimerState.step hstep hinit hrun).2.2

theorem timer_index_exact_two :
    ∃ s, run TimerState.step {} twoTimersRun = some s ∧
      1 ∈ s.actorTimersByService "a" ∧ 2 ∉ s.actorTimersByService "a" := by
  have h := timer_index_exact twoTimersRun _ rfl
  exact ⟨_, rfl, (h.index "a" 1).mpr (by decide), (h.index "a" 2).not.mpr (by decide)⟩

end ShieldRuntime.Proofs
