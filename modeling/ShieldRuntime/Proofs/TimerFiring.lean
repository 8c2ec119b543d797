import ShieldRuntime.Library.Machine
import ShieldRuntime.Lua.Timers

/-!
# The steps of timers, and when timers fire

What one step can do to the timers, said once; the moves of the modules on timers follow from it. A
one-shot timer is in the table, in the hands of one actor, or over.
-/

namespace ShieldRuntime.Proofs
open Library Lua

def cancelTarget : TimerLabel → Option Nat
  | .cancel _ id | .cancelListed id => some id
  | _ => none

inductive TimerCase (s : TimerState) : TimerLabel → TimerState → Prop
  | registered {serviceId} :
    TimerCase s (.spawn serviceId) { s with
      serviceActors := Function.update s.serviceActors serviceId
        (some ((s.serviceActors serviceId).getD s.nextInstance))
      nextInstance := s.nextInstance + 1 }
  | erased {serviceId kill i} :
    s.serviceActors serviceId = some i →
    TimerCase s (.eraseActor serviceId kill) { s with
      serviceActors := Function.update s.serviceActors serviceId none
      exiting := if kill then i :: s.exiting else s.exiting }
  | terminated {i} : i ∈ s.exiting → s.firing i = none →
    TimerCase s (.terminate i)
      { s with stopped := i :: s.stopped, mailbox := Function.update s.mailbox i [] }
  -- the limit, a call without a service, and a service without an actor
  | limited {r} : r.kind ≠ .sleep → timerLimit ≤ s.actorTimers.entries.length →
    TimerCase s (.request r) (s.log (.refused r.serviceId))
  | anonymous {r} : r.serviceId = "" →
    TimerCase s (.request r) (s.log (.created "" 0))
  | requested {r} : r.kind = .sleep ∨ s.actorTimers.entries.length < timerLimit →
    r.serviceId ≠ "" → TimerCase s (.request r) { s with requests := s.requests ++ [r] }
  | unscheduled {call r} : s.requests[call]? = some r →
    s.serviceActors r.serviceId = none →
    TimerCase s (.schedule call)
      ({ s with requests := s.requests.eraseIdx call }.log (.created r.serviceId 0))
  | scheduled {call r target} :
    s.requests[call]? = some r → s.serviceActors r.serviceId = some target →
    TimerCase s (.schedule call) { s with
      requests := s.requests.eraseIdx call
      actorTimers := s.actorTimers.insert s.nextActorTimerId
        { intervalMs := r.delayMs, repeating := r.kind = .fixedDelay, serviceId := r.serviceId }
      nextActorTimerId := s.nextActorTimerId + 1
      scheduling := s.scheduling ++ [{ id := s.nextActorTimerId, request := r, target }] }
  | spawned {call c} : s.scheduling[call]? = some c → c.spawned = false →
    TimerCase s (.spawnDriver call) (s.spawnDriver call c)
  | spawnFailed {call c} : s.scheduling[call]? = some c →
    c.spawned = false → TimerCase s (.spawnFails call) (s.spawnFails call c)
  | driverLeft {call c} : s.scheduling[call]? = some c → c.spawned = true →
    s.actorTimers.lookup c.id = none →
    TimerCase s (.setDriver call) ({ s with scheduling := s.scheduling.eraseIdx call }.log
      (.created c.request.serviceId c.id))
  | driverSet {call c timer} :
    s.scheduling[call]? = some c → c.spawned = true →
    s.actorTimers.lookup c.id = some timer →
    TimerCase s (.setDriver call) ({ s with
      scheduling := s.scheduling.eraseIdx call
      actorTimers := s.actorTimers.insert c.id { timer with driver := true }
      actorTimersByService := TimerState.addToIndex s.actorTimersByService
        c.request.serviceId c.id }.log (.created c.request.serviceId c.id))
  | ticked {driver d} : s.drivers[driver]? = some d → d.due ≤ s.now →
    TimerCase s (.tick driver) (s.tick driver d)
  | driverStopped {driver d} : s.drivers[driver]? = some d →
    d.killed = true →
    TimerCase s (.stopDriver driver) { s with drivers := s.drivers.eraseIdx driver }
  | missed {i fire rest} : s.firing i = none →
    s.mailbox i = fire :: rest → s.actorTimers.lookup fire.timerId = none →
    TimerCase s (.fire i) { s with mailbox := Function.update s.mailbox i rest }
  | firedAgain {i fire rest timer} :
    s.firing i = none → s.mailbox i = fire :: rest →
    s.actorTimers.lookup fire.timerId = some timer → timer.repeating = true →
    TimerCase s (.fire i) { s with
      mailbox := Function.update s.mailbox i rest
      firing := Function.update s.firing i (some (.copied fire timer)) }
  | firedOnce {i fire rest timer} :
    s.firing i = none → s.mailbox i = fire :: rest →
    s.actorTimers.lookup fire.timerId = some timer → timer.repeating = false →
    TimerCase s (.fire i) { s with
      mailbox := Function.update s.mailbox i rest
      firing := Function.update s.firing i (some (.copied fire timer))
      actorTimers := s.actorTimers.erase fire.timerId
      actorTimersByService :=
        TimerState.removeFromIndex s.actorTimersByService timer.serviceId fire.timerId }
  | started {i fire timer} :
    s.firing i = some (.copied fire timer) →
    TimerCase s (.start i)
      ({ s with firing := Function.update s.firing i (some (.running fire timer)) }.log
        (.started fire.timerId timer.repeating))
  | finished {i raised fire timer} :
    s.firing i = some (.running fire timer) →
    TimerCase s (.finish i raised)
      ({ s with firing := Function.update s.firing i none }.log
        (.ended fire.timerId s.now raised))
  | uncancelled {l id listed} :
    cancelTarget l = some id → s.actorTimers.lookup id = none → TimerCase s l { s with listed }
  | cancelled {l id timer listed} :
    cancelTarget l = some id → s.actorTimers.lookup id = some timer →
    TimerCase s l ({ s with
      listed
      drivers :=
        if timer.driver then
          s.drivers.map fun (d : TimerDriver) =>
            if d.timerId = id then { d with killed := true } else d
        else s.drivers
      actorTimersByService :=
        TimerState.removeFromIndex s.actorTimersByService timer.serviceId id
      actorTimers := s.actorTimers.erase id }.log (.cancelled id timer.repeating))
  | listedTimers {serviceId} :
    TimerCase s (.listTimers serviceId)
      { s with listed := s.listed ++ s.actorTimersByService serviceId }
  | advanced {ms} : TimerCase s (.advance ms) { s with now := s.now + ms }

section

variable {s next : TimerState} {l : TimerLabel}

lemma request_case (s : TimerState) (r : TimerRequest) :
    TimerCase s (.request r) (s.request r) := by
  unfold TimerState.request
  split
  · rename_i hfull
    exact .limited hfull.1 hfull.2
  rename_i hroom
  split
  · exact .anonymous ‹_›
  · refine .requested ?_ ‹_›
    rwa [not_and_or, not_not, not_le] at hroom

variable {call : Nat}

lemma schedule_case {r : TimerRequest} (hr : s.requests[call]? = some r) :
    TimerCase s (.schedule call) (s.schedule call r) := by
  unfold TimerState.schedule
  dsimp only
  split
  · exact .unscheduled hr ‹_›
  · exact .scheduled hr ‹_›

lemma setDriver_case {c : Scheduling} (hc : s.scheduling[call]? = some c)
    (hspawned : c.spawned = true) : TimerCase s (.setDriver call) (s.setDriver call c) := by
  unfold TimerState.setDriver
  dsimp only
  split
  · exact .driverLeft hc hspawned ‹_›
  · exact .driverSet hc hspawned ‹_›

lemma fire_case {i : Instance} {fire : Fire} {rest : List Fire} (hfree : s.firing i = none)
    (hmailbox : s.mailbox i = fire :: rest) : TimerCase s (.fire i) (s.fire i fire rest) := by
  unfold TimerState.fire
  dsimp only
  split
  · exact .missed hfree hmailbox ‹_›
  split
  · exact .firedAgain hfree hmailbox ‹_› ‹_›
  · exact .firedOnce hfree hmailbox ‹_› (Bool.eq_false_iff.mpr ‹_›)

lemma cancelActorTimer_case (s : TimerState) (listed : List Nat) {id : Nat}
    (hl : cancelTarget l = some id) :
    TimerCase s l (TimerState.cancelActorTimer { s with listed } id) := by
  unfold TimerState.cancelActorTimer
  split
  · exact .uncancelled hl ‹_›
  · exact .cancelled hl ‹_›

theorem timer_case (h : s.step l = some next) : TimerCase s l next := by
  cases l with
  | spawn =>
    cases h
    exact .registered
  | eraseActor =>
    obtain ⟨i, hi, rfl⟩ := Option.map_eq_some_iff.mp h
    exact .erased hi
  | terminate =>
    obtain ⟨⟨hexiting, hfree⟩, ⟨⟩⟩ := Option.ite_none_right_eq_some.mp h
    exact .terminated hexiting hfree
  | request r =>
    cases h
    exact request_case s r
  | schedule =>
    obtain ⟨r, hr, rfl⟩ := Option.map_eq_some_iff.mp h
    exact schedule_case hr
  | spawnDriver =>
    obtain ⟨c, hc, hnext⟩ := Option.bind_eq_some_iff.mp h
    obtain ⟨hspawned, ⟨⟩⟩ := Option.ite_none_left_eq_some.mp hnext
    exact .spawned hc (Bool.eq_false_iff.mpr hspawned)
  | spawnFails =>
    obtain ⟨c, hc, hnext⟩ := Option.bind_eq_some_iff.mp h
    obtain ⟨hspawned, ⟨⟩⟩ := Option.ite_none_left_eq_some.mp hnext
    exact .spawnFailed hc (Bool.eq_false_iff.mpr hspawned)
  | setDriver =>
    obtain ⟨c, hc, hnext⟩ := Option.bind_eq_some_iff.mp h
    obtain ⟨hspawned, ⟨⟩⟩ := Option.ite_none_right_eq_some.mp hnext
    exact setDriver_case hc hspawned
  | tick =>
    obtain ⟨d, hd, hnext⟩ := Option.bind_eq_some_iff.mp h
    obtain ⟨hdue, ⟨⟩⟩ := Option.ite_none_right_eq_some.mp hnext
    exact .ticked hd hdue
  | stopDriver =>
    obtain ⟨d, hd, hnext⟩ := Option.bind_eq_some_iff.mp h
    obtain ⟨hkilled, ⟨⟩⟩ := Option.ite_none_right_eq_some.mp hnext
    exact .driverStopped hd hkilled
  | fire =>
    simp only [TimerState.step] at h
    split at h <;> cases h
    exact fire_case ‹_› ‹_›
  | start =>
    simp only [TimerState.step] at h
    split at h <;> cases h
    exact .started ‹_›
  | finish =>
    simp only [TimerState.step] at h
    split at h <;> cases h
    exact .finished ‹_›
  | cancel =>
    cases h
    exact cancelActorTimer_case s s.listed rfl
  | listTimers =>
    cases h
    exact .listedTimers
  | cancelListed id =>
    obtain ⟨-, ⟨⟩⟩ := Option.ite_none_right_eq_some.mp h
    exact cancelActorTimer_case s (s.listed.erase id) rfl
  | advance =>
    cases h
    exact .advanced

end

def kindOf (s : TimerState) (id : Nat) : Option Bool :=
  (s.actorTimers.lookup id).map ActorTimerState.repeating

def copyOf (s : TimerState) (i : Instance) : Option (Nat × Bool) :=
  match s.firing i with
  | some (.copied fire timer) => some (fire.timerId, timer.repeating)
  | _ => none

def isNeutral : TimerEvent → Bool
  | .started _ _ | .cancelled _ _ => false
  | _ => true

def Uneventful (s next : TimerState) : Prop :=
  ∃ new, next.events = s.events ++ new ∧ ∀ e ∈ new, isNeutral e = true

/-- Every way a step can change a timer's place. -/
inductive TimerMove (s : TimerState) (l : TimerLabel) (next : TimerState) : Prop
  | quiet : (∀ id, kindOf next id = kindOf s id) → (∀ i, copyOf next i = copyOf s i) →
    next.nextActorTimerId = s.nextActorTimerId → Uneventful s next → TimerMove s l next
  | scheduled (repeating) :
    (∀ id, kindOf next id = if id = s.nextActorTimerId then some repeating else kindOf s id) →
    (∀ i, copyOf next i = copyOf s i) → next.nextActorTimerId = s.nextActorTimerId + 1 →
    next.events = s.events → TimerMove s l next
  | dropped (gone) : (∀ id, kindOf next id = if id = gone then none else kindOf s id) →
    (∀ i, copyOf next i = copyOf s i) → next.nextActorTimerId = s.nextActorTimerId →
    Uneventful s next → TimerMove s l next
  | cancelled (gone repeating) : cancelTarget l = some gone →
    kindOf s gone = some repeating →
    (∀ id, kindOf next id = if id = gone then none else kindOf s id) →
    (∀ i, copyOf next i = copyOf s i) → next.nextActorTimerId = s.nextActorTimerId →
    next.events = s.events ++ [.cancelled gone repeating] → TimerMove s l next
  | copied (actor fired repeating) :
    copyOf s actor = none → kindOf s fired = some repeating →
    (∀ id, kindOf next id = if id = fired ∧ repeating = false then none else kindOf s id) →
    (∀ i, copyOf next i = if i = actor then some (fired, repeating) else copyOf s i) →
    next.nextActorTimerId = s.nextActorTimerId → next.events = s.events → TimerMove s l next
  | started (actor fired repeating) :
    copyOf s actor = some (fired, repeating) → (∀ id, kindOf next id = kindOf s id) →
    (∀ i, copyOf next i = if i = actor then none else copyOf s i) →
    next.nextActorTimerId = s.nextActorTimerId →
    next.events = s.events ++ [.started fired repeating] → TimerMove s l next

section

variable {s next : TimerState} {l : TimerLabel}

section

variable {α : Type} (timers : AList (fun _ : Nat => ActorTimerState)) (f : ActorTimerState → α)

lemma lookup_erase_map (gone id : Nat) :
    ((timers.erase gone).lookup id).map f = if id = gone then none else (timers.lookup id).map f := by
  by_cases hid : id = gone
  · subst hid
    simp
  · simp [hid, AList.lookup_erase_ne hid]

lemma lookup_insert_map (new id : Nat) (timer : ActorTimerState) :
    ((timers.insert new timer).lookup id).map f =
      if id = new then some (f timer) else (timers.lookup id).map f := by
  by_cases hid : id = new
  · subst hid
    simp
  · simp [hid, AList.lookup_insert_ne hid]

end

lemma TimerMove.of_same (htimers : next.actorTimers = s.actorTimers)
    (hfiring : next.firing = s.firing) (hid : next.nextActorTimerId = s.nextActorTimerId)
    (hevents : Uneventful s next) : TimerMove s l next := by
  refine .quiet ?_ ?_ hid hevents
  · intro id
    rw [kindOf, kindOf, htimers]
  · intro i
    rw [copyOf, copyOf, hfiring]

lemma uneventful_of_eq (h : next.events = s.events) : Uneventful s next :=
  ⟨[], by simp [h], by simp⟩

lemma uneventful_log {event : TimerEvent} (h : next.events = s.events ++ [event])
    (hneutral : isNeutral event = true) : Uneventful s next :=
  ⟨[event], h, by simpa using hneutral⟩

variable {timer : ActorTimerState} {i : Instance}

lemma kindOf_of_lookup {id : Nat} (h : s.actorTimers.lookup id = some timer) :
    kindOf s id = some timer.repeating :=
  congrArg (Option.map ActorTimerState.repeating) h

lemma copyOf_copied {fire : Fire}
    (h : next.firing = Function.update s.firing i (some (.copied fire timer))) (j : Instance) :
    copyOf next j = if j = i then some (fire.timerId, timer.repeating) else copyOf s j := by
  by_cases hj : j = i <;> simp [copyOf, h, hj]

theorem timer_step_move (h : s.step l = some next) : TimerMove s l next := by
  cases timer_case h with
  | registered | erased | terminated | requested | spawned | driverStopped | missed
  | uncancelled | listedTimers | advanced => exact .of_same rfl rfl rfl (uneventful_of_eq rfl)
  | limited | anonymous | unscheduled | driverLeft =>
    exact .of_same rfl rfl rfl (uneventful_log rfl rfl)
  | @scheduled call r =>
    refine .scheduled (decide (r.kind = .fixedDelay)) ?_ (fun _ => rfl) rfl rfl
    intro id
    simp only [kindOf, lookup_insert_map]
  | @spawnFailed call c =>
    refine .dropped c.id ?_ (fun _ => rfl) rfl (uneventful_log rfl rfl)
    intro id
    simp only [kindOf, TimerState.spawnFails, TimerState.log, lookup_erase_map]
  | driverSet _ _ hlookup =>
    -- the entry that is written back repeats as before
    refine .quiet ?_ (fun _ => rfl) rfl (uneventful_log rfl rfl)
    intro id
    simp only [kindOf, TimerState.log, lookup_insert_map]
    split
    · rename_i hid
      subst hid
      exact (kindOf_of_lookup hlookup).symm
    · rfl
  | ticked =>
    unfold TimerState.tick TimerState.post
    split <;> exact .of_same rfl rfl rfl (uneventful_log rfl rfl)
  | firedAgain hfree _ hlookup hrepeating =>
    refine .copied _ _ _ (by simp [copyOf, hfree]) (kindOf_of_lookup hlookup) ?_
      (copyOf_copied rfl) rfl rfl
    intro id
    simp [kindOf, hrepeating]
  | firedOnce hfree _ hlookup honce =>
    refine .copied _ _ _ (by simp [copyOf, hfree]) (kindOf_of_lookup hlookup) ?_
      (copyOf_copied rfl) rfl rfl
    intro id
    simp [kindOf, lookup_erase_map, honce]
  | @started i fire timer hcopied =>
    refine .started i fire.timerId timer.repeating (by simp [copyOf, hcopied]) (fun _ => rfl) ?_ rfl
      rfl
    intro j
    by_cases hj : j = i <;> simp [copyOf, TimerState.log, hj]
  | @finished i raised fire timer hrunning =>
    refine .quiet (fun _ => rfl) ?_ rfl (uneventful_log rfl rfl)
    intro j
    by_cases hj : j = i
    · simp [copyOf, TimerState.log, hj, hrunning]
    · simp [copyOf, TimerState.log, hj]
  | cancelled hl hlookup =>
    refine .cancelled _ _ hl (kindOf_of_lookup hlookup) ?_ (fun _ => rfl) rfl rfl
    intro id
    simp only [kindOf, TimerState.log, lookup_erase_map]

end

/-- The timer has left the table and is in nobody's hands; its id is not given again. -/
structure Gone (s : TimerState) (id : Nat) : Prop where
  given : id < s.nextActorTimerId
  table : kindOf s id = none
  hands : ∀ i r, copyOf s i ≠ some (id, r)

/-- No callback of a timer starts after an event that ends it. -/
def NoStartAfter (ends : TimerEvent → Nat → Prop) (events : List TimerEvent) : Prop :=
  events.Pairwise fun e e' => ∀ id r, ends e id → e' ≠ .started id r

/-- No run of a timer starts after its cancel. -/
def StopsCancelled (repeating : Bool) (events : List TimerEvent) : Prop :=
  NoStartAfter (fun e id => e = .cancelled id repeating) events

/-- A timer that has ended is gone. -/
structure Ended (ends : TimerEvent → Nat → Prop) (s : TimerState) : Prop where
  gone : ∀ e ∈ s.events, ∀ id, ends e id → Gone s id
  stops : NoStartAfter ends s.events

/-- A timer with the flag is over for good, or its callback has run. -/
def Over (repeating : Bool) (e : TimerEvent) (id : Nat) : Prop :=
  e = .cancelled id repeating ∨ e = .started id repeating

inductive Place where
  | table
  | hand (i : Instance)
  | past

def At (s : TimerState) (id : Nat) (repeating : Bool) : Place → Prop
  | .table => kindOf s id = some repeating
  | .hand i => copyOf s i = some (id, repeating)
  | .past => ∃ e ∈ s.events, Over repeating e id

/-- An id is given once, and a one-shot timer is in one place. -/
structure Placed (s : TimerState) : Prop where
  bound : ∀ id r p, At s id r p → id < s.nextActorTimerId
  kind : ∀ id r r' p q, At s id r p → At s id r' q → r = r'
  place : ∀ id p q, At s id false p → At s id false q → p = q

section

variable {s next : TimerState} {e : TimerEvent} {repeating : Bool} {fired id : Nat} {l : TimerLabel}
  {ends : TimerEvent → Nat → Prop} {events : List TimerEvent} {p : Place}

lemma Gone.step (h : Gone s id) (hmove : TimerMove s l next) : Gone next id := by
  obtain ⟨hlt, htable, hhand⟩ := h
  cases hmove with
  | quiet hkind hcopy hid => exact ⟨hid ▸ hlt, (hkind id).trans htable, by simpa only [hcopy]⟩
  | scheduled _ hkind hcopy hid _ =>
    exact ⟨by omega, by rw [hkind, if_neg hlt.ne, htable], by simpa only [hcopy]⟩
  | dropped gone hkind hcopy hid | cancelled gone _ _ _ hkind hcopy hid =>
    exact ⟨hid ▸ hlt, by rw [hkind, htable, ite_self], by simpa only [hcopy]⟩
  | copied actor fired repeating _ hfound hkind hcopy hid _ =>
    refine ⟨hid ▸ hlt, by rw [hkind, htable, ite_self], fun i r hi => ?_⟩
    rw [hcopy] at hi
    split at hi
    · cases hi
      cases htable.symm.trans hfound
    · exact hhand i r hi
  | started actor fired repeating _ hkind hcopy hid _ =>
    refine ⟨hid ▸ hlt, (hkind id).trans htable, fun i r hi => ?_⟩
    rw [hcopy] at hi
    exact hhand i r (Option.ite_none_left_eq_some.mp hi).2

lemma noStartAfter_neutral {new : List TimerEvent} (h : NoStartAfter ends events)
    (hnew : ∀ e ∈ new, ∀ id r, e ≠ .started id r) : NoStartAfter ends (events ++ new) := by
  refine List.pairwise_append.mpr ⟨h, List.pairwise_of_forall_mem_list ?_, ?_⟩
  · intro _ _ e he id r _
    exact hnew e he id r
  · intro _ _ e he id r _
    exact hnew e he id r

lemma noStartAfter_started (h : NoStartAfter ends events) (hbefore : ∀ e ∈ events, ¬ends e fired) :
    NoStartAfter ends (events ++ [.started fired repeating]) := by
  refine List.pairwise_append.mpr ⟨h, List.pairwise_singleton _ _, ?_⟩
  rintro e he e' he' id r hends rfl
  cases List.mem_singleton.mp he'
  exact hbefore e he hends

lemma Ended.stops_step (h : Ended ends s) (hmove : TimerMove s l next) :
    NoStartAfter ends next.events := by
  cases hmove with
  | quiet _ _ _ hevents | dropped _ _ _ _ hevents =>
    obtain ⟨new, hevents, hneutral⟩ := hevents
    rw [hevents]
    refine noStartAfter_neutral h.stops ?_
    rintro e he id r rfl
    cases hneutral _ he
  | scheduled _ _ _ _ hevents | copied _ _ _ _ _ _ _ _ hevents =>
    rw [hevents]
    exact h.stops
  | cancelled _ _ _ _ _ _ _ hevents =>
    rw [hevents]
    exact noStartAfter_neutral h.stops (by simp)
  | started actor fired repeating hfound _ _ _ hevents =>
    rw [hevents]
    refine noStartAfter_started h.stops fun e he hends => ?_
    exact (h.gone e he fired hends).hands actor repeating hfound

theorem Ended.step (h : Ended ends s) (hmove : TimerMove s l next)
    (hnew : ∀ e ∈ next.events, e ∉ s.events → ∀ id, ends e id → Gone next id) :
    Ended ends next := by
  refine ⟨fun e he id hends => ?_, h.stops_step hmove⟩
  by_cases hold : e ∈ s.events
  · exact (h.gone e hold id hends).step hmove
  · exact hnew e he hold id hends

lemma Uneventful.over_mem (h : Uneventful s next) (hover : Over repeating e id)
    (he : e ∈ next.events) : e ∈ s.events := by
  obtain ⟨new, hevents, hneutral⟩ := h
  rw [hevents] at he
  refine (List.mem_append.mp he).resolve_right fun hnew => ?_
  rcases hover with rfl | rfl <;> cases hneutral _ hnew

lemma Uneventful.past (h : Uneventful s next) (hpast : At next id repeating .past) :
    At s id repeating .past := by
  obtain ⟨e, he, hover⟩ := hpast
  exact ⟨e, h.over_mem hover he, hover⟩

section

variable (h : Placed s)
include h

lemma Placed.absent (he : e ∈ s.events) (hover : Over false e id) : Gone s id := by
  have hpast : At s id false .past := ⟨e, he, hover⟩
  refine ⟨h.bound _ _ _ hpast, Option.eq_none_iff_forall_ne_some.mpr fun r hr => ?_, fun i r hi => ?_⟩
  · cases h.kind id _ _ .past .table hpast hr
    cases h.place id .past .table hpast hr
  · cases h.kind id _ _ .past (.hand i) hpast hi
    cases h.place id .past (.hand i) hpast hi

lemma Placed.mono (hid : next.nextActorTimerId = s.nextActorTimerId)
    (hat : ∀ id r p, At next id r p → At s id r p) : Placed next :=
  ⟨fun id r p hp => hid ▸ h.bound id r p (hat id r p hp),
    fun id r r' p q hp hq => h.kind id r r' p q (hat id r p hp) (hat id r' q hq),
    fun id p q hp hq => h.place id p q (hat id false p hp) (hat id false q hq)⟩

lemma Placed.arrive (repeating : Bool) (p : Place)
    (hle : s.nextActorTimerId ≤ next.nextActorTimerId)
    (hlt : fired < next.nextActorTimerId) (hkind : ∀ r q, At s fired r q → r = repeating)
    (hplace : repeating = false → ∀ q, At s fired false q → ¬At next fired false q)
    (hat : ∀ id r q, At next id r q → At s id r q ∨ id = fired ∧ r = repeating ∧ q = p) :
    Placed next := by
  refine ⟨fun id r q hq => ?_, fun id r r' q q' hq hq' => ?_, fun id q q' hq hq' => ?_⟩
  · rcases hat id r q hq with hold | ⟨rfl, -, -⟩
    · exact (h.bound id r q hold).trans_le hle
    · exact hlt
  · rcases hat id r q hq with hold | ⟨rfl, rfl, -⟩ <;>
      rcases hat _ r' q' hq' with hold' | ⟨hid, hr, -⟩
    · exact h.kind id r r' q q' hold hold'
    · exact hr ▸ hkind r q (hid ▸ hold)
    · exact (hkind r' q' hold').symm
    · exact hr.symm
  · rcases hat id false q hq with hold | ⟨rfl, hr, rfl⟩ <;>
      rcases hat _ false q' hq' with hold' | ⟨hid, hr', rfl⟩
    · exact h.place id q q' hold hold'
    · exact absurd (hid ▸ hq) (hplace hr'.symm q (hid ▸ hold))
    · exact absurd hq' (hplace hr.symm q' hold')
    · rfl

/-- The timer goes from one place to the next. -/
lemma Placed.pass (p : Place) {q : Place} (hid : next.nextActorTimerId = s.nextActorTimerId)
    (hfrom : At s fired repeating q) (hleft : repeating = false → ¬At next fired false q)
    (hat : ∀ id r q, At next id r q → At s id r q ∨ id = fired ∧ r = repeating ∧ q = p) :
    Placed next := by
  refine h.arrive _ p hid.ge (hid ▸ h.bound _ _ _ hfrom) (fun r q' hq' => h.kind _ _ _ _ _ hq' hfrom)
    ?_ hat
  rintro rfl q' hq' hnext
  obtain rfl := h.place _ _ _ hq' hfrom
  exact hleft rfl hnext

lemma Placed.step (hmove : TimerMove s l next) : Placed next := by
  cases hmove with
  | quiet hkind hcopy hid hevents =>
    refine h.mono hid ?_
    rintro id r (_ | i | _) hat
    · exact (hkind id).symm.trans hat
    · exact (hcopy i).symm.trans hat
    · exact hevents.past hat
  | scheduled repeating hkind hcopy hid hevents =>
    -- the new timer has an id that nothing has had before
    have hfresh : ∀ r p, ¬At s s.nextActorTimerId r p :=
      fun r p hat => lt_irrefl _ (h.bound _ r p hat)
    refine h.arrive repeating .table (by omega) (by omega) (fun r q hq => absurd hq (hfresh r q))
      (fun _ q hq => absurd hq (hfresh false q)) ?_
    rintro id r (_ | i | _) hat
    · rw [At, hkind] at hat
      split at hat
      · exact .inr ⟨‹_›, (Option.some.inj hat).symm, rfl⟩
      · exact .inl hat
    · exact .inl ((hcopy i).symm.trans hat)
    · exact .inl (by rwa [At, hevents] at hat)
  | dropped gone hkind hcopy hid hevents =>
    refine h.mono hid ?_
    rintro id r (_ | i | _) hat
    · exact (Option.ite_none_left_eq_some.mp ((hkind id).symm.trans hat)).2
    · exact (hcopy i).symm.trans hat
    · exact hevents.past hat
  | cancelled gone repeating _ hfound hkind hcopy hid hevents =>
    refine h.pass .past (q := .table) hid hfound (fun _ hat => ?_) ?_
    · rw [At, hkind, if_pos rfl] at hat
      cases hat
    rintro id r (_ | i | _) hat
    · exact .inl (Option.ite_none_left_eq_some.mp ((hkind id).symm.trans hat)).2
    · exact .inl ((hcopy i).symm.trans hat)
    · obtain ⟨e, he, hover⟩ := hat
      rw [hevents, List.mem_append, List.mem_singleton] at he
      rcases he with he | rfl
      · exact .inl ⟨e, he, hover⟩
      · rcases hover with hover | hover <;> cases hover
        exact .inr ⟨rfl, rfl, rfl⟩
  | copied actor fired repeating _ hfound hkind hcopy hid hevents =>
    refine h.pass (.hand actor) (q := .table) hid hfound ?_ ?_
    · rintro rfl hat
      rw [At, hkind, if_pos ⟨rfl, rfl⟩] at hat
      cases hat
    rintro id r (_ | i | _) hat
    · exact .inl (Option.ite_none_left_eq_some.mp ((hkind id).symm.trans hat)).2
    · rw [At, hcopy] at hat
      split at hat
      · cases hat
        exact .inr ⟨rfl, rfl, congrArg Place.hand ‹_›⟩
      · exact .inl hat
    · exact .inl (by rwa [At, hevents] at hat)
  | started actor fired repeating hfound hkind hcopy hid hevents =>
    refine h.pass .past (q := .hand actor) hid hfound (fun _ hat => ?_) ?_
    · rw [At, hcopy, if_pos rfl] at hat
      cases hat
    rintro id r (_ | i | _) hat
    · exact .inl ((hkind id).symm.trans hat)
    · exact .inl (Option.ite_none_left_eq_some.mp ((hcopy i).symm.trans hat)).2
    · obtain ⟨e, he, hover⟩ := hat
      rw [hevents, List.mem_append, List.mem_singleton] at he
      rcases he with he | rfl
      · exact .inl ⟨e, he, hover⟩
      · rcases hover with hover | hover <;> cases hover
        exact .inr ⟨rfl, rfl, rfl⟩

end

end

/-- A repeating timer is not cancelled while an actor holds a copy of it. -/
def cancelsInTime (s : TimerState) (l : TimerLabel) : Prop :=
  ∀ id ∈ cancelTarget l, kindOf s id = some true → ∀ i r, copyOf s i ≠ some (id, r)

lemma Placed.absent_of_cancel {s next : TimerState} {l : TimerLabel} {id : Nat} (h : Placed s)
    (hintime : cancelsInTime s l) (hmove : TimerMove s l next)
    (he : .cancelled id true ∈ next.events) (hnew : .cancelled id true ∉ s.events) :
    Gone next id := by
  cases hmove with
  | quiet _ _ _ hevents | dropped _ _ _ _ hevents =>
    exact absurd (hevents.over_mem (.inl rfl) he) hnew
  | scheduled _ _ _ _ hevents | copied _ _ _ _ _ _ _ _ hevents => exact absurd (hevents ▸ he) hnew
  | started _ _ _ _ _ _ _ hevents => simp [hevents, hnew] at he
  | cancelled gone repeating htarget hfound hkind hcopy hid hevents =>
    simp only [hevents, List.mem_append, hnew, List.mem_singleton, false_or] at he
    cases he
    refine ⟨hid ▸ h.bound _ _ .table hfound, by rw [hkind, if_pos rfl], ?_⟩
    simpa only [hcopy] using hintime _ htarget hfound

lemma ended_initial (ends : TimerEvent → Nat → Prop) : Ended ends {} := by
  constructor <;> simp [NoStartAfter]

lemma placed_initial : Placed {} := by
  have hnone : ∀ id r p, ¬At {} id r p := by
    rintro id r (_ | i | _) <;> simp [At, kindOf, copyOf]
  exact ⟨fun id r p hp => absurd hp (hnone id r p), fun id r _ p _ hp => absurd hp (hnone id r p),
    fun id p _ hp => absurd hp (hnone id false p)⟩

/-- The callback of a one-shot timer starts at most once, and not after a cancel. If no actor
is about to start the callback of a repeating timer when that is cancelled, it does not start
afterwards either. -/
theorem timer_firing_discipline (ls : List TimerLabel) (s : TimerState)
    (hrun : run TimerState.step {} ls = some s) :
    (∀ id, s.events.count (.started id false) ≤ 1) ∧ StopsCancelled false s.events ∧
      (Admits TimerState.step cancelsInTime {} ls → StopsCancelled true s.events) := by
  have hplaced : ∀ s l next, Placed s ∧ Ended (Over false) s → TimerState.step s l = some next →
      Placed next ∧ Ended (Over false) next := by
    rintro s l next ⟨hplaced, hended⟩ hstep
    have hnext := hplaced.step (timer_step_move hstep)
    exact ⟨hnext, fun e he id => hnext.absent he, hended.stops_step (timer_step_move hstep)⟩
  obtain ⟨-, honce⟩ := reachable_invariant TimerState.step hplaced
    ⟨placed_initial, ended_initial (Over false)⟩ hrun
  refine ⟨fun id => ?_, honce.stops.imp fun himp id r hends => himp id r (.inl hends), fun hgood => ?_⟩
  · by_contra htwice
    have hpair := List.replicate_sublist_iff.mpr (Nat.lt_of_not_le htwice)
    have hstops := honce.stops.sublist hpair
    simp [Over] at hstops
  · have hcancels : ∀ s l next, Placed s ∧ Ended (fun e id => e = .cancelled id true) s →
        cancelsInTime s l → TimerState.step s l = some next →
        Placed next ∧ Ended (fun e id => e = .cancelled id true) next := by
      rintro s l next ⟨hplaced, hended⟩ hintime hstep
      refine ⟨hplaced.step (timer_step_move hstep), hended.step (timer_step_move hstep) ?_⟩
      rintro _ he hnew id rfl
      exact hplaced.absent_of_cancel hintime (timer_step_move hstep) he hnew
    exact (run_invariant TimerState.step hcancels ⟨placed_initial, ended_initial _⟩ hgood hrun).2.stops

def firedRun : List TimerLabel :=
  [.spawn "a", .request ⟨"a", .fixedDelay, 10⟩, .schedule 0, .spawnDriver 0, .setDriver 0,
    .advance 10, .tick 0, .fire 0, .start 0, .finish 0 false, .advance 10, .tick 0]

theorem timer_firing_discipline_cancelled :
    ∃ s, run TimerState.step {} (firedRun ++ [.cancel (some "a") 1, .fire 0]) = some s ∧
      (∀ id, s.events.count (.started id false) ≤ 1) ∧ StopsCancelled false s.events ∧
      StopsCancelled true s.events := by
  have h := timer_firing_discipline (firedRun ++ [.cancel (some "a") 1, .fire 0]) _ rfl
  refine ⟨_, rfl, h.1, h.2.1, h.2.2 ?_⟩
  refine admits_append TimerState.step (admits_of_forall _ ?_ _) rfl ⟨?_, ?_⟩
  · simp [firedRun, cancelsInTime, cancelTarget]
  · -- the callback has ended when the timer is cancelled
    rintro id - - (_ | i) r ⟨⟩
  · intro next _
    exact admits_of_forall _ (by simp [cancelsInTime, cancelTarget]) next

def lateCancelRun : List TimerLabel :=
  [.spawn "a", .request ⟨"a", .fixedDelay, 10⟩, .schedule 0, .spawnDriver 0, .setDriver 0,
    .advance 10, .tick 0, .fire 0, .listTimers "a", .cancelListed 1, .start 0]

theorem started_after_cancel :
    ∃ s, run TimerState.step {} lateCancelRun = some s ∧
      s.events = [.created "a" 1, .ticked 1 10 10, .cancelled 1 true, .started 1 true] :=
  ⟨_, rfl, rfl⟩

end ShieldRuntime.Proofs
