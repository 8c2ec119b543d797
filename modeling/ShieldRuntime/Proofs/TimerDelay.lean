import ShieldRuntime.Library.NameIndex
import ShieldRuntime.Proofs.TimerFiring

/-!
# The pace of repeating timers

A driver sets its next tick when it sends a fire, not when the callback returns.
-/

namespace ShieldRuntime.Proofs
open Library Lua

def fireOf : Firing → Fire
  | .copied fire _ | .running fire _ => fire

def firesAt (s : TimerState) (i : Instance) : List Fire :=
  ((s.firing i).map fireOf).toList ++ s.mailbox i

def awake (d : TimerDriver) : TimerDriver := { d with killed := false }

def sourcesOf (s : TimerState) (id : Nat) : Nat :=
  s.scheduling.countP (fun c => decide (c.id = id) && !c.spawned) +
    s.drivers.countP (fun d => decide (d.timerId = id))

/-- Nothing is added that can fire. -/
structure Shrinks (s next : TimerState) : Prop where
  scheduling : next.scheduling.Sublist s.scheduling
  drivers : (next.drivers.map awake).Sublist (s.drivers.map awake)
  fires : ∀ i, (firesAt next i).Sublist (firesAt s i)
  id : next.nextActorTimerId = s.nextActorTimerId

def timedId : TimerEvent → Option Nat
  | .ticked id _ _ | .ended id _ _ => some id
  | _ => none

inductive DelayMove (s : TimerState) (l : TimerLabel) (next : TimerState) : Prop
  | quiet {new} : Shrinks s next → next.now = s.now →
    next.events = s.events ++ new → (∀ e ∈ new, timedId e = none) → DelayMove s l next
  | advanced {ms} : l = .advance ms → next = { s with now := s.now + ms } →
    DelayMove s l next
  | scheduled (call) : call.id = s.nextActorTimerId → call.spawned = false →
    next.scheduling = s.scheduling ++ [call] → next.drivers = s.drivers →
    (∀ i, firesAt next i = firesAt s i) →
    next.nextActorTimerId = s.nextActorTimerId + 1 → next.now = s.now →
    next.events = s.events → DelayMove s l next
  | spawned {call c} : s.scheduling[call]? = some c → c.spawned = false →
    next = s.spawnDriver call c → DelayMove s l next
  | ticked {driver d} : s.drivers[driver]? = some d → d.due ≤ s.now →
    next = s.tick driver d → DelayMove s l next
  | ended {i fire timer raised} :
    l = .finish i raised → s.firing i = some (.running fire timer) → Shrinks s next →
    next.now = s.now → next.events = s.events ++ [.ended fire.timerId s.now raised] →
    DelayMove s l next

section

variable {s next : TimerState} {l : TimerLabel}

lemma Shrinks.of_same (hscheduling : next.scheduling.Sublist s.scheduling)
    (hdrivers : next.drivers.Sublist s.drivers) (hfiring : next.firing = s.firing)
    (hmailbox : next.mailbox = s.mailbox)
    (hid : next.nextActorTimerId = s.nextActorTimerId) : Shrinks s next := by
  refine ⟨hscheduling, hdrivers.map awake, ?_, hid⟩
  intro i
  rw [firesAt, firesAt, hfiring, hmailbox]

variable {new events : List TimerEvent} {i : Instance} {fire : Fire} {rest : List Fire}
  {timer : ActorTimerState} {d d' : TimerDriver} {driver : Nat} {raised : Bool}

lemma firesAt_of_free (hfree : s.firing i = none) (hmailbox : s.mailbox i = fire :: rest) :
    firesAt s i = fire :: rest := by
  simp [firesAt, hfree, hmailbox]

lemma firesAt_copied (hfree : s.firing i = none) (hmailbox : s.mailbox i = fire :: rest)
    (hnext : next.mailbox = Function.update s.mailbox i rest)
    (hcopied : next.firing = Function.update s.firing i (some (.copied fire timer)))
    (j : Instance) : (firesAt next j).Sublist (firesAt s j) := by
  by_cases hj : j = i
  · subst hj
    rw [firesAt_of_free hfree hmailbox]
    simp [firesAt, hnext, hcopied, fireOf]
  · simp [firesAt, hnext, hcopied, hj]

lemma awake_kill (drivers : List TimerDriver) (id : Nat) :
    (drivers.map fun d => if d.timerId = id then { d with killed := true } else d).map awake =
      drivers.map awake := by
  rw [List.map_map]
  refine congrArg (drivers.map ·) ?_
  funext d
  rw [Function.comp_apply]
  split <;> rfl

theorem timer_step_delay (h : s.step l = some next) : DelayMove s l next := by
  cases timer_case h with
  | registered | erased | requested | uncancelled | listedTimers =>
    exact .quiet (.of_same (.refl _) (.refl _) rfl rfl rfl) rfl (List.append_nil _).symm (by simp)
  | limited | anonymous | unscheduled =>
    exact .quiet (.of_same (.refl _) (.refl _) rfl rfl rfl) rfl rfl (by simp [timedId])
  | @terminated i =>
    refine .quiet ⟨.refl _, .refl _, ?_, rfl⟩ rfl (List.append_nil _).symm (by simp)
    intro j
    refine List.Sublist.append (.refl _) ?_
    by_cases hj : j = i <;> simp [hj]
  | scheduled => exact .scheduled _ rfl rfl rfl rfl (fun _ => rfl) rfl rfl rfl
  | spawned hc hspawned => exact .spawned hc hspawned rfl
  | spawnFailed | driverLeft | driverSet =>
    exact .quiet (.of_same (List.eraseIdx_sublist ..) (.refl _) rfl rfl rfl) rfl rfl
      (by simp [timedId])
  | ticked hd hdue => exact .ticked hd hdue rfl
  | driverStopped =>
    exact .quiet (.of_same (.refl _) (List.eraseIdx_sublist ..) rfl rfl rfl) rfl
      (List.append_nil _).symm (by simp)
  | @missed i fire rest hfree hmailbox =>
    refine .quiet ⟨.refl _, .refl _, ?_, rfl⟩ rfl (List.append_nil _).symm (by simp)
    intro j
    by_cases hj : j = i
    · subst hj
      rw [firesAt_of_free hfree hmailbox]
      simp [firesAt, hfree]
    · simp [firesAt, hj]
  | firedAgain hfree hmailbox | firedOnce hfree hmailbox =>
    exact .quiet ⟨.refl _, .refl _, firesAt_copied hfree hmailbox rfl rfl, rfl⟩ rfl
      (List.append_nil _).symm (by simp)
  | @started i fire timer hcopied =>
    refine .quiet ⟨.refl _, .refl _, ?_, rfl⟩ rfl rfl (by simp [timedId])
    intro j
    by_cases hj : j = i
    · simp [firesAt, TimerState.log, hj, hcopied, fireOf]
    · simp [firesAt, TimerState.log, hj]
  | @finished i raised fire timer hrunning =>
    refine .ended rfl hrunning ⟨.refl _, .refl _, ?_, rfl⟩ rfl rfl
    intro j
    refine List.Sublist.append ?_ (.refl _)
    by_cases hj : j = i <;> simp [TimerState.log, hj]
  | cancelled =>
    refine .quiet ⟨.refl _, ?_, fun _ => .refl _, rfl⟩ rfl rfl (by simp [timedId])
    simp only [TimerState.log]
    split
    · rw [awake_kill]
    · exact .refl _
  | advanced => exact .advanced rfl rfl

/-- Each timer fires from one place to one actor. -/
structure Homed (home : Nat → Instance) (s : TimerState) : Prop where
  calls : ∀ c ∈ s.scheduling, c.id < s.nextActorTimerId ∧ c.target = home c.id
  drivers : ∀ d ∈ s.drivers, d.timerId < s.nextActorTimerId ∧ d.target = home d.timerId
  fires : ∀ i, ∀ f ∈ firesAt s i, f.timerId < s.nextActorTimerId ∧ i = home f.timerId
  alone : ∀ id, sourcesOf s id ≤ 1

variable {home : Nat → Instance}

lemma Shrinks.mem_drivers (h : Shrinks s next) (hd : d ∈ next.drivers) :
    ∃ d' ∈ s.drivers, d.timerId = d'.timerId ∧ d.target = d'.target ∧
      d.intervalMs = d'.intervalMs ∧ d.due = d'.due := by
  obtain ⟨d', hd', hawake⟩ := List.mem_map.mp (h.drivers.subset (List.mem_map_of_mem hd))
  refine ⟨d', hd', ?_⟩
  simp only [awake, TimerDriver.mk.injEq] at hawake
  obtain ⟨hid, htarget, hinterval, -, hdue, -⟩ := hawake
  exact ⟨hid.symm, htarget.symm, hinterval.symm, hdue.symm⟩

lemma countP_awake (ds : List TimerDriver) (id : Nat) :
    (ds.map awake).countP (fun d => decide (d.timerId = id)) =
      ds.countP (fun d => decide (d.timerId = id)) := by
  rw [List.countP_map]
  rfl

lemma Homed.shrink (h : Homed home s) (hs : Shrinks s next) : Homed home next := by
  refine ⟨?_, ?_, ?_, ?_⟩
  · intro c hc
    rw [hs.id]
    exact h.calls c (hs.scheduling.subset hc)
  · intro d hd
    obtain ⟨d', hd', hid, htarget, -, -⟩ := hs.mem_drivers hd
    rw [hs.id, hid, htarget]
    exact h.drivers d' hd'
  · intro i f hf
    rw [hs.id]
    exact h.fires i f ((hs.fires i).subset hf)
  · intro id
    have hcalls := hs.scheduling.countP_le (p := fun c => decide (c.id = id) && !c.spawned)
    have hdrivers := hs.drivers.countP_le (p := fun d => decide (d.timerId = id))
    have := h.alone id
    rw [countP_awake, countP_awake] at hdrivers
    unfold sourcesOf at this ⊢
    omega

lemma Homed.scheduled (h : Homed home s) {call : Scheduling} (hcall : call.id = s.nextActorTimerId)
    (hscheduling : next.scheduling = s.scheduling ++ [call]) (hdrivers : next.drivers = s.drivers)
    (hfires : ∀ i, firesAt next i = firesAt s i)
    (hid : next.nextActorTimerId = s.nextActorTimerId + 1) :
    Homed (Function.update home call.id call.target) next := by
  have hold : ∀ id, id < s.nextActorTimerId →
      Function.update home call.id call.target id = home id := by
    intro id hlt
    rw [Function.update_of_ne (by omega)]
  refine ⟨?_, ?_, ?_, ?_⟩
  · intro c hc
    rw [hid]
    rw [hscheduling, List.mem_append, List.mem_singleton] at hc
    rcases hc with hc | rfl
    · obtain ⟨hlt, htarget⟩ := h.calls c hc
      exact ⟨hlt.trans (Nat.lt_succ_self _), by rw [hold c.id hlt, htarget]⟩
    · exact ⟨by omega, by rw [Function.update_self]⟩
  · intro d hd
    rw [hdrivers] at hd
    obtain ⟨hlt, htarget⟩ := h.drivers d hd
    exact ⟨by omega, by rw [hold d.timerId hlt, htarget]⟩
  · intro i f hf
    rw [hfires] at hf
    obtain ⟨hlt, hhome⟩ := h.fires i f hf
    exact ⟨by omega, by rw [hold f.timerId hlt, hhome]⟩
  · intro id
    simp only [sourcesOf, hscheduling, hdrivers, List.countP_append, List.countP_singleton]
    have halone := h.alone id
    unfold sourcesOf at halone
    by_cases hsame : call.id = id
    · -- no call and no driver has the new id yet
      have hcalls : s.scheduling.countP (fun c => decide (c.id = id) && !c.spawned) = 0 := by
        rw [List.countP_eq_zero]
        intro c hc
        have := (h.calls c hc).1
        simp only [Bool.and_eq_true, decide_eq_true_eq, not_and]
        omega
      have hnone : s.drivers.countP (fun d => decide (d.timerId = id)) = 0 := by
        rw [List.countP_eq_zero]
        intro d hd
        have := (h.drivers d hd).1
        simp only [decide_eq_true_eq]
        omega
      split <;> omega
    · simpa [hsame] using halone

lemma Homed.spawned (h : Homed home s) {call : Nat} {c : Scheduling}
    (hcall : s.scheduling[call]? = some c) (hspawned : c.spawned = false) :
    Homed home (s.spawnDriver call c) := by
  have hold := perm_of_getElem? hcall
  have hnew := set_perm_of_getElem? hcall { c with spawned := true }
  have hc := h.calls c (hold.mem_iff.mpr List.mem_cons_self)
  refine ⟨?_, ?_, h.fires, ?_⟩
  · intro c' hc'
    rcases List.mem_cons.mp (hnew.mem_iff.mp hc') with rfl | hc'
    · exact hc
    · exact h.calls c' (hold.mem_iff.mpr (List.mem_cons_of_mem _ hc'))
  · intro d hd
    rcases List.mem_append.mp hd with hd | hd
    · exact h.drivers d hd
    · rw [List.mem_singleton.mp hd]
      exact hc
  · intro id
    have halone := h.alone id
    rw [sourcesOf, hold.countP_eq, List.countP_cons] at halone
    simp only [sourcesOf, TimerState.spawnDriver]
    rw [hnew.countP_eq, List.countP_cons, List.countP_append, List.countP_singleton]
    simp only [hspawned, Bool.not_true, Bool.not_false, Bool.and_true, Bool.and_false,
      Bool.false_eq_true, if_false] at halone ⊢
    omega

lemma tick_drivers (hd : s.drivers[driver]? = some d) :
    (s.tick driver d).drivers.Perm (s.drivers.eraseIdx driver) ∨
      (s.tick driver d).drivers.Perm
        ({ d with due := s.now + d.intervalMs.toNat } :: s.drivers.eraseIdx driver) := by
  have hdrivers : (s.tick driver d).drivers =
      if d.repeating then s.drivers.set driver { d with due := s.now + d.intervalMs.toNat }
      else s.drivers.eraseIdx driver := by
    unfold TimerState.tick TimerState.post
    by_cases hstopped : d.target ∈ s.stopped <;> simp [hstopped, TimerState.log]
  rw [hdrivers]
  split
  · exact .inr (set_perm_of_getElem? hd _)
  · exact .inl (.refl _)

lemma tick_fires (driver : Nat) (d : TimerDriver) (i : Instance) :
    firesAt (s.tick driver d) i = firesAt s i ∨
      i = d.target ∧ firesAt (s.tick driver d) i = firesAt s i ++ [⟨d.timerId, s.now⟩] := by
  unfold TimerState.tick TimerState.post
  split
  · exact .inl rfl
  by_cases hi : i = d.target
  · refine .inr ⟨hi, ?_⟩
    simp [firesAt, TimerState.log, hi]
  · refine .inl ?_
    simp [firesAt, TimerState.log, hi]

lemma tick_frame (driver : Nat) (d : TimerDriver) :
    (s.tick driver d).scheduling = s.scheduling ∧
      (s.tick driver d).nextActorTimerId = s.nextActorTimerId ∧ (s.tick driver d).now = s.now ∧
      (s.tick driver d).events = s.events ++ [.ticked d.timerId s.now d.intervalMs.toNat] := by
  unfold TimerState.tick TimerState.post
  split <;> exact ⟨rfl, rfl, rfl, rfl⟩

lemma Homed.ticked (h : Homed home s) (hd : s.drivers[driver]? = some d) :
    Homed home (s.tick driver d) := by
  have hold := perm_of_getElem? hd
  have hd' := h.drivers d (hold.mem_iff.mpr List.mem_cons_self)
  have hrest : ∀ d' ∈ s.drivers.eraseIdx driver, d' ∈ s.drivers := fun d' hmem =>
    hold.mem_iff.mpr (List.mem_cons_of_mem _ hmem)
  obtain ⟨hscheduling, hid, -, -⟩ := tick_frame (s := s) driver d
  refine ⟨?_, ?_, ?_, ?_⟩
  · rw [hscheduling, hid]
    exact h.calls
  · intro d' hmem
    rw [hid]
    rcases tick_drivers hd with hnew | hnew
    · exact h.drivers d' (hrest d' (hnew.mem_iff.mp hmem))
    rcases List.mem_cons.mp (hnew.mem_iff.mp hmem) with rfl | hmem
    · exact hd'
    · exact h.drivers d' (hrest d' hmem)
  · intro i f hf
    rw [hid]
    rcases tick_fires driver d i with hsame | ⟨hi, hsent⟩
    · rw [hsame] at hf
      exact h.fires i f hf
    rw [hsent, List.mem_append, List.mem_singleton] at hf
    rcases hf with hf | rfl
    · exact h.fires i f hf
    · exact ⟨hd'.1, hi.trans hd'.2⟩
  · intro id
    have halone := h.alone id
    rw [sourcesOf, hold.countP_eq, List.countP_cons] at halone
    rw [sourcesOf, hscheduling]
    rcases tick_drivers hd with hnew | hnew
    · rw [hnew.countP_eq]
      omega
    · rw [hnew.countP_eq, List.countP_cons]
      exact halone

theorem Homed.step (h : Homed home s) (hstep : s.step l = some next) :
    ∃ home', Homed home' next := by
  cases timer_step_delay hstep with
  | quiet hshrinks | ended _ _ hshrinks => exact ⟨home, h.shrink hshrinks⟩
  | advanced _ hnext =>
    subst hnext
    exact ⟨home, ⟨h.calls, h.drivers, h.fires, h.alone⟩⟩
  | scheduled call hcall _ hscheduling hdrivers hfires hid =>
    exact ⟨_, h.scheduled hcall hscheduling hdrivers hfires hid⟩
  | spawned hcall hspawned hnext =>
    subst hnext
    exact ⟨home, h.spawned hcall hspawned⟩
  | ticked hd _ hnext =>
    subst hnext
    exact ⟨home, h.ticked hd⟩

lemma Homed.other (h : Homed home s) (hd : s.drivers[driver]? = some d)
    (hd' : d' ∈ s.drivers.eraseIdx driver) : d'.timerId ≠ d.timerId := by
  intro hsame
  have halone := h.alone d.timerId
  have hpos : 0 < (s.drivers.eraseIdx driver).countP (fun d' => decide (d'.timerId = d.timerId)) :=
    List.countP_pos_iff.mpr ⟨d', hd', by simp [hsame]⟩
  rw [sourcesOf, (perm_of_getElem? hd).countP_eq, List.countP_cons] at halone
  simp only [decide_true, if_true] at halone
  omega

/-- A tick after the end of a callback is an interval behind it, less the lag. -/
def KeepsDelay (id lag : Nat) (events : List TimerEvent) : Prop :=
  events.Pairwise fun e e' => ∀ ended raised ticked interval,
    e = .ended id ended raised → e' = .ticked id ticked interval → ended + interval ≤ ticked + lag

/-- The timer never ticks with an interval that the lag reaches. -/
def Outlasts (id lag : Nat) (events : List TimerEvent) : Prop :=
  ∀ time interval, .ticked id time interval ∈ events → lag < interval

/-- No fire or tick of the timer is later than the lag allows. -/
structure OnPace (id lag : Nat) (s : TimerState) : Prop where
  sent : ∀ i, ∀ f ∈ firesAt s i, f.timerId = id → f.sentAt ≤ s.now ∧ s.now ≤ f.sentAt + lag
  fired : ∀ d ∈ s.drivers, d.timerId = id → ∀ i, ∀ f ∈ firesAt s i, f.timerId = id →
    f.sentAt + d.intervalMs.toNat ≤ d.due
  rested : ∀ d ∈ s.drivers, d.timerId = id → ∀ ended raised, .ended id ended raised ∈ s.events →
    ended + d.intervalMs.toNat ≤ d.due + lag
  past : ∀ ended raised, .ended id ended raised ∈ s.events → ended ≤ s.now
  delay : KeepsDelay id lag s.events
  single : Outlasts id lag s.events → ∀ i, (firesAt s i).countP (fun f => decide (f.timerId = id)) ≤ 1

variable {id lag : Nat}

lemma OnPace.shrink (h : OnPace id lag s)
    (hdrivers : ∀ d ∈ next.drivers, ∃ d' ∈ s.drivers, d.timerId = d'.timerId ∧
      d.target = d'.target ∧ d.intervalMs = d'.intervalMs ∧ d.due = d'.due)
    (hfires : ∀ i, (firesAt next i).Sublist (firesAt s i)) (hnow : next.now = s.now)
    (hevents : next.events = s.events ++ new)
    (hended : ∀ ended raised, .ended id ended raised ∈ new → ended = s.now ∧
      ∀ d ∈ s.drivers, d.timerId = id → s.now + d.intervalMs.toNat ≤ d.due + lag)
    (hticked : ∀ time interval, .ticked id time interval ∉ new) : OnPace id lag next := by
  have hcases : ∀ ended raised, .ended id ended raised ∈ next.events →
      .ended id ended raised ∈ s.events ∨ .ended id ended raised ∈ new := by
    intro ended raised hmem
    rwa [hevents, List.mem_append] at hmem
  refine ⟨?_, ?_, ?_, ?_, ?_, ?_⟩
  · intro i f hf hid
    rw [hnow]
    exact h.sent i f ((hfires i).subset hf) hid
  · intro d hd hdid i f hf hfid
    obtain ⟨d', hd', hid, -, hinterval, hdue⟩ := hdrivers d hd
    rw [hinterval, hdue]
    exact h.fired d' hd' (hid.symm.trans hdid) i f ((hfires i).subset hf) hfid
  · intro d hd hdid ended raised hmem
    obtain ⟨d', hd', hid, -, hinterval, hdue⟩ := hdrivers d hd
    rw [hinterval, hdue]
    rcases hcases ended raised hmem with hmem | hmem
    · exact h.rested d' hd' (hid.symm.trans hdid) ended raised hmem
    · obtain ⟨rfl, hrested⟩ := hended ended raised hmem
      exact hrested d' hd' (hid.symm.trans hdid)
  · intro ended raised hmem
    rw [hnow]
    rcases hcases ended raised hmem with hmem | hmem
    · exact h.past ended raised hmem
    · exact (hended ended raised hmem).1.le
  · rw [hevents]
    refine List.pairwise_append.mpr ⟨h.delay, List.pairwise_of_forall_mem_list ?_, ?_⟩
    all_goals
      rintro e₁ - e₂ he₂ ended raised ticked interval - rfl
      exact absurd he₂ (hticked ticked interval)
  · intro houtlasts i
    refine ((hfires i).countP_le).trans (h.single (fun time interval hmem => ?_) i)
    exact houtlasts time interval (hevents ▸ List.mem_append_left _ hmem)

lemma OnPace.spawned (h : OnPace id lag s) (call : Nat) (c : Scheduling) :
    OnPace id lag (s.spawnDriver call c) := by
  refine ⟨h.sent, ?_, ?_, h.past, h.delay, h.single⟩
  · intro d hd hdid i f hf hfid
    rcases List.mem_append.mp hd with hd | hd
    · exact h.fired d hd hdid i f hf hfid
    · rw [List.mem_singleton.mp hd]
      exact Nat.add_le_add_right (h.sent i f hf hfid).1 _
  · intro d hd hdid ended raised hmem
    rcases List.mem_append.mp hd with hd | hd
    · exact h.rested d hd hdid ended raised hmem
    · rw [List.mem_singleton.mp hd]
      exact (Nat.add_le_add_right (h.past ended raised hmem) _).trans (Nat.le_add_right _ _)

lemma tick_mem_drivers (hd : s.drivers[driver]? = some d) (hd' : d' ∈ (s.tick driver d).drivers) :
    d' ∈ s.drivers.eraseIdx driver ∨ d' = { d with due := s.now + d.intervalMs.toNat } := by
  rcases tick_drivers hd with hperm | hperm
  · exact .inl (hperm.mem_iff.mp hd')
  · exact (List.mem_cons.mp (hperm.mem_iff.mp hd')).symm

lemma tick_mem_fires {f : Fire} (hf : f ∈ firesAt (s.tick driver d) i) :
    f ∈ firesAt s i ∨ f = ⟨d.timerId, s.now⟩ := by
  rcases tick_fires driver d i with hsame | ⟨-, hsent⟩
  · exact .inl (hsame ▸ hf)
  · rw [hsent, List.mem_append, List.mem_singleton] at hf
    exact hf

lemma OnPace.ticked (h : OnPace id lag s) (hhome : Homed home s) (hd : s.drivers[driver]? = some d)
    (hdue : d.due ≤ s.now) : OnPace id lag (s.tick driver d) := by
  obtain ⟨-, -, hnow, hevents⟩ := tick_frame (s := s) driver d
  have hmem : d ∈ s.drivers := List.mem_of_getElem? hd
  have hrest : ∀ d' ∈ s.drivers.eraseIdx driver, d' ∈ s.drivers := fun d' hd' =>
    (List.eraseIdx_sublist ..).subset hd'
  have hended : ∀ ended raised, .ended id ended raised ∈ (s.tick driver d).events ↔
      .ended id ended raised ∈ s.events := by
    simp [hevents]
  refine ⟨?_, ?_, ?_, ?_, ?_, ?_⟩
  · intro i f hf hfid
    rw [hnow]
    rcases tick_mem_fires hf with hf | rfl
    · exact h.sent i f hf hfid
    · exact ⟨le_rfl, Nat.le_add_right _ _⟩
  · intro d' hd' hdid i f hf hfid
    rcases tick_mem_drivers hd hd' with hd' | rfl
    · rcases tick_mem_fires hf with hf | rfl
      · exact h.fired d' (hrest d' hd') hdid i f hf hfid
      · exact absurd (hdid.trans hfid.symm) (hhome.other hd hd')
    have hsent : f.sentAt ≤ s.now := by
      rcases tick_mem_fires hf with hf | rfl
      · exact (h.sent i f hf hfid).1
      · exact le_rfl
    exact Nat.add_le_add_right hsent _
  · intro d' hd' hdid ended raised hend
    rw [hended] at hend
    rcases tick_mem_drivers hd hd' with hd' | rfl
    · exact h.rested d' (hrest d' hd') hdid ended raised hend
    · exact (Nat.add_le_add_right (h.past ended raised hend) _).trans (Nat.le_add_right _ _)
  · intro ended raised hend
    rw [hended] at hend
    rw [hnow]
    exact h.past ended raised hend
  · rw [hevents]
    refine List.pairwise_append.mpr ⟨h.delay, List.pairwise_singleton _ _, ?_⟩
    rintro e₁ hend e₂ htick ended raised ticked interval rfl rfl
    cases List.mem_singleton.mp htick
    exact (h.rested d hmem rfl ended raised hend).trans (Nat.add_le_add_right hdue _)
  · intro houtlasts i
    have hbefore := h.single (fun time interval htick =>
      houtlasts time interval (hevents ▸ List.mem_append_left _ htick)) i
    rcases tick_fires driver d i with hsame | ⟨-, hsent⟩
    · rw [hsame]
      exact hbefore
    rw [hsent, List.countP_append, List.countP_singleton]
    split
    · -- every earlier fire has been dealt with by now
      rename_i hdid
      have hdid : d.timerId = id := of_decide_eq_true hdid
      have hlong : lag < d.intervalMs.toNat :=
        houtlasts s.now _ (by rw [hevents, hdid]; simp)
      have hnone : (firesAt s i).countP (fun f => decide (f.timerId = id)) = 0 := by
        rw [List.countP_eq_zero]
        intro f hf hfid
        have hfid : f.timerId = id := of_decide_eq_true hfid
        have hfired := h.fired d hmem hdid i f hf hfid
        have hsentAt := h.sent i f hf hfid
        omega
      omega
    · exact hbefore

/-- Time does not go on past the lag while a fire of the timer is not dealt with. -/
def keepsUp (id lag : Nat) (s : TimerState) : TimerLabel → Prop
  | .advance ms => ∀ i, ∀ f ∈ firesAt s i, f.timerId = id → s.now + ms ≤ f.sentAt + lag
  | _ => True

theorem OnPace.step (h : OnPace id lag s) (hhome : Homed home s) (hgood : keepsUp id lag s l)
    (hstep : s.step l = some next) : OnPace id lag next := by
  cases timer_step_delay hstep with
  | quiet hshrinks hnow hevents hnew =>
    refine h.shrink (fun _ => hshrinks.mem_drivers) hshrinks.fires hnow hevents ?_ ?_
    · intro ended raised hmem
      cases hnew _ hmem
    · intro time interval hmem
      cases hnew _ hmem
  | advanced hl hnext =>
    subst hl hnext
    refine ⟨?_, h.fired, h.rested, ?_, h.delay, h.single⟩
    · intro i f hf hfid
      exact ⟨(h.sent i f hf hfid).1.trans (Nat.le_add_right _ _), hgood i f hf hfid⟩
    · intro ended raised hmem
      exact (h.past ended raised hmem).trans (Nat.le_add_right _ _)
  | scheduled call _ _ _ hdrivers hfires _ hnow hevents =>
    refine h.shrink ?_ (fun i => (hfires i).symm ▸ .refl _) hnow
      (hevents.trans (List.append_nil _).symm) (by simp) (by simp)
    exact fun d hd => ⟨d, hdrivers ▸ hd, rfl, rfl, rfl, rfl⟩
  | spawned _ _ hnext =>
    subst hnext
    exact h.spawned _ _
  | ticked hd hdue hnext =>
    subst hnext
    exact h.ticked hhome hd hdue
  | @ended i fire timer raised _ hrunning hshrinks hnow hevents =>
    refine h.shrink (fun _ => hshrinks.mem_drivers) hshrinks.fires hnow hevents ?_ (by simp)
    intro ended raised' hmem
    obtain ⟨hfid, rfl, -⟩ := TimerEvent.ended.inj (List.mem_singleton.mp hmem)
    refine ⟨rfl, fun d hd hdid => ?_⟩
    have hfire : fire ∈ firesAt s i := by simp [firesAt, hrunning, fireOf]
    have hsent := h.sent i fire hfire hfid.symm
    have hfired := h.fired d hd hdid i fire hfire hfid.symm
    omega

def Raises (id : Nat) (e : TimerEvent) (raised : Nat) : Prop :=
  raised = id ∧ ∃ time, e = .ended id time true

/-- A callback that raises an error has lost its timer by then. -/
def removedOnError (id : Nat) (s : TimerState) : TimerLabel → Prop
  | .finish i true => ∀ fire timer, s.firing i = some (.running fire timer) →
      fire.timerId = id → id ∉ s.actorTimers
  | _ => True

lemma ended_of_step (h : s.step l = some next) {time : Nat}
    (hmem : .ended id time raised ∈ next.events) :
    .ended id time raised ∈ s.events ∨ ∃ i fire timer, l = .finish i raised ∧
      s.firing i = some (.running fire timer) ∧ fire.timerId = id := by
  cases timer_step_delay h with
  | quiet _ _ hevents hnew =>
    rw [hevents, List.mem_append] at hmem
    refine .inl (hmem.resolve_right ?_)
    intro hmem
    cases hnew _ hmem
  | advanced _ hnext | spawned _ _ hnext =>
    subst hnext
    exact .inl hmem
  | scheduled _ _ _ _ _ _ _ _ hevents => exact .inl (hevents ▸ hmem)
  | ticked _ _ hnext =>
    subst hnext
    rw [(tick_frame _ _).2.2.2, List.mem_append, List.mem_singleton] at hmem
    refine .inl (hmem.resolve_right ?_)
    rintro ⟨⟩
  | ended hl hrunning _ _ hevents =>
    rw [hevents, List.mem_append, List.mem_singleton] at hmem
    refine hmem.imp_right ?_
    intro heq
    obtain ⟨hid, -, hraised⟩ := TimerEvent.ended.inj heq
    exact ⟨_, _, _, hraised ▸ hl, hrunning, hid.symm⟩

lemma firesAt_of_copyOf {r : Bool} (h : copyOf s i = some (id, r)) :
    ∃ f ∈ firesAt s i, f.timerId = id := by
  unfold copyOf at h
  split at h
  · rename_i fire timer hcopied
    cases h
    exact ⟨fire, by simp [firesAt, hcopied, fireOf], rfl⟩
  · cases h

lemma Homed.running (h : Homed home s) (hrunning : s.firing i = some (.running fire timer))
    (j : Instance) (r : Bool) : copyOf s j ≠ some (fire.timerId, r) := by
  intro hj
  obtain ⟨f, hf, hfid⟩ := firesAt_of_copyOf hj
  have hi := (h.fires i fire (by simp [firesAt, hrunning, fireOf])).2
  have hj' := (h.fires j f hf).2
  rw [hfid, ← hi] at hj'
  subst hj'
  rw [copyOf, hrunning] at hj
  cases hj

theorem raises_step (h : Ended (Raises id) s) (hhome : Homed home s) (hgood : removedOnError id s l)
    (hstep : s.step l = some next) : Ended (Raises id) next := by
  have hmove := timer_step_move hstep
  refine h.step hmove ?_
  rintro _ he hnew _ ⟨rfl, time, rfl⟩
  obtain ⟨i, fire, timer, rfl, hrunning, rfl⟩ := (ended_of_step hstep he).resolve_left hnew
  have hlt := (hhome.fires i fire (by simp [firesAt, hrunning, fireOf])).1
  have hout := hgood fire timer hrunning rfl
  refine Gone.step ⟨hlt, ?_, hhome.running hrunning⟩ hmove
  rw [kindOf, AList.lookup_eq_none.mpr hout, Option.map_none]

end

/-- One fire of the timer at most is queued or being processed. -/
def AtMostOneFire (id : Nat) (s : TimerState) : Prop :=
  (∀ i, (firesAt s i).countP (fun f => decide (f.timerId = id)) ≤ 1) ∧
    ∀ i j f g, f ∈ firesAt s i → g ∈ firesAt s j → f.timerId = id → g.timerId = id → i = j

lemma homed_initial : Homed (fun _ => 0) {} := by
  constructor <;> simp [firesAt, sourcesOf]

lemma homed_reachable {ls : List TimerLabel} {s : TimerState}
    (hrun : run TimerState.step {} ls = some s) : ∃ home, Homed home s := by
  have hstep : ∀ s l next, (∃ home, Homed home s) → TimerState.step s l = some next →
      ∃ home, Homed home next := by
    rintro s l next ⟨home, hhome⟩ hstep
    exact hhome.step hstep
  exact reachable_invariant TimerState.step hstep ⟨_, homed_initial⟩ hrun

lemma onPace_initial (id lag : Nat) : OnPace id lag {} := by
  constructor <;> simp [firesAt, KeepsDelay]

/-- If the actor is always done with a fire of the timer within the lag, which is shorter than
the interval, then at most one is queued or being processed, and the timer ticks an interval
after the end of its callback, or earlier by the lag at most. If the timer has been removed
whenever its callback raises an error, it stays removed and its callback does not start again. -/
theorem repeating_timer_pace (id lag : Nat) (ls : List TimerLabel) (s : TimerState)
    (hrun : run TimerState.step {} ls = some s) :
    (Admits TimerState.step (keepsUp id lag) {} ls →
      KeepsDelay id lag s.events ∧ (Outlasts id lag s.events → AtMostOneFire id s)) ∧
    (Admits TimerState.step (removedOnError id) {} ls →
      (∀ time, .ended id time true ∈ s.events → id ∉ s.actorTimers) ∧
        NoStartAfter (Raises id) s.events) := by
  obtain ⟨home, hhome⟩ := homed_reachable hrun
  refine ⟨?_, ?_⟩
  · intro hgood
    have hstep : ∀ s l next, (∃ home, Homed home s) ∧ OnPace id lag s → keepsUp id lag s l →
        TimerState.step s l = some next → (∃ home, Homed home next) ∧ OnPace id lag next := by
      rintro s l next ⟨⟨home, hhome⟩, hpace⟩ hgood hstep
      exact ⟨hhome.step hstep, hpace.step hhome hgood hstep⟩
    obtain ⟨-, hpace⟩ := run_invariant TimerState.step hstep
      ⟨⟨_, homed_initial⟩, onPace_initial id lag⟩ hgood hrun
    refine ⟨hpace.delay, ?_⟩
    intro houtlasts
    refine ⟨hpace.single houtlasts, ?_⟩
    intro i j f g hf hg hfid hgid
    rw [(hhome.fires i f hf).2, (hhome.fires j g hg).2, hfid, hgid]
  · intro hgood
    have hstep : ∀ s l next, (∃ home, Homed home s) ∧ Ended (Raises id) s → removedOnError id s l →
        TimerState.step s l = some next → (∃ home, Homed home next) ∧ Ended (Raises id) next := by
      rintro s l next ⟨⟨home, hhome⟩, hended⟩ hgood hstep
      exact ⟨hhome.step hstep, raises_step hended hhome hgood hstep⟩
    obtain ⟨-, hended⟩ := run_invariant TimerState.step hstep
      ⟨⟨_, homed_initial⟩, ended_initial _⟩ hgood hrun
    refine ⟨?_, hended.stops⟩
    intro time hmem
    have hnone := (hended.gone _ hmem id ⟨rfl, time, rfl⟩).table
    rw [kindOf, Option.map_eq_none_iff] at hnone
    exact AList.lookup_eq_none.mp hnone

def readyRun : List TimerLabel :=
  [.spawn "a", .request ⟨"a", .fixedDelay, 10⟩, .schedule 0, .spawnDriver 0, .setDriver 0]

def pacedRun : List TimerLabel :=
  readyRun.append (.advance 10 :: List.append [.tick 0, .fire 0, .start 0] (.advance 3 ::
    List.append [.finish 0 false] (.advance 7 ::
      [.tick 0, .fire 0, .start 0, .cancel (some "a") 1, .finish 0 true])))

def pacedEvents : List TimerEvent :=
  [.created "a" 1, .ticked 1 10 10, .started 1 true, .ended 1 13 false, .ticked 1 20 10,
    .started 1 true, .cancelled 1 true, .ended 1 20 true]

theorem repeating_timer_pace_held :
    ∃ s, run TimerState.step {} pacedRun = some s ∧ s.events = pacedEvents ∧
      KeepsDelay 1 3 s.events ∧ AtMostOneFire 1 s ∧
      (∀ time, .ended 1 time true ∈ s.events → 1 ∉ s.actorTimers) ∧
      NoStartAfter (Raises 1) s.events := by
  obtain ⟨hpace, herror⟩ := repeating_timer_pace 1 3 pacedRun _ rfl
  have hkeeps : Admits TimerState.step (keepsUp 1 3) {} pacedRun := by
    refine admits_append TimerState.step (admits_of_forall _ ?_ _) rfl ⟨?_, ?_⟩
    · simp [readyRun, keepsUp]
    · rintro (_ | i) f hf <;> cases hf
    rintro _ ⟨⟩
    refine admits_append TimerState.step (admits_of_forall _ ?_ _) rfl ⟨?_, ?_⟩
    · simp [keepsUp]
    · rintro (_ | i) f hf - <;> cases hf
      · decide
      · contradiction
    rintro _ ⟨⟩
    refine admits_append TimerState.step (admits_of_forall _ ?_ _) rfl ⟨?_, ?_⟩
    · simp [keepsUp]
    · rintro (_ | i) f hf <;> cases hf
    rintro _ ⟨⟩
    refine admits_of_forall _ ?_ _
    simp [keepsUp]
  have houtlasts : Outlasts 1 3 pacedEvents := by
    intro time interval hmem
    simp only [pacedEvents, List.mem_cons, TimerEvent.ticked.injEq, reduceCtorEq, List.not_mem_nil,
      or_false, false_or] at hmem
    omega
  have hremoved : Admits TimerState.step (removedOnError 1) {} pacedRun := by
    have hsplit : pacedRun = pacedRun.dropLast ++ [.finish 0 true] := rfl
    rw [hsplit]
    refine admits_append TimerState.step (admits_of_forall _ ?_ _) rfl ⟨?_, fun _ _ => trivial⟩
    · simp [pacedRun, readyRun, List.append, List.dropLast, removedOnError]
    · intro fire timer _ _
      decide
  obtain ⟨hdelay, hone⟩ := hpace hkeeps
  exact ⟨_, rfl, rfl, hdelay, hone houtlasts, herror hremoved⟩

def slowRun : List TimerLabel :=
  readyRun.append [.advance 10, .tick 0, .fire 0, .start 0, .advance 10, .tick 0]

def failingRun : List TimerLabel :=
  readyRun.append [.advance 10, .tick 0, .fire 0, .start 0, .finish 0 true, .advance 10, .tick 0,
    .fire 0, .start 0]

/-- A second fire is queued while the callback runs, and a timer whose callback raised an error
fires again. -/
theorem repeating_timer_overruns :
    (∃ s, run TimerState.step {} slowRun = some s ∧ firesAt s 0 = [⟨1, 10⟩, ⟨1, 20⟩]) ∧
    ∃ s, run TimerState.step {} failingRun = some s ∧
      s.events = [.created "a" 1, .ticked 1 10 10, .started 1 true, .ended 1 10 true,
        .ticked 1 20 10, .started 1 true] :=
  ⟨⟨_, rfl, rfl⟩, ⟨_, rfl, rfl⟩⟩

/-- A timer stays with one actor: its scheduling call, its driver and its fires are all for that
actor, and it has at most one driver. -/
theorem timer_stays_with_actor (ls : List TimerLabel) (s : TimerState) (id : Nat)
    (hrun : run TimerState.step {} ls = some s) :
    s.drivers.countP (fun d => decide (d.timerId = id)) ≤ 1 ∧ ∃ home,
      (∀ c ∈ s.scheduling, c.id = id → c.target = home) ∧
      (∀ d ∈ s.drivers, d.timerId = id → d.target = home) ∧
      ∀ i, ∀ f ∈ firesAt s i, f.timerId = id → i = home := by
  obtain ⟨home, h⟩ := homed_reachable hrun
  refine ⟨(Nat.le_add_left ..).trans (h.alone id), home id, ?_, ?_, ?_⟩
  · rintro c hc rfl
    exact (h.calls c hc).2
  · rintro d hd rfl
    exact (h.drivers d hd).2
  · rintro i f hf rfl
    exact (h.fires i f hf).2

theorem timer_stays_with_actor_paced :
    ∃ s, run TimerState.step {} pacedRun = some s ∧
      s.drivers.countP (fun d => decide (d.timerId = 1)) ≤ 1 :=
  ⟨_, rfl, (timer_stays_with_actor pacedRun _ 1 rfl).1⟩

end ShieldRuntime.Proofs
