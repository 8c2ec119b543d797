import ShieldRuntime.Proofs.RegistryLiveness

/-!
# What `exit` leaves behind

`exit` clears the forked tasks when the hook has run, then the timers, the drivers of call timeouts,
and last the registry.
-/

namespace ShieldRuntime.Proofs

open Library Lua

variable {V : Type}

/-- The registry knows nothing of the service. -/
structure Absent (r : Registry) (id : ServiceId) : Prop where
  service : r.services id = none
  actor : r.serviceActors id = none
  published : ∀ name, r.publishedNames name ≠ some id
  errors : r.errorCounts id = 0

/-- All that the service had is gone. -/
structure Released (s : State V) (id : ServiceId) (vm : Instance) : Prop where
  registry : Absent s.registry id
  names : s.registry.ownedNames id = []
  timers : ∀ timer ∈ s.calls.timers, timer.serviceId ≠ id ∧
    ∀ co, timer.callback = .resume co → vmOf s.calls co ≠ some vm
  tasks : ∀ task ∈ s.tasks, task.serviceId ≠ id
  calls : ∀ n pending, s.calls.pendingCalls n = some pending →
    pending.callerService ≠ id ∧ vmOf s.calls pending.callerCo ≠ some vm
  drivers : ∀ n a, s.calls.callTimeouts n = some a →
    ∃ pending, s.calls.pendingCalls n = some pending ∧ pending.callerService ≠ id

def started (s : State V) (l : Label V) : Option (Nat × Instance) :=
  match startsAt l, s.step l with
  | some co, some next =>
    if (s.calls.coroutines co).isNone then (vmOf next.calls co).map fun vm => (co, vm) else none
  | _, _ => none

def lastStarted (starts : List (Nat × Instance)) (co : Nat) : Option Instance :=
  (starts.reverse.find? fun start => start.1 = co).map Prod.snd

/-- No session is left of a coroutine that was last started in the VM. -/
def Untagged (c : CallState V) (starts : List (Nat × Instance)) (vm : Instance) : Prop :=
  ∀ co n, c.handlerCallSession co = some n → lastStarted starts co ≠ some vm

/-- Nothing of the service is made between the hook and the erasing, save for early timers. -/
def Clearing (t : Thread) (id : ServiceId) (s : State V) (l : Label V) : Prop :=
  (∀ maker ∈ makesTask s l, maker.2 ≠ id) ∧
    (∀ maker ∈ makesTimer s l, maker.2 = id → (s.stack t).head? = some (.cpp (.exitTimers id))) ∧
    (actingThread l = some t → erases s l ≠ some id)

instance (t : Thread) (id : ServiceId) (s : State V) (l : Label V) : Decidable (Clearing t id s l) :=
  inferInstanceAs (Decidable (_ ∧ _ ∧ _))

/-- The service has no call, error or sleeper that `exit` does not clear. -/
structure NothingOpen (s : State V) (id : ServiceId) (vm : Instance) : Prop where
  calls : ∀ n pending, s.calls.pendingCalls n = some pending →
    pending.callerService ≠ id ∧ vmOf s.calls pending.callerCo ≠ some vm
  errors : s.registry.errorCounts id = 0
  sleepers : ∀ timer ∈ s.calls.timers, ∀ co, timer.callback = .resume co →
    vmOf s.calls co = some vm → timer.serviceId = id

/-- The step makes nothing for the service or its VM. -/
def Silent (id : ServiceId) (vm : Instance) (s : State V) (l : Label V) : Prop :=
  (∀ maker ∈ makesTimer s l, maker.1 ≠ vm ∧ maker.2 ≠ id) ∧
    (∀ maker ∈ makesCall s l, maker.1 ≠ vm ∧ maker.2 ≠ id) ∧
    (∀ maker ∈ makesTask s l, maker.2 ≠ id) ∧
    (∀ registered ∈ registers s l, registered.1 ≠ id) ∧
    spawns s l ≠ some id ∧ publishes s l ≠ some id

instance (id : ServiceId) (vm : Instance) (s : State V) (l : Label V) :
    Decidable (Silent id vm s l) :=
  inferInstanceAs (Decidable (_ ∧ _ ∧ _ ∧ _ ∧ _ ∧ _))

/-- Every armed timeout has its pending call. -/
def Driven (c : CallState V) : Prop :=
  ∀ n a, c.callTimeouts n = some a → ∃ pending, c.pendingCalls n = some pending

lemma Driven.callMove {s : State V} {l : Label V} {c : CallState V} (h : Driven s.calls)
    (hmove : CallMove s l c) : Driven c := by
  intro n a hdriver
  rcases calls_callMove hmove with hold | ⟨vm, co, source, id, target, -, -, rfl⟩
  · rw [hold.driven n a hdriver]
    exact h n a (hold.callTimeouts n a hdriver)
  · simp only [CallState.suspendForCall] at hdriver ⊢
    by_cases hn : n = s.calls.nextCallSession
    · exact ⟨_, by rw [hn, Function.update_self]⟩
    · rw [Function.update_of_ne hn] at hdriver ⊢
      exact h n a hdriver

/-- The invariants of reachable states that an exit builds on. -/
structure Kempt (s : State V) : Prop where
  spawned : Spawned s
  inverse : Inverse s.registry.publishedNames s.registry.ownedNames
  driven : Driven s.calls

section

variable {s next : State V} {l : Label V} {t : Thread} {id : ServiceId} {vm : Instance}

lemma Kempt.moved (h : Kempt s) (hstep : s.step l = some next) : Kempt next :=
  ⟨spawned_moved h.spawned (step_moved hstep), names_inverse_moved h.inverse (step_registry hstep),
    h.driven.callMove (step_moved hstep).calls⟩

lemma kempt_reachable {labels : List (Label V)} (hrun : run State.step {} labels = some s) :
    Kempt s := by
  refine reachable_invariant State.step (fun _ _ _ h hstep => h.moved hstep) ?_ hrun
  refine ⟨spawned_init, ?_, ?_⟩
  · intro name id
    simp
  · intro n a h
    cases h

variable {co : Nat} {rest : List Frame}

lemma started_eq_some (h : started s l = some (co, vm)) (hmoved : Moved s l next)
    (hstep : s.step l = some next) : ∃ i, s.registry.services (s.actors.serviceOf i) = some vm := by
  unfold started at h
  split at h
  case h_2 => cases h
  case h_1 co' next' hl hstep' =>
    have hsame : next' = next := Option.some.inj (hstep'.symm.trans hstep)
    subst hsame
    split at h
    · rename_i hfree
      obtain ⟨vm', hvm, heq⟩ := Option.map_eq_some_iff.mp h
      cases heq
      rcases vmOf_callMove hmoved.calls hvm with hold | ⟨-, -, i, hi⟩
      · rw [Option.isNone_iff_eq_none] at hfree
        simp [vmOf, CallState.handlerOf, hfree] at hold
      · exact ⟨i, hi⟩
    · cases h

lemma finish_tags {c : CallState V} {k : Coroutine} (hk : c.coroutines co = some k)
    (source : Source) (outcome : Outcome V) {co' n : Nat}
    (h : (c.finish co source outcome).1.handlerCallSession co' = some n) :
    c.handlerCallSession co' = some n := by
  rcases finish_cases hk source outcome with
    ⟨values, cause, session, rfl, -, hfinish⟩ | ⟨-, hfinish⟩
  · simp only [hfinish, CallState.resumeCaller_kept] at h
    by_cases hco : co' = co
    · simp [untagged, hco] at h
    · simpa [untagged, ended, hco] using h
  · rw [hfinish] at h
    exact h

lemma tags_before (hstep : s.step l = some next) {n : Nat}
    (htag : next.calls.handlerCallSession co = some n) :
    s.calls.handlerCallSession co = some n ∨ ∃ vm, started s l = some (co, vm) := by
  have hmove := handlerMove (step_moved hstep).calls
  generalize hcalls : next.calls = c at hmove htag
  cases hmove with
  | same c hsame => exact .inl (hsame.handlerCallSession ▸ htag)
  | start i co' vm request hl hco =>
    by_cases hne : co = co'
    · subst hne
      have hvm : vmOf next.calls co = some vm := by
        simp [hcalls, vmOf, CallState.handlerOf, CallState.start]
      exact .inr ⟨vm, by simp [started, hl, hstep, hco, hvm]⟩
    · left
      simp only [CallState.start] at htag
      split at htag
      · rwa [Function.update_of_ne hne] at htag
      · exact htag
  | reject => exact .inl htag
  | finish co' k source outcome hk => exact .inl (finish_tags hk source outcome htag)
  | collect co' c hhandler htag' => exact .inl (htag' ▸ htag)

lemma Untagged.moved {starts : List (Nat × Instance)} (h : Untagged s.calls starts vm)
    (hservice : ∀ i, s.registry.services (s.actors.serviceOf i) ≠ some vm)
    (hstep : s.step l = some next) : Untagged next.calls (starts ++ (started s l).toList) vm := by
  intro co n htag
  have hbefore := tags_before hstep htag
  cases hstarted : started s l with
  | none =>
    rw [hstarted] at hbefore
    simpa using h co n (by simpa using hbefore)
  | some start =>
    obtain ⟨co', vm'⟩ := start
    have hvm : vm' ≠ vm := by
      rintro rfl
      obtain ⟨i, hi⟩ := started_eq_some hstarted (step_moved hstep) hstep
      exact hservice i hi
    by_cases hco : co' = co
    · simp [lastStarted, hco, hvm]
    have hold : s.calls.handlerCallSession co = some n := by
      rcases hbefore with hold | ⟨vm'', hstarted'⟩
      · exact hold
      rw [hstarted] at hstarted'
      cases hstarted'
      exact absurd rfl hco
    simpa [lastStarted, hco] using h co n hold

lemma Absent.moved {r : Registry} (h : Absent s.registry id) (hsilent : Silent id vm s l)
    (hmove : RegistryMove s l r) : Absent r id := by
  obtain ⟨-, -, -, hregisters, hspawns, hpublishes⟩ := hsilent
  have hpublished : ∀ name, r.publishedNames name ≠ some id := by
    intro name hname
    rcases published_before hmove hname with
      hold | hregistered | ⟨-, t, i, exitAfterInit, rest, hl, hstack, hfree⟩
    · exact h.published name hold
    · exact hregisters _ hregistered rfl
    · exact hpublishes (by simp [hl, publishes, hstack, hfree])
  cases hmove with
  | initFailed | conflict =>
    refine ⟨h.service, ?_, hpublished, h.errors⟩
    simp [Registry.eraseActor, Registry.dropNames, Function.update_apply, h.actor]
  | resetErrorCount t other =>
    refine ⟨h.service, h.actor, hpublished, ?_⟩
    simp [Registry.setErrorCount, Function.update_apply, h.errors]
  | invokeErrorHook t other vm' rest hl hstack hservice =>
    have hother : id ≠ other := by
      rintro rfl
      rw [h.service] at hservice
      cases hservice
    exact ⟨h.service, h.actor, hpublished, by
      simpa [Registry.setErrorCount, hother] using h.errors⟩
  | exitErase t other =>
    refine ⟨?_, ?_, hpublished, h.errors⟩
    · simp [Registry.eraseService, Function.update_apply, h.service]
    · simp [Registry.eraseService, Registry.eraseActor, Registry.dropNames, Function.update_apply,
        h.actor]
  | create t name rest hl hstack =>
    have hname : id ≠ name := by
      rintro rfl
      exact hspawns (by simp only [hl, spawns, hstack])
    exact ⟨h.service, by simpa [hname] using h.actor, hpublished, h.errors⟩
  | publish t i name exitAfterInit rest hl hstack hfree =>
    have hname : id ≠ name := by
      rintro rfl
      exact hpublishes (by simp [hl, publishes, hstack, hfree])
    exact ⟨by simpa [Registry.publish, hname] using h.service, h.actor, hpublished, h.errors⟩
  | _ => exact ⟨h.service, h.actor, hpublished, h.errors⟩

lemma Spawned.vmOf_executing (h : Spawned s) {source : Source}
    (hruns : Executes s vm (.handler co source) id) : vmOf s.calls co = some vm := by
  obtain ⟨t, rest, hstack, -⟩ := hruns
  obtain ⟨k, hk, hvm, -⟩ := h.running t vm co source (hstack ▸ List.mem_cons_self)
  exact hvm ▸ vmOf_eq hk

section

variable (hmoved : Moved s l next) (h : Spawned s)
include hmoved h

lemma timers_before {timer : ActorTimer} (hmem : timer ∈ next.calls.timers) :
    timer ∈ s.calls.timers ∨ ∃ vm, makesTimer s l = some (vm, timer.serviceId) ∧
      ∀ co, timer.callback = .resume co → vmOf s.calls co = some vm := by
  rcases timers_callMove hmoved.calls with ⟨htimers, -⟩ | ⟨new, hnew, htimers, -⟩
  · exact .inl (htimers timer hmem)
  rw [htimers] at hmem
  rcases List.mem_cons.mp hmem with rfl | hmem
  · obtain ⟨vm, entry, hruns, hmakes, hcallback⟩ := hnew.callback
    refine .inr ⟨vm, hmakes, ?_⟩
    intro co hco
    rcases hcallback with hlua | ⟨co', source, hresume, rfl⟩
    · cases hlua.symm.trans hco
    · cases hresume.symm.trans hco
      exact h.vmOf_executing hruns
  · exact .inl hmem

lemma calls_before {n : Nat} {pending : PendingCall}
    (hpending : next.calls.pendingCalls n = some pending) :
    s.calls.pendingCalls n = some pending ∨
      ∃ vm, makesCall s l = some (vm, pending.callerService) ∧
        vmOf s.calls pending.callerCo = some vm := by
  rcases calls_callMove hmoved.calls with hold | ⟨vm, co, source, id, target, hruns, hmakes, hcalls⟩
  · exact .inl (hold.pendingCalls n pending hpending)
  rw [hcalls] at hpending
  simp only [CallState.suspendForCall] at hpending
  by_cases hn : n = s.calls.nextCallSession
  · rw [hn, Function.update_self] at hpending
    cases hpending
    exact .inr ⟨vm, hmakes, h.vmOf_executing hruns⟩
  · rw [Function.update_of_ne hn] at hpending
    exact .inl hpending

end

lemma Released.unserved (h : Released s id vm) (hkempt : Kempt s) (hname : Named s.actors vm id)
    (i : Instance) : s.registry.services (s.actors.serviceOf i) ≠ some vm := by
  intro hservice
  have hid : s.actors.serviceOf i = id := by
    rw [← (hkempt.spawned.services _ vm hservice).serviceOf, hname.serviceOf]
  rw [hid, h.registry.service] at hservice
  cases hservice

lemma Released.moved (h : Released s id vm) (hkempt : Kempt s) (hname : Named s.actors vm id)
    (hsilent : Silent id vm s l) (hstep : s.step l = some next) : Released next id vm := by
  have hmoved := step_moved hstep
  have hnext := hkempt.moved hstep
  have hservice := h.unserved hkempt hname
  -- no coroutine of the VM is started any more
  have hvm : ∀ {co}, vmOf s.calls co ≠ some vm → vmOf next.calls co ≠ some vm := by
    intro co hold hnew
    rcases vmOf_callMove hmoved.calls hnew with hvm | ⟨-, -, i, hi⟩
    · exact hold hvm
    · exact hservice i hi
  have hregistry := h.registry.moved hsilent (step_registry hstep)
  obtain ⟨htimers, hcalls, htasks, -⟩ := hsilent
  have hpending : ∀ n pending, next.calls.pendingCalls n = some pending →
      pending.callerService ≠ id ∧ vmOf next.calls pending.callerCo ≠ some vm := by
    intro n pending hp
    rcases calls_before hmoved hkempt.spawned hp with hold | ⟨vm', hmakes, hco⟩
    · exact ⟨(h.calls n pending hold).1, hvm (h.calls n pending hold).2⟩
    obtain ⟨hvm', hid⟩ := hcalls _ hmakes
    refine ⟨hid, hvm ?_⟩
    rw [hco]
    simpa using hvm'
  refine ⟨hregistry, ?_, ?_, ?_, hpending, ?_⟩
  · apply List.eq_nil_iff_forall_not_mem.mpr
    intro name hmem
    exact hregistry.published name ((hnext.inverse name id).mpr hmem)
  · intro timer hmem
    rcases timers_before hmoved hkempt.spawned hmem with hold | ⟨vm', hmakes, hco⟩
    · exact ⟨(h.timers timer hold).1, fun co hcallback => hvm ((h.timers timer hold).2 co hcallback)⟩
    obtain ⟨hvm', hid⟩ := htimers _ hmakes
    refine ⟨hid, ?_⟩
    intro co hcallback
    apply hvm
    rw [hco co hcallback]
    simpa using hvm'
  · intro task hmem
    rcases hmoved.tasks task hmem with hold | ⟨-, -, -, hmakes, -⟩
    · exact h.tasks task hold
    · exact htasks _ hmakes
  · intro n a hdriver
    obtain ⟨pending, hp⟩ := hnext.driven n a hdriver
    exact ⟨pending, hp, (hpending n pending hp).1⟩

lemma Released.not_resumes (h : Released s id vm) (l : Label V) : resumes s l ≠ some vm := by
  have hresumable : ∀ {co wait vm'}, vmOf s.calls co ≠ some vm →
      s.calls.resumable co = some (wait, vm') → vm' ≠ vm := by
    rintro co wait vm' hco hresumable rfl
    obtain ⟨k, hk, -, hvm⟩ := CallState.resumable_eq_some.mp hresumable
    exact hco (hvm ▸ vmOf_eq hk)
  intro hresumes
  unfold resumes at hresumes
  split at hresumes
  · rename_i cause session hanswers
    obtain ⟨⟨co, vm'⟩, hresumee, heq⟩ := Option.map_eq_some_iff.mp hresumes
    obtain ⟨-, pending, hpending, rfl, wait, hwait⟩ := CallState.resumee_eq_some hresumee
    exact hresumable (h.calls session pending hpending).2 hwait heq
  · obtain ⟨_, _, _, _, timer, co, wait, -, -, hfind, hcallback, hwait⟩ := wakes_eq_some hresumes
    have htimer := (h.timers timer (List.mem_of_find?_eq_some hfind)).2 co hcallback
    exact hresumable htimer hwait rfl

/-- How far the exit on the thread has cleared the tables. -/
structure Cleared (t : Thread) (id : ServiceId) (s : State V) : Prop where
  tasks : ∀ task ∈ s.tasks, task.serviceId ≠ id
  stage : ∃ rest, s.stack t = .cpp (.exitTimers id) :: rest ∨
    ((s.stack t = .cpp (.exitTimeouts id) :: rest ∨ s.stack t = .cpp (.exitErase id) :: rest) ∧
      ∀ timer ∈ s.calls.timers, timer.serviceId ≠ id)

lemma cleared_hook (hstack : s.stack t = .lua vm (.onExit id) :: rest) (hends : Ends t l)
    (hstep : s.step l = some next) : Cleared t id next := by
  obtain ⟨outcome, late, -, rfl⟩ := ends_afterLua hstep hends hstack (by simp)
  refine ⟨?_, rest, .inl (Function.update_self _ _ _)⟩
  intro task hmem
  simpa using List.of_mem_filter hmem

lemma Cleared.moved (h : Cleared t id s) (hspawned : Spawned s) (hgood : Clearing t id s l)
    (hstep : s.step l = some next) : Cleared t id next := by
  have hmoved := step_moved hstep
  obtain ⟨hforks, hmakes, herases⟩ := hgood
  refine ⟨?_, ?_⟩
  · intro task hmem
    rcases hmoved.tasks task hmem with hold | ⟨-, -, -, hmaker, -⟩
    · exact h.tasks task hold
    · exact hforks _ hmaker
  · obtain ⟨rest, hstage⟩ := h.stage
    refine ⟨rest, ?_⟩
    by_cases hl : actingThread l = some t
    · rcases hstage with hstack | ⟨hstack | hstack, htimers⟩
      · obtain ⟨-, hrun⟩ := cpp_step hstep hl hstack (by simp) (by simp)
        cases hrun
        refine .inr ⟨.inl (Function.update_self _ _ _), ?_⟩
        intro timer hmem
        simpa using List.of_mem_filter hmem
      · obtain ⟨-, hrun⟩ := cpp_step hstep hl hstack (by simp) (by simp)
        cases hrun
        exact .inr ⟨.inr (Function.update_self _ _ _), htimers⟩
      · obtain ⟨rfl, -⟩ := cpp_step hstep hl hstack (by simp) (by simp)
        exact absurd (by simp only [erases, hstack]) (herases hl)
    · rw [hmoved.others t hl]
      rcases hstage with hstack | ⟨hstack, htimers⟩
      · exact .inl hstack
      refine .inr ⟨hstack, ?_⟩
      intro timer hmem hid
      rcases timers_before hmoved hspawned hmem with hold | ⟨vm', hmaker, -⟩
      · exact htimers timer hold hid
      have htop := hmakes _ hmaker hid
      rcases hstack with hstack | hstack <;> simp [hstack] at htop

lemma Cleared.erase (h : Cleared t id s) (hkempt : Kempt s) (hopen : NothingOpen s id vm)
    (hstack : s.stack t = .cpp (.exitErase id) :: rest) (hstep : s.step (.cont t) = some next) :
    Released next id vm := by
  have htimers : ∀ timer ∈ s.calls.timers, timer.serviceId ≠ id := by
    obtain ⟨rest', hstage | ⟨-, htimers⟩⟩ := h.stage
    · rw [hstack] at hstage
      cases hstage
    · exact htimers
  have hinverse := (hkempt.moved hstep).inverse
  have hregistry := exitErase_registry hstack hstep
  have hpublished : ∀ name, next.registry.publishedNames name ≠ some id := by
    rw [hregistry]
    exact eraseService_published hkempt.inverse id
  obtain ⟨hcalls, htasks⟩ : next.calls = s.calls ∧ next.tasks = s.tasks := by
    cases step_cpp hstack hstep with
    | _ => exact ⟨rfl, rfl⟩
  refine ⟨⟨?_, ?_, hpublished, ?_⟩, ?_, ?_, ?_, ?_, ?_⟩
  · simp [hregistry, Registry.eraseService]
  · simp [hregistry, Registry.eraseService, Registry.eraseActor]
  · rw [hregistry]
    exact hopen.errors
  · apply List.eq_nil_iff_forall_not_mem.mpr
    intro name hmem
    exact hpublished name ((hinverse name id).mpr hmem)
  · rw [hcalls]
    intro timer hmem
    refine ⟨htimers timer hmem, ?_⟩
    intro co hcallback hco
    exact htimers timer hmem (hopen.sleepers timer hmem co hcallback hco)
  · rw [htasks]
    exact h.tasks
  · rw [hcalls]
    exact hopen.calls
  · rw [hcalls]
    intro n a hdriver
    obtain ⟨pending, hp⟩ := hkempt.driven n a hdriver
    exact ⟨pending, hp, (hopen.calls n pending hp).1⟩

end

/-- An `exit` that begins in any state reached, runs its hook and clears the tables without anything
being made behind its back, releases all that the service has, as long as nothing that it does not
clear is open when it erases the service. Until the service is spawned again nothing of it comes
back, and no response, timeout or timer resumes a coroutine of its VM. -/
theorem exit_releases {labels window later : List (Label V)} {s s₁ s₂ s₃ s₄ : State V} {t : Thread}
    {id : ServiceId} {vm : Instance} {l : Label V} {rest rest' : List Frame}
    (hreached : run State.step {} labels = some s) (hservice : s.registry.services id = some vm)
    (hstack : s.stack t = .lua vm (.onExit id) :: rest) (hends : Ends t l)
    (hhook : s.step l = some s₁) (hwindow : Admits State.step (Clearing t id) s₁ window)
    (hcleared : run State.step s₁ window = some s₂)
    (herase : s₂.stack t = .cpp (.exitErase id) :: rest') (hopen : NothingOpen s₂ id vm)
    (htags : Untagged s₂.calls (observe State.step started {} (labels ++ l :: window)) vm)
    (herased : s₂.step (.cont t) = some s₃) (hsilent : Admits State.step (Silent id vm) s₃ later)
    (hlater : run State.step s₃ later = some s₄) :
    Released s₄ id vm ∧
      Untagged s₄.calls
        (observe State.step started {} ((labels ++ l :: window) ++ .cont t :: later)) vm ∧
      ∀ l, resumes s₄ l ≠ some vm := by
  have hkempt := kempt_reachable hreached
  have hname := hkempt.spawned.services id vm hservice
  have hwindowStep : ∀ (s : State V) (l : Label V) (next : State V),
      (Kempt s ∧ Named s.actors vm id ∧ Cleared t id s) → Clearing t id s l →
      s.step l = some next → (Kempt next ∧ Named next.actors vm id ∧ Cleared t id next) := by
    rintro s l next ⟨hkempt, hname, hcleared⟩ hgood hstep
    exact ⟨hkempt.moved hstep, (step_moved hstep).named vm id hname,
      hcleared.moved hkempt.spawned hgood hstep⟩
  obtain ⟨hkempt₂, hname₂, hcleared₂⟩ := run_invariant State.step hwindowStep
    ⟨hkempt.moved hhook, (step_moved hhook).named vm id hname, cleared_hook hstack hends hhook⟩
    hwindow hcleared
  have hreleased₃ := hcleared₂.erase hkempt₂ hopen herase herased
  have hlaterStep : ∀ (starts : List (Nat × Instance)) (s : State V) (l : Label V)
      (next : State V),
      (Kempt s ∧ Named s.actors vm id ∧ Released s id vm ∧ Untagged s.calls starts vm) →
      Silent id vm s l → s.step l = some next →
      (Kempt next ∧ Named next.actors vm id ∧ Released next id vm ∧
        Untagged next.calls (starts ++ (started s l).toList) vm) := by
    rintro starts s l next ⟨hkempt, hname, hreleased, htags⟩ hgood hstep
    exact ⟨hkempt.moved hstep, (step_moved hstep).named vm id hname,
      hreleased.moved hkempt hname hgood hstep,
      htags.moved (hreleased.unserved hkempt hname) hstep⟩
  have htags₃ : Untagged s₃.calls (observe State.step started {} (labels ++ l :: window)) vm := by
    cases step_cpp herase herased with
    | _ => exact htags
  obtain ⟨-, -, hreleased₄, htags₄⟩ := observe_invariant State.step hlaterStep
    ⟨hkempt₂.moved herased, (step_moved herased).named vm id hname₂, hreleased₃, htags₃⟩
    hsilent hlater
  refine ⟨hreleased₄, ?_, hreleased₄.not_resumes⟩
  have hrun : run State.step {} (labels ++ l :: window) = some s₂ := by
    apply run_append State.step hreached
    simpa only [run, hhook, Option.bind_some] using hcleared
  rw [observe_append State.step started hrun]
  simpa only [observe, herased, started, startsAt, Option.toList_none, List.nil_append] using htags₄

/-- A service with a timer and a forked task is asked to exit. -/
def exitHooked : List (Label Nat) :=
  spawning "a" ++ [.command 0 (.send "a" (some [])), .receive 0 (.function (some 3)),
    .api (.actor 0) (.timer true), .api (.actor 0) .fork, .api (.actor 0) (.ret []),
    .cont (.actor 0), .cont (.actor 0), .cont (.actor 0), .command 0 (.exit "a"),
    .cont (.external 0)]

def exitCleared : List (Label Nat) :=
  exitHooked ++ [.api (.external 0) (.ret []), .cont (.external 0), .cont (.external 0)]

lemma exitCleared_nothingOpen : NothingOpen (reached exitCleared) "a" 0 := by
  have hcalls : (reached exitCleared).calls.pendingCalls = fun _ => none := rfl
  have htimers : (reached exitCleared).calls.timers = [] := rfl
  refine ⟨?_, rfl, ?_⟩
  · simp [hcalls]
  · simp [htimers]

theorem exit_releases_external :
    ((reached exitHooked).calls.timers.map ActorTimer.serviceId = ["a"] ∧
        (reached exitHooked).tasks = [⟨1, "a", 0⟩]) ∧
      Released (reached (exitCleared ++ [.cont (.external 0), .cont (.external 0)])) "a" 0 := by
  have htags : ∀ starts, Untagged (reached exitCleared).calls starts 0 := by
    intro starts co n htag
    cases htag
  have hends : Ends (.external 0) (.api (.external 0) (.ret []) : Label Nat) := rfl
  have hsteps : run State.step (reached (exitHooked ++ [.api (.external 0) (.ret [])]))
      [.cont (.external 0), .cont (.external 0)] = some (reached exitCleared) := rfl
  have hlater : run State.step (reached (exitCleared ++ [.cont (.external 0)]))
      [.cont (.external 0)] =
        some (reached (exitCleared ++ [.cont (.external 0), .cont (.external 0)])) := rfl
  refine ⟨⟨rfl, rfl⟩, ?_⟩
  exact (exit_releases (rfl : run State.step {} exitHooked = some (reached exitHooked)) rfl rfl hends
    rfl (by decide) hsteps rfl exitCleared_nothingOpen (htags _) rfl (by decide) hlater).1

def exitWhileCallingRun : List (Label Nat) :=
  nestedCallStart ++ [.coroutine (.actor 0) .yield, .cont (.actor 0), .cont (.actor 0),
    .command 0 (.exit "front"), .cont (.external 0), .api (.external 0) (.ret []),
    .cont (.external 0), .cont (.external 0), .cont (.external 0), .cont (.external 0)]

/-- The call is still pending when `exit` has returned, and the answer of `back` resumes the
coroutine of the VM that is gone. -/
theorem exit_leaves_pending_call :
    run State.step {} exitWhileCallingRun = some (reached exitWhileCallingRun) ∧
      (reached exitWhileCallingRun).stack (.external 0) = [] ∧
      (reached exitWhileCallingRun).registry.services "front" = none ∧
      (reached exitWhileCallingRun).calls.pendingCalls 1 =
        some { callerCo := 3, callerService := "front" } ∧
      ((reached (exitWhileCallingRun ++ [.receive 1 (.function (some 4))])).step
        (.api (.actor 1) (.ret []))).isSome = true ∧
      resumes (reached (exitWhileCallingRun ++ [.receive 1 (.function (some 4))]))
        (.api (.actor 1) (.ret [])) = some 0 :=
  ⟨rfl, rfl, by decide, by decide, by decide, by decide⟩

end ShieldRuntime.Proofs
