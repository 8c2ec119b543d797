import ShieldRuntime.Proofs.RegistryLiveness

/-!
# Spawns that fail

A spawn that fails erases its actor and drops the names that were registered under its id.
-/

namespace ShieldRuntime.Proofs

open Library Lua

variable {V : Type}

/-- The seven containers are what they were. -/
structure Untouched (before s : State V) : Prop where
  services : s.registry.services = before.registry.services
  publishedNames : s.registry.publishedNames = before.registry.publishedNames
  ownedNames : s.registry.ownedNames = before.registry.ownedNames
  serviceOrder : s.registry.serviceOrder = before.registry.serviceOrder
  serviceActors : s.registry.serviceActors = before.registry.serviceActors
  timers : s.calls.timers = before.calls.timers
  tasks : s.tasks = before.tasks

/-- Nothing of an earlier service of the name is left. -/
def Unused (s : State V) (name : ServiceId) : Prop :=
  s.registry.serviceActors name = none ∧ s.registry.ownedNames name = []

/-- The label spawns `name` from thread `t`. -/
def CallsSpawn (t : Thread) (name : ServiceId) (l : Label V) : Prop :=
  (∃ n, t = .external n ∧ l = .command n (.spawn name)) ∨ l = .api t (.spawn name)

/-- What `on_init` may do: it cancels no timer that was there before. Spawns of its own are
`SpawnRun.nested`. -/
def initOp (before : State V) : ApiOp V → Bool
  | .spawn _ => false
  | .raise _ => false
  | .cancelTimer id => before.calls.timers.all fun timer => timer.id != id
  | _ => true

def spawnStep (before : State V) (t : Thread) (s : State V) (l : Label V) : Bool :=
  match s.stack t, l with
  | .cpp (.spawnCreate _) :: _, .cont _ => true
  | .cpp (.syncWait _) :: _, _ => true
  | .lua _ .onInit :: _, .api _ op => initOp before op
  | _, _ => false

/-- The thread of the spawn goes on with it, and the others leave the containers alone. -/
def Undisturbed (before : State V) (t : Thread) (s : State V) (l : Label V) : Prop :=
  (actingThread l = some t → spawnStep before t s l = true) ∧
    (actingThread l ≠ some t → ∀ next, s.step l = some next → Untouched s next)

/-- A spawn that was called in `before` fails, before it has an actor or because `on_init` fails in
time, when no timer and no task that was made since the call is left. -/
structure FailsInTime (before : State V) (t : Thread) (s next : State V) : Prop where
  step : s.step (.loadFails t) = some next ∨ s.step (.api t (.raise false)) = some next
  timers : ∀ timer ∈ s.calls.timers, timer.id < before.calls.nextTimerId
  tasks : ∀ task ∈ s.tasks, task.id < before.nextTaskId

/-- A spawn of `name` from its call in `before` on. The spawns that its `on_init` makes fail in the
same way. -/
inductive SpawnRun (t : Thread) : State V → ServiceId → State V → Prop where
  | call {before s name l} (hcall : CallsSpawn t name l) (hstep : before.step l = some s) :
    SpawnRun t before name s
  | step {before s next name l} (h : SpawnRun t before name s) (hgood : Undisturbed before t s l)
    (hstep : s.step l = some next) : SpawnRun t before name next
  | nested {before s last next name name'} (h : SpawnRun t before name s)
    (hunused : Unused s name') (hnested : SpawnRun t s name' last)
    (hfails : FailsInTime s t last next) : SpawnRun t before name next

/-- The registry while the spawn is under way. -/
structure RegistryStarted (before : Registry) (name : ServiceId) (i : Instance) (r : Registry) :
    Prop where
  actor : r.serviceActors name = some i
  serviceActors : ∀ id, id ≠ name → r.serviceActors id = before.serviceActors id
  services : r.services = before.services
  serviceOrder : r.serviceOrder = before.serviceOrder
  taken : ∀ n ∈ r.ownedNames name, before.publishedNames n = none
  published : ∀ n, n ∉ r.ownedNames name → r.publishedNames n = before.publishedNames n
  owned : ∀ id, id ≠ name → r.ownedNames id = before.ownedNames id

/-- The list grew only by ids from `start` on. -/
def Made {α : Type} (id : α → Nat) (start : Nat) (old now : List α) : Prop :=
  ∃ made, now = made ++ old ∧ ∀ x ∈ made, start ≤ id x

structure TablesStarted (before s : State V) : Prop where
  timers : Made ActorTimer.id before.calls.nextTimerId before.calls.timers s.calls.timers
  nextTimerId : before.calls.nextTimerId ≤ s.calls.nextTimerId
  tasks : Made ForkedTask.id before.nextTaskId before.tasks s.tasks
  nextTaskId : before.nextTaskId ≤ s.nextTaskId

/-- The state while the spawn is under way. -/
structure Started (before : State V) (name : ServiceId) (i : Instance) (s : State V) : Prop where
  named : Named s.actors i name
  registry : RegistryStarted before.registry name i s.registry
  tables : TablesStarted before s

inductive SpawnState (before : State V) (t : Thread) (name : ServiceId) (frames : List Frame)
    (s : State V) : Prop where
  | loading (hstack : s.stack t = .cpp (.spawnCreate name) :: frames)
    (huntouched : Untouched before s) (htables : TablesStarted before s)
  | running (i scope) (hscope : scope.serviceId = name)
    (hstack : s.stack t = .lua i .onInit :: .scope scope :: frames)
    (hstarted : Started before name i s)
  | waiting (i scope session) (hscope : scope.serviceId = name) (hstack : s.stack t =
      .cpp (.syncWait session) :: .lua i .onInit :: .scope scope :: frames)
    (hstarted : Started before name i s)
  | initialised (i exitAfterInit)
    (hstack : s.stack t = .cpp (.spawnPublish i name exitAfterInit) :: frames)
    (hstarted : Started before name i s)

namespace RegistryStarted

variable {before r : Registry} {name : ServiceId} {i : Instance}

lemma create {before s : State V} (h : Untouched before s) (hunused : Unused before name)
    (i : Instance) : RegistryStarted before.registry name i (s.registry.emplaceActor name i) := by
  have heq : s.registry.emplaceActor name i = { s.registry with
      serviceActors := Function.update before.registry.serviceActors name (some i) } := by
    simp [Registry.emplaceActor, h.serviceActors, hunused.1]
  rw [heq]
  exact {
    actor := Function.update_self _ _ _
    serviceActors := fun id hid => Function.update_of_ne hid _ _
    services := h.services
    serviceOrder := h.serviceOrder
    taken := by simp [h.ownedNames, hunused.2]
    published := fun n _ => congrFun h.publishedNames n
    owned := fun id _ => congrFun h.ownedNames id }

variable {n : String}

variable (h : RegistryStarted before name i r)
include h

lemma registerName
    (hinverse : Inverse r.publishedNames r.ownedNames)
    (hfree : ∀ owner, r.publishedNames n = some owner → owner = name) :
    RegistryStarted before name i (r.registerName name n) := by
  have howned : ∀ m, m ∈ (r.registerName name n).ownedNames name ↔
      m = n ∨ m ∈ r.ownedNames name := by
    intro m
    simp [Registry.registerName]
  have hname : n ∉ r.ownedNames name → before.publishedNames n = none := by
    intro hnot
    rw [← h.published n hnot]
    cases howner : r.publishedNames n with
    | none => rfl
    | some owner =>
      rw [hfree owner howner] at howner
      exact absurd ((hinverse n name).mp howner) hnot
  exact { h with
    taken := by
      intro m hm
      by_cases hmem : m ∈ r.ownedNames name
      · exact h.taken m hmem
      rcases (howned m).mp hm with rfl | hm
      · exact hname hmem
      · exact absurd hm hmem
    published := by
      intro m hm
      rw [howned, not_or] at hm
      rw [← h.published m hm.2]
      exact Function.update_of_ne hm.1 _ _
    owned := by
      intro id hid
      rw [← h.owned id hid]
      exact Function.update_of_ne hid _ _ }

lemma unregisterName
    (hinverse : Inverse r.publishedNames r.ownedNames) (howner : r.publishedNames n = some name) :
    RegistryStarted before name i (r.unregisterName name n) := by
  have howned : ∀ m, m ∈ (r.unregisterName name n).ownedNames name ↔
      m ∈ r.ownedNames name ∧ m ≠ n := by
    intro m
    simp [Registry.unregisterName]
  exact { h with
    taken := fun m hm => h.taken m ((howned m).mp hm).1
    published := by
      intro m hm
      rw [howned, not_and, not_not] at hm
      by_cases hmn : m = n
      · subst hmn
        rw [h.taken m ((hinverse m name).mp howner)]
        exact Function.update_self _ _ _
      · rw [← h.published m fun hmem => hmn (hm hmem)]
        exact Function.update_of_ne hmn _ _
    owned := by
      intro id hid
      rw [← h.owned id hid]
      exact Function.update_of_ne hid _ _ }

lemma undone (hactor : before.serviceActors name = none)
    (howned : before.ownedNames name = []) :
    ((r.dropNames name).eraseActor name).publishedNames = before.publishedNames ∧
      ((r.dropNames name).eraseActor name).ownedNames = before.ownedNames ∧
      ((r.dropNames name).eraseActor name).serviceActors = before.serviceActors := by
  refine ⟨?_, ?_, ?_⟩
  · funext n
    by_cases hn : n ∈ r.ownedNames name
    · simp [Registry.eraseActor, Registry.dropNames, hn, h.taken n hn]
    · simp [Registry.eraseActor, Registry.dropNames, hn, h.published n hn]
  · funext id
    by_cases hid : id = name
    · simp [Registry.eraseActor, Registry.dropNames, hid, howned]
    · simp [Registry.eraseActor, Registry.dropNames, hid, h.owned id hid]
  · funext id
    by_cases hid : id = name
    · simp [Registry.eraseActor, hid, hactor]
    · simp [Registry.eraseActor, Registry.dropNames, hid, h.serviceActors id hid]

end RegistryStarted

section

variable {before s next : State V} {l : Label V} {t : Thread} {name : ServiceId}
  {frames : List Frame} {i : Instance}

lemma Untouched.trans (h : Untouched before s) (h' : Untouched s next) : Untouched before next where
  services := h'.services.trans h.services
  publishedNames := h'.publishedNames.trans h.publishedNames
  ownedNames := h'.ownedNames.trans h.ownedNames
  serviceOrder := h'.serviceOrder.trans h.serviceOrder
  serviceActors := h'.serviceActors.trans h.serviceActors
  timers := h'.timers.trans h.timers
  tasks := h'.tasks.trans h.tasks

/-- What no step takes back. -/
structure Later (s next : State V) : Prop where
  named : ∀ i name, Named s.actors i name → Named next.actors i name
  nextTimerId : s.calls.nextTimerId ≤ next.calls.nextTimerId
  nextTaskId : s.nextTaskId ≤ next.nextTaskId

lemma Later.trans {mid : State V} (h : Later s mid) (h' : Later mid next) : Later s next :=
  ⟨fun i name hnamed => h'.named i name (h.named i name hnamed),
    h.nextTimerId.trans h'.nextTimerId, h.nextTaskId.trans h'.nextTaskId⟩

lemma Later.of_step (hstep : s.step l = some next) : Later s next := by
  have hmoved := step_moved hstep
  refine ⟨hmoved.named, ?_, hmoved.nextTaskId⟩
  rcases timers_callMove hmoved.calls with ⟨-, hnext⟩ | ⟨new, -, -, hnext⟩ <;> omega

lemma FailsInTime.exists_step (h : FailsInTime before t s next) : ∃ l, s.step l = some next := by
  rcases h.step with hstep | hstep <;> exact ⟨_, hstep⟩

lemma SpawnRun.exists_run (h : SpawnRun t before name s) :
    ∃ labels, run State.step before labels = some s := by
  have hsingle : ∀ {s next : State V} {l}, s.step l = some next → run State.step s [l] = some next :=
    fun hstep => by rw [run, hstep]; rfl
  induction h with
  | call hcall hstep => exact ⟨_, hsingle hstep⟩
  | step h hgood hstep ih =>
    obtain ⟨labels, hrun⟩ := ih
    exact ⟨_, run_append State.step hrun (hsingle hstep)⟩
  | nested h hunused hnested hfails ih ihnested =>
    obtain ⟨labels, hrun⟩ := ih
    obtain ⟨labels', hrun'⟩ := ihnested
    obtain ⟨l, hstep⟩ := hfails.exists_step
    exact ⟨_, run_append State.step hrun (run_append State.step hrun' (hsingle hstep))⟩

lemma Later.of_run {labels : List (Label V)} (hrun : run State.step s labels = some next) :
    Later s next :=
  reachable_invariant State.step (fun _ _ _ h hstep => h.trans (.of_step hstep))
    ⟨fun _ _ hnamed => hnamed, le_rfl, le_rfl⟩ hrun

namespace Made

variable {α : Type} {id : α → Nat} {old now : List α} {start : Nat}

lemma refl (id : α → Nat) (start : Nat) (old : List α) : Made id start old old := ⟨[], rfl, by simp⟩

variable (h : Made id start old now)
include h

lemma cons {a : α} (ha : start ≤ id a) :
    Made id start old (a :: now) := by
  obtain ⟨made, rfl, hmade⟩ := h
  exact ⟨a :: made, rfl, List.forall_mem_cons.mpr ⟨ha, hmade⟩⟩

lemma filter {p : α → Bool} (hold : ∀ x ∈ old, p x = true) :
    Made id start old (now.filter p) := by
  obtain ⟨made, rfl, hmade⟩ := h
  refine ⟨made.filter p, ?_, fun x hmem => hmade x (List.mem_of_mem_filter hmem)⟩
  rw [List.filter_append, List.filter_eq_self.mpr hold]

lemma eq_old (hnow : ∀ x ∈ now, id x < start) : now = old := by
  obtain ⟨made, rfl, hmade⟩ := h
  have hnone : made = [] := by
    rw [List.eq_nil_iff_forall_not_mem]
    intro x hmem
    exact absurd (hmade x hmem) (hnow x (List.mem_append_left _ hmem)).not_ge
  rw [hnone, List.nil_append]

end Made

lemma TablesStarted.later (h : TablesStarted before s) (hlater : Later s next)
    (htimers : Made ActorTimer.id before.calls.nextTimerId before.calls.timers next.calls.timers)
    (htasks : Made ForkedTask.id before.nextTaskId before.tasks next.tasks) :
    TablesStarted before next :=
  ⟨htimers, h.nextTimerId.trans hlater.nextTimerId, htasks, h.nextTaskId.trans hlater.nextTaskId⟩

section

variable {scope : DispatchFrame} {op : ApiOp V}

section

variable (h : Started before name i s) (hlater : Later s next)
include h hlater

lemma Started.later (hregistry : RegistryStarted before.registry name i next.registry)
    (htimers : Made ActorTimer.id before.calls.nextTimerId before.calls.timers next.calls.timers)
    (htasks : Made ForkedTask.id before.nextTaskId before.tasks next.tasks) :
    Started before name i next :=
  ⟨hlater.named i name h.named, hregistry, h.tables.later hlater htimers htasks⟩

lemma Started.congr (hregistry : next.registry = s.registry)
    (htimers : next.calls.timers = s.calls.timers) (htasks : next.tasks = s.tasks) :
    Started before name i next :=
  h.later hlater (hregistry ▸ h.registry) (htimers ▸ h.tables.timers) (htasks ▸ h.tables.tasks)

lemma Started.untouched (hsame : Untouched s next) : Started before name i next := by
  refine h.later hlater ?_ (hsame.timers ▸ h.tables.timers) (hsame.tasks ▸ h.tables.tasks)
  exact {
    actor := hsame.serviceActors ▸ h.registry.actor
    serviceActors := hsame.serviceActors ▸ h.registry.serviceActors
    services := hsame.services.trans h.registry.services
    serviceOrder := hsame.serviceOrder.trans h.registry.serviceOrder
    taken := hsame.ownedNames ▸ h.registry.taken
    published := by
      rw [hsame.ownedNames, hsame.publishedNames]
      exact h.registry.published
    owned := hsame.ownedNames ▸ h.registry.owned }

end

lemma Started.apiCase (h : Started before name i s) (hscope : scope.serviceId = name)
    (hinverse : Inverse s.registry.publishedNames s.registry.ownedNames)
    (hstack : s.stack t = .lua i .onInit :: .scope scope :: frames)
    (hop : initOp before op = true) (hlater : Later s next)
    (hcase : ApiCase s t i .onInit (.scope scope :: frames) op next) :
    SpawnState before t name frames next := by
  subst hscope
  cases hcase with
  | syncCall =>
    exact .waiting i scope s.calls.nextSyncCallSession rfl (Function.update_self _ _ _)
      (h.congr hlater rfl rfl rfl)
  | send | noTimer | noFork => exact .running i scope rfl hstack (h.congr hlater rfl rfl rfl)
  | spawn | raise => cases hop
  | exit =>
    refine .running i (if scope.inExit then scope else { scope with exitRequested := true }) ?_
      (Function.update_self _ _ _) (h.congr hlater rfl rfl rfl)
    split <;> rfl
  | register n howner hvalid hfree =>
    exact .running i scope rfl hstack (h.later hlater (h.registry.registerName hinverse hfree)
      h.tables.timers h.tables.tasks)
  | unregister n howned =>
    exact .running i scope rfl hstack (h.later hlater
      (h.registry.unregisterName hinverse howned) h.tables.timers h.tables.tasks)
  | timer =>
    exact .running i scope rfl hstack (h.later hlater h.registry
      (h.tables.timers.cons h.tables.nextTimerId) h.tables.tasks)
  | cancelTimer id =>
    have hold : ∀ timer ∈ before.calls.timers, decide (timer.id ≠ id) = true := by
      simpa [initOp] using hop
    exact .running i scope rfl hstack (h.later hlater h.registry (h.tables.timers.filter hold)
      h.tables.tasks)
  | fork =>
    exact .running i scope rfl hstack (h.later hlater h.registry h.tables.timers
      (h.tables.tasks.cons h.tables.nextTaskId))
  | ret values =>
    have hnext : ∃ exitAfterInit, (s.afterLua t i .onInit (.scope scope :: frames)
        (.returned values) false).stack t =
          .cpp (.spawnPublish i scope.serviceId exitAfterInit) :: frames := by
      rw [← h.named.serviceOf]
      exact ⟨_, Function.update_self _ _ _⟩
    obtain ⟨exitAfterInit, hstack⟩ := hnext
    exact .initialised i exitAfterInit hstack (h.congr hlater rfl rfl rfl)

end

lemma Untouched.create (h : Untouched before s) (hunused : Unused before name)
    (htables : TablesStarted before s) (hname : name ≠ "") (hlater : Later s next)
    (hnext : CppCase s t frames (.spawnCreate name) next) :
    SpawnState before t name frames next := by
  cases hnext
  exact .running s.actors.nextInstance { serviceId := name } rfl (Function.update_self _ _ _)
    ⟨⟨Nat.lt_succ_self _, Function.update_self _ _ _, hname⟩, .create h hunused _,
      htables.later hlater htables.timers htables.tasks⟩

lemma SpawnState.untouched (h : SpawnState before t name frames s) (hsame : Untouched s next)
    (hlater : Later s next) (hstacks : next.stack t = s.stack t) :
    SpawnState before t name frames next := by
  cases h with
  | loading hstack huntouched htables =>
    exact .loading (hstacks.trans hstack) (huntouched.trans hsame)
      (htables.later hlater (hsame.timers ▸ htables.timers) (hsame.tasks ▸ htables.tasks))
  | running i scope hscope hstack hstarted =>
    exact .running i scope hscope (hstacks.trans hstack) (hstarted.untouched hlater hsame)
  | waiting i scope session hscope hstack hstarted =>
    exact .waiting i scope session hscope (hstacks.trans hstack) (hstarted.untouched hlater hsame)
  | initialised i exitAfterInit hstack hstarted =>
    exact .initialised i exitAfterInit (hstacks.trans hstack) (hstarted.untouched hlater hsame)

variable {rest : List Frame}

lemma waiting_step {session : Nat} (hl : actingThread l = some t)
    (hstack : s.stack t = .cpp (.syncWait session) :: rest) (hstep : s.step l = some next) :
    next = { s with calls := s.calls.releaseSync session }.setStack t rest := by
  rcases cppTop_cases hstep hl hstack with ⟨-, hcase⟩ | ⟨session', heq, hnext⟩ | ⟨name, heq⟩
  · cases hcase
  · cases heq
    exact hnext
  · cases heq

lemma spawnState_step (h : SpawnState before t name frames s) (hspawned : Spawned s)
    (hinverse : Inverse s.registry.publishedNames s.registry.ownedNames)
    (hunused : Unused before name) (hgood : Undisturbed before t s l)
    (hstep : s.step l = some next) : SpawnState before t name frames next := by
  have hlater := Later.of_step hstep
  by_cases hl : actingThread l = some t
  · have hthis := hgood.1 hl
    cases h with
    | loading hstack huntouched htables =>
      simp only [spawnStep, hstack] at hthis
      cases l with
      | cont =>
        cases hl
        exact huntouched.create hunused htables (hspawned.top hstack) hlater (step_cpp hstack hstep)
      | _ => cases hthis
    | running i scope hscope hstack hstarted =>
      simp only [spawnStep, hstack] at hthis
      cases l with
      | api =>
        cases hl
        exact hstarted.apiCase hscope hinverse hstack hthis hlater (step_api hstack hstep)
      | _ => cases hthis
    | waiting i scope session hscope hstack hstarted =>
      obtain rfl := waiting_step hl hstack hstep
      exact .running i scope hscope (Function.update_self _ _ _) (hstarted.congr hlater rfl rfl rfl)
    | initialised i exitAfterInit hstack => simp [spawnStep, hstack] at hthis
  · exact h.untouched (hgood.2 hl next hstep) hlater ((step_moved hstep).others t hl)

lemma spawn_called (hcall : CallsSpawn t name l) (hstep : s.step l = some next) :
    s.registry.contains name = false ∧
      next = s.setStack t (.cpp (.spawnCreate name) :: s.stack t) := by
  rcases hcall with ⟨n, rfl, rfl⟩ | rfl
  · cases step_case hstep with
    | command n command next hstack hcase =>
      cases hcase with
      | spawn name hspawn =>
        rw [hstack]
        exact ⟨hspawn.free, rfl⟩
  · cases step_case hstep with
    | api t vm entry rest op next hstack hcan hcase =>
      cases hcase with
      | spawn name hspawn =>
        rw [hstack]
        exact ⟨hspawn.free, rfl⟩

lemma SpawnRun.free (h : SpawnRun t before name s) : before.registry.contains name = false := by
  induction h with
  | call hcall hstep => exact (spawn_called hcall hstep).1
  | step h hgood hstep ih => exact ih
  | nested h hunused hnested hfails ih => exact ih

lemma api_none {cont : Cont} {op : ApiOp V} (hstack : s.stack t = .cpp cont :: rest) :
    s.step (.api t op) ≠ some next := by
  intro hstep
  cases step_case hstep with
  | api t vm entry rest' op next hstack' => cases hstack.symm.trans hstack'

lemma SpawnState.loadFails (h : SpawnState before t name frames s)
    (hend : s.step (.loadFails t) = some next) : Untouched before next ∧ next.stack t = frames := by
  cases step_case hend with
  | loadFails t name' rest hstack' =>
    cases h with
    | loading hstack huntouched =>
      cases hstack.symm.trans hstack'
      exact ⟨huntouched.trans ⟨rfl, rfl, rfl, rfl, rfl, rfl, rfl⟩, Function.update_self _ _ _⟩
    | running i scope hscope hstack | waiting i scope session hscope hstack
    | initialised i exitAfterInit hstack => cases hstack.symm.trans hstack'

lemma SpawnState.fails (h : SpawnState before t name frames s) (hunused : Unused before name)
    (hfails : FailsInTime before t s next) : Untouched before next ∧ next.stack t = frames := by
  rcases hfails.step with hend | hend
  · exact h.loadFails hend
  cases h with
  | running i scope hscope hstack hstarted =>
    obtain ⟨hpublished, howned, hactors⟩ := hstarted.registry.undone hunused.1 hunused.2
    have htimers := hstarted.tables.timers.eq_old hfails.timers
    have htasks := hstarted.tables.tasks.eq_old hfails.tasks
    have hnext := step_raise hstack hend
    simp only [State.afterInit, hstarted.named.serviceOf] at hnext
    subst hnext
    exact ⟨⟨hstarted.registry.services, hpublished, howned, hstarted.registry.serviceOrder, hactors,
      htimers, htasks⟩, Function.update_self _ _ _⟩
  | loading hstack | waiting i scope session hscope hstack | initialised i exitAfterInit hstack =>
    exact absurd hend (api_none hstack)

/-- What the invariants say of a state that is reached. -/
structure Reached (s : State V) : Prop where
  spawned : Spawned s
  names : Inverse s.registry.publishedNames s.registry.ownedNames

lemma Reached.step (h : Reached s) (hstep : s.step l = some next) : Reached next :=
  ⟨spawned_moved h.spawned (step_moved hstep), names_inverse_moved h.names (step_registry hstep)⟩

lemma Reached.run {labels : List (Label V)} (h : Reached s)
    (hrun : run State.step s labels = some next) : Reached next :=
  reachable_invariant State.step (fun _ _ _ h hstep => h.step hstep) h hrun

lemma SpawnRun.reached (hrun : SpawnRun t before name s) (h : Reached before) : Reached s := by
  obtain ⟨labels, hlabels⟩ := hrun.exists_run
  exact h.run hlabels

/-- A nested spawn that fails has left everything as it was, so that it is one more step of the spawn
around it. -/
lemma spawnState_run (h : SpawnRun t before name s) (hreached : Reached before)
    (hunused : Unused before name) : SpawnState before t name (before.stack t) s := by
  induction h with
  | call hcall hstep =>
    obtain ⟨-, rfl⟩ := spawn_called hcall hstep
    exact .loading (Function.update_self _ _ _) ⟨rfl, rfl, rfl, rfl, rfl, rfl, rfl⟩
      ⟨.refl _ _ _, le_rfl, .refl _ _ _, le_rfl⟩
  | step h hgood hstep ih =>
    have hmid := h.reached hreached
    exact spawnState_step (ih hreached hunused) hmid.spawned hmid.names hunused hgood hstep
  | nested h hunused' hnested hfails ih ihnested =>
    have hinner := ihnested (h.reached hreached) hunused'
    obtain ⟨hsame, hstack⟩ := hinner.fails hunused' hfails
    obtain ⟨labels, hlabels⟩ := hnested.exists_run
    obtain ⟨l, hstep⟩ := hfails.exists_step
    have hlater := (Later.of_run hlabels).trans (.of_step hstep)
    exact (ih hreached hunused).untouched hsame hlater hstack

lemma SpawnState.published {exitAfterInit : Bool} (h : SpawnState before t name frames s)
    (hfree : before.registry.contains name = false)
    (hstack : s.stack t = .cpp (.spawnPublish i name exitAfterInit) :: rest)
    (hend : s.step (.cont t) = some next) (hservice : next.registry.services name = some i) :
    next.registry.targetActor name = some i := by
  have hsame : ∀ {frames'}, s.stack t = frames' →
      frames' = .cpp (.spawnPublish i name exitAfterInit) :: rest :=
    fun heq => heq.symm.trans hstack
  cases h with
  | loading hstack' | running j scope hscope hstack' | waiting j scope session hscope hstack' =>
    cases hsame hstack'
  | initialised j exitAfterInit' hstack' hstarted =>
    cases hsame hstack'
    cases step_cpp hstack hend with
    | conflict i name =>
      have hservice : s.registry.services name = some i := hservice
      rw [hstarted.registry.services, (contains_eq_false hfree).1] at hservice
      cases hservice
    | publish =>
      have hactor := hstarted.registry.actor
      simpa [Registry.targetActor, Registry.queryService, Registry.publish]
        using hactor

end

/-- An `on_init` that registers a name and spawns a module that cannot be loaded. -/
def failedInit : List (Label Nat) :=
  [.command 0 (.spawn "a"), .cont (.external 0), .api (.external 0) (.register "alias"),
    .api (.external 0) (.spawn "b"), .loadFails (.external 0)]

lemma failedInit_spawnRun :
    SpawnRun (.external 0) ({} : State Nat) "a" (reached failedInit) := by
  have hown : ∀ {s : State Nat} {l}, actingThread l = some (.external 0) →
      spawnStep ({} : State Nat) (.external 0) s l = true → Undisturbed {} (.external 0) s l :=
    fun hl hstep => ⟨fun _ => hstep, fun hother => absurd hl hother⟩
  have hnamed : SpawnRun (.external 0) ({} : State Nat) "a" (reached (failedInit.take 3)) := by
    refine .step (.step (.call (.inl ⟨0, rfl, rfl⟩) rfl) (hown (l := .cont (.external 0)) rfl rfl)
      rfl) (hown (l := .api (.external 0) (.register "alias")) rfl ?_) rfl
    decide
  have hnested : SpawnRun (.external 0) (reached (failedInit.take 3)) "b"
      (reached (failedInit.take 4)) := .call (.inr rfl) rfl
  exact hnamed.nested ⟨by decide, by decide⟩ hnested ⟨.inl rfl, by decide, by decide⟩

def lateFailureRun : List (Label Nat) :=
  [.command 0 (.spawn "a"), .cont (.external 0), .api (.external 0) (.register "alias"),
    .api (.external 0) (.timer true), .api (.external 0) .fork, .api (.external 0) (.raise true)] ++
    spawning "a"

end ShieldRuntime.Proofs
