import ShieldRuntime.Proofs.CallResponses
import ShieldRuntime.Proofs.SpawnedInstances

/-!
# Names and the services they stand for

`published_names` and `owned_names` are two views of one relation. A name that is left out is made
up, and not a valid one.
-/

namespace ShieldRuntime.Proofs
open Library Lua

section

variable {V : Type}

inductive RegistryMove (s : State V) (l : Label V) : Registry → Prop where
  | same : RegistryMove s l s.registry
  | register (t vm entry rest name) (hl : l = .api t (.register name))
    (hstack : s.stack t = .lua vm entry :: rest) (howner : currentServiceId rest ≠ "")
    (hvalid : validName name = true) (hfree : ∀ owner, s.registry.publishedNames name = some owner →
      owner = currentServiceId rest) :
    RegistryMove s l (s.registry.registerName (currentServiceId rest) name)
  | unregister (t vm entry rest name) (hl : l = .api t (.unregister name))
    (hstack : s.stack t = .lua vm entry :: rest)
    (howned : s.registry.publishedNames name = some (currentServiceId rest)) :
    RegistryMove s l (s.registry.unregisterName (currentServiceId rest) name)
  | initFailed (t i rest) (hl : l = .api t (.raise false))
    (hstack : s.stack t = .lua i .onInit :: rest) :
    RegistryMove s l
      ((s.registry.dropNames (s.actors.serviceOf i)).eraseActor (s.actors.serviceOf i))
  | resetErrorCount (t id rest) (hl : l = .cont t)
    (hstack : s.stack t = .cpp (.resetErrorCount id) :: rest) :
    RegistryMove s l (s.registry.setErrorCount id 0)
  | invokeErrorHook (t id vm rest) (hl : l = .cont t)
    (hstack : s.stack t = .cpp (.invokeErrorHook id) :: rest)
    (hservice : s.registry.services id = some vm) :
    RegistryMove s l (s.registry.setErrorCount id (s.registry.errorCounts id + 1))
  | exitErase (t id rest) (hl : l = .cont t) (hstack : s.stack t = .cpp (.exitErase id) :: rest) :
    RegistryMove s l (s.registry.eraseService id)
  | create (t name rest) (hl : l = .cont t) (hstack : s.stack t = .cpp (.spawnCreate name) :: rest)
    (hfree : s.registry.serviceActors name = none) :
    RegistryMove s l { s.registry with
      serviceActors := Function.update s.registry.serviceActors name s.actors.nextInstance }
  | publish (t i name exitAfterInit rest) (hl : l = .cont t)
    (hstack : s.stack t = .cpp (.spawnPublish i name exitAfterInit) :: rest)
    (hfree : s.registry.contains name = false) : RegistryMove s l (s.registry.publish name i)
  | conflict (t i name exitAfterInit rest) (hl : l = .cont t)
    (hstack : s.stack t = .cpp (.spawnPublish i name exitAfterInit) :: rest)
    (htaken : s.registry.contains name = true) : RegistryMove s l (s.registry.eraseActor name)
  | shutdownEnd (t seen rest) (hl : l = .cont t)
    (hstack : s.stack t = .cpp (.shutdown [] seen) :: rest) :
    RegistryMove s l { s.registry with serviceOrder := [] }
  | stopping (n) (hl : l = .command n .shutdownAll) :
    RegistryMove s l { s.registry with stopping := true }

variable {s next : State V} {l : Label V}

lemma afterLua_registry {t : Thread} {rest : List Frame} {vm : Instance} {entry : Entry}
    (outcome : Outcome V) (late : Bool)
    (hinit : entry = .onInit → outcome = .raised → late = true) :
    (s.afterLua t vm entry rest outcome late).registry = s.registry := by
  cases entry with
  | onInit =>
    cases outcome with
    | returned => rfl
    | raised =>
      rw [hinit rfl rfl]
      rfl
  | onError =>
    simp only [State.afterLua]
    split <;> rfl
  | _ => rfl

/-- The registry changes in the critical sections only. -/
theorem step_registry (h : s.step l = some next) : RegistryMove s l next.registry := by
  cases step_case h with
  | coroutine t vm co source rest op next hstack h
  | receive i look mail mails next hready hstack hmailbox h =>
    cases h with
    | _ => exact .same
  | api t vm entry rest op next hstack hcan h =>
    cases h with
    | register name howner hvalid hfree =>
      exact .register t vm entry rest name rfl hstack howner hvalid hfree
    | unregister name howned => exact .unregister t vm entry rest name rfl hstack howned
    | ret =>
      rw [afterLua_registry _ _ (by simp)]
      exact .same
    | raise late =>
      by_cases hinit : entry = .onInit ∧ late = false
      · obtain ⟨rfl, rfl⟩ := hinit
        exact .initFailed t vm rest rfl hstack
      · rw [afterLua_registry _ _ (fun hentry _ => by simpa [hentry] using hinit)]
        exact .same
    | _ => exact .same
  | cpp t cont rest next hstack h =>
    cases h with
    | resetErrorCount id => exact .resetErrorCount t id rest rfl hstack
    | invokeErrorHook id vm hservice => exact .invokeErrorHook t id vm rest rfl hstack hservice
    | exitErase id | exitEraseService id => exact .exitErase t id rest rfl hstack
    | create name =>
      rw [State.registry_setStack, Registry.emplaceActor]
      split
      · exact .same
      · exact .create t name rest rfl hstack (by simp_all)
    | conflict i name exitAfterInit htaken =>
      exact .conflict t i name exitAfterInit rest rfl hstack htaken
    | publish i name exitAfterInit hfree =>
      exact .publish t i name exitAfterInit rest rfl hstack hfree
    | shutdownEnd seen => exact .shutdownEnd t seen rest rfl hstack
    | _ => exact .same
  | command n command next hstack h =>
    cases h with
    | shutdownAll => exact .stopping n rfl
    | _ => exact .same
  | _ => exact .same

end

variable {V : Type} {s next : State V} {l : Label V} {r : Registry} {name : String} {id : ServiceId}

lemma contains_eq_false {name : ServiceId} (h : r.contains name = false) :
    r.services name = none ∧ r.publishedNames name = none := by
  simpa [Registry.contains] using h

lemma names_inverse_moved (h : Inverse s.registry.publishedNames s.registry.ownedNames)
    (hmove : RegistryMove s l r) : Inverse r.publishedNames r.ownedNames := by
  cases hmove with
  | register t vm entry rest name hl hstack howner hvalid hfree => exact h.add hfree
  | unregister t vm entry rest name hl hstack howned => exact h.remove howned
  | initFailed | exitErase => exact h.drop _
  | publish t i name exitAfterInit rest hl hstack hfree =>
    apply h.add
    intro owner howner
    rw [(contains_eq_false hfree).2] at howner
    cases howner
  | _ => exact h

/-- The service whose names the step gives up. -/
def releases (s : State V) : Label V → Option ServiceId
  | .api t (.unregister _) =>
    match s.stack t with
    | .lua _ _ :: rest => some (currentServiceId rest)
    | _ => none
  | .api t (.raise false) =>
    match s.stack t with
    | .lua i .onInit :: _ => some (s.actors.serviceOf i)
    | _ => none
  | .cont t =>
    match s.stack t with
    | .cpp (.exitErase id) :: _ => some id
    | _ => none
  | _ => none

lemma published_moved (h : Inverse s.registry.publishedNames s.registry.ownedNames)
    (hmove : RegistryMove s l r) (howner : s.registry.publishedNames name = some id) :
    r.publishedNames name = some id ∨ (r.publishedNames name = none ∧ releases s l = some id) := by
  have hdrop : ∀ other, releases s l = some other →
      (s.registry.dropNames other).publishedNames name = some id ∨
        ((s.registry.dropNames other).publishedNames name = none ∧ releases s l = some id) := by
    intro other hreleases
    by_cases hmem : name ∈ s.registry.ownedNames other
    · have hother : other = id := h.unique hmem ((h name id).mp howner)
      exact .inr ⟨by simp [Registry.dropNames, hmem], hother ▸ hreleases⟩
    · exact .inl (by simpa [Registry.dropNames, hmem] using howner)
  cases hmove with
  | register t vm entry rest other hl hstack hnonempty hvalid hfree =>
    by_cases hname : name = other
    · subst hname
      rw [hfree id howner]
      exact .inl (by simp [Registry.registerName])
    · exact .inl (by simpa [Registry.registerName, hname] using howner)
  | unregister t vm entry rest other hl hstack howned =>
    by_cases hname : name = other
    · subst hname
      rw [howner] at howned
      refine .inr ⟨by simp [Registry.unregisterName], ?_⟩
      simp only [hl, releases, hstack, howned]
    · exact .inl (by simpa [Registry.unregisterName, hname] using howner)
  | initFailed t i rest hl hstack => exact hdrop _ (by simp only [hl, releases, hstack])
  | exitErase t other rest hl hstack => exact hdrop other (by simp only [hl, releases, hstack])
  | publish t i other exitAfterInit rest hl hstack hfree =>
    have hname : name ≠ other := by
      rintro rfl
      rw [(contains_eq_false hfree).2] at howner
      cases howner
    exact .inl (by simpa [Registry.publish, hname] using howner)
  | _ => exact .inl howner

lemma exitErase_registry {t : Thread} {rest : List Frame}
    (hstack : s.stack t = .cpp (.exitErase id) :: rest) (h : s.step (.cont t) = some next) :
    next.registry = s.registry.eraseService id := by
  cases step_cpp hstack h with
  | _ => rfl

lemma eraseService_published (h : Inverse r.publishedNames r.ownedNames) (id : ServiceId)
    (name : String) : (r.eraseService id).publishedNames name ≠ some id := by
  intro howner
  have hmem := ((h.drop id) name id).mp howner
  simp at hmem

lemma names_inverse_reachable {labels : List (Label V)} (hrun : run State.step {} labels = some s) :
    Inverse s.registry.publishedNames s.registry.ownedNames := by
  have hstep : ∀ (s : State V) (l : Label V) (next : State V),
      Inverse s.registry.publishedNames s.registry.ownedNames → s.step l = some next →
      Inverse next.registry.publishedNames next.registry.ownedNames :=
    fun _ _ _ h hstep => names_inverse_moved h (step_registry hstep)
  refine reachable_invariant State.step hstep ?_ hrun
  intro name id
  simp

/-- In every state that is reached a name is published for a service exactly if the service owns it.
No step gives a published name to another service, only its owner gives it up, and after the last
critical section of `exit` the service has none. -/
theorem published_names_owned {labels : List (Label V)} {s : State V}
    (hrun : run State.step {} labels = some s) :
    (∀ name id, s.registry.publishedNames name = some id ↔ name ∈ s.registry.ownedNames id) ∧
      (∀ name id id', name ∈ s.registry.ownedNames id → name ∈ s.registry.ownedNames id' →
        id = id') ∧
      (∀ l next, s.step l = some next →
        ∀ name id, s.registry.publishedNames name = some id →
          next.registry.publishedNames name = some id ∨
            (next.registry.publishedNames name = none ∧ releases s l = some id)) ∧
      ∀ t id rest next, s.stack t = .cpp (.exitErase id) :: rest →
        s.step (.cont t) = some next → ∀ name, next.registry.publishedNames name ≠ some id := by
  have hinverse := names_inverse_reachable hrun
  refine ⟨hinverse, fun name id id' => hinverse.unique, ?_, ?_⟩
  · intro l next hnext name id howner
    exact published_moved hinverse (step_registry hnext) howner
  · intro t id rest next hstack hnext
    rw [exitErase_registry hstack hnext]
    exact eraseService_published hinverse id

def aliasRun : List (Label Nat) :=
  spawning "front" ++
    [.command 0 (.send "front" (some [])), .receive 0 (.function (some 3)),
      .api (.actor 0) (.register "lobby")]

theorem published_names_owned_alias :
    run State.step {} aliasRun = some (reached aliasRun) ∧
      "lobby" ∈ (reached aliasRun).registry.ownedNames "front" := by
  have hrun : run State.step {} aliasRun = some (reached aliasRun) := rfl
  have hpublished : (reached aliasRun).registry.publishedNames "lobby" = some "front" := by decide
  exact ⟨hrun, ((published_names_owned hrun).1 "lobby" "front").mp hpublished⟩

def registers (s : State V) : Label V → Option (ServiceId × String)
  | .api t (.register name) =>
    match s.stack t with
    | .lua _ _ :: rest => some (currentServiceId rest, name)
    | _ => none
  | _ => none

/-- No service registers the id of another one as a name. -/
def SparesIds (s : State V) (l : Label V) : Prop :=
  ∀ registered ∈ registers s l,
    registered.2 ≠ registered.1 → s.registry.services registered.2 = none

instance (s : State V) (l : Label V) : Decidable (SparesIds s l) :=
  inferInstanceAs (Decidable (∀ registered ∈ registers s l, _))

/-- A live service's id is published by no other service. -/
def OwnIds (r : Registry) : Prop :=
  ∀ id vm owner, r.services id = some vm → r.publishedNames id = some owner → owner = id

lemma dropNames_published {owner : ServiceId}
    (h : (r.dropNames id).publishedNames name = some owner) :
    r.publishedNames name = some owner := by
  simp only [Registry.dropNames] at h
  split at h
  · cases h
  · exact h

lemma published_before (hmove : RegistryMove s l r) (hpublished : r.publishedNames name = some id) :
    s.registry.publishedNames name = some id ∨ registers s l = some (id, name) ∨
      name = id ∧ ∃ t i exitAfterInit rest, l = .cont t ∧
        s.stack t = .cpp (.spawnPublish i id exitAfterInit) :: rest ∧
          s.registry.contains id = false := by
  cases hmove with
  | register t vm entry rest other hl hstack howner =>
    by_cases hname : name = other
    · subst hname
      have howner : currentServiceId rest = id := by
        simpa [Registry.registerName] using hpublished
      exact .inr (.inl (by simp only [hl, registers, hstack, howner]))
    · exact .inl (by simpa [Registry.registerName, hname] using hpublished)
  | unregister t vm entry rest other =>
    by_cases hname : name = other
    · simp [Registry.unregisterName, hname] at hpublished
    · exact .inl (by simpa [Registry.unregisterName, hname] using hpublished)
  | initFailed | exitErase =>
    exact .inl (dropNames_published hpublished)
  | publish t i other exitAfterInit rest hl hstack hfree =>
    by_cases hname : name = other
    · subst hname
      obtain rfl : name = id := by simpa [Registry.publish] using hpublished
      exact .inr (.inr ⟨rfl, t, i, exitAfterInit, rest, hl, hstack, hfree⟩)
    · exact .inl (by simpa [Registry.publish, hname] using hpublished)
  | _ => exact .inl hpublished

lemma service_before {vm : Instance} (hmove : RegistryMove s l r) (hservice : r.services id = some vm) :
    s.registry.services id = some vm ∨
      s.registry.publishedNames id = none ∧ registers s l = none := by
  cases hmove with
  | exitErase t other =>
    by_cases hid : id = other
    · simp [Registry.eraseService, hid] at hservice
    · exact .inl (by simpa [Registry.eraseService, hid] using hservice)
  | publish t i name exitAfterInit rest hl hstack hfree =>
    by_cases hid : id = name
    · subst hid
      exact .inr ⟨(contains_eq_false hfree).2, by simp only [hl, registers]⟩
    · exact .inl (by simpa [Registry.publish, hid] using hservice)
  | _ => exact .inl hservice

lemma ownIds_moved (h : OwnIds s.registry) (hgood : SparesIds s l) (hmove : RegistryMove s l r) :
    OwnIds r := by
  intro id vm owner hservice howner
  have hbefore := service_before hmove hservice
  rcases published_before hmove howner with hold | hregisters | ⟨rfl, -⟩
  · exact h id vm owner (by simpa [hold] using hbefore) hold
  · have hservice : s.registry.services id = some vm := by simpa [hregisters] using hbefore
    by_contra hne
    rw [hgood _ hregisters (Ne.symm hne)] at hservice
    cases hservice
  · rfl

/-- As long as no service registers the id of another one, the id of a service is looked up as the
service itself or as nothing, and a message to it goes to an actor of the service or nowhere. -/
theorem service_id_addresses_service {labels : List (Label V)} {s : State V}
    (hgood : Admits State.step SparesIds {} labels) (hrun : run State.step {} labels = some s)
    {id : ServiceId} {vm : Instance} (hservice : s.registry.services id = some vm) :
    (s.registry.queryService id = id ∨ s.registry.queryService id = "") ∧
      ∀ a, s.registry.targetActor id = some a → s.actors.serviceOf a = id := by
  have hstep : ∀ (s : State V) (l : Label V) (next : State V), OwnIds s.registry →
      SparesIds s l → s.step l = some next → OwnIds next.registry :=
    fun _ _ _ h hgood hstep => ownIds_moved h hgood (step_registry hstep)
  have hids : OwnIds s.registry := run_invariant State.step hstep (by simp [OwnIds]) hgood hrun
  have hspawned := spawned_reachable hrun
  have hquery : s.registry.queryService id = id ∨ s.registry.queryService id = "" := by
    unfold Registry.queryService
    cases howner : s.registry.publishedNames id with
    | none => exact .inr rfl
    | some owner => exact .inl (hids id vm owner hservice howner)
  refine ⟨hquery, ?_⟩
  intro a ha
  have hname := hspawned.serviceActors _ a ha
  rcases hquery with hquery | hquery
  · rw [hquery] at hname
    exact hname.serviceOf
  · exact absurd hquery hname.nonempty

theorem service_id_addresses_service_alias :
    Admits State.step SparesIds {} aliasRun ∧
      ((reached aliasRun).registry.queryService "front" = "front" ∨
        (reached aliasRun).registry.queryService "front" = "") := by
  have hgood : Admits State.step SparesIds {} aliasRun := by decide
  have hrun : run State.step {} aliasRun = some (reached aliasRun) := rfl
  have hservice : (reached aliasRun).registry.services "front" = some 0 := by decide
  exact ⟨hgood, (service_id_addresses_service hgood hrun hservice).1⟩

def takenIdRun : List (Label Nat) :=
  spawning "front" ++ spawning "back" ++
    [.command 0 (.send "front" (some [])), .receive 0 (.function (some 3)),
      .api (.actor 0) (.unregister "front"), .command 0 (.send "back" (some [])),
      .receive 1 (.function (some 4)), .api (.actor 1) (.register "front")]

/-- Both services live, and messages to `front` go to `back`. -/
theorem service_id_taken_over :
    run State.step {} takenIdRun = some (reached takenIdRun) ∧
      (reached takenIdRun).registry.services "front" = some 0 ∧
      (reached takenIdRun).registry.services "back" = some 1 ∧
      (reached takenIdRun).registry.queryService "front" = "back" ∧
      (reached takenIdRun).registry.targetActor "front" = some 1 :=
  ⟨rfl, by decide, by decide, by decide, by decide⟩

variable {V : Type}

lemma validName_made_up (module digits : String) : validName (module ++ ":" ++ digits) = false := by
  simp [validName]

/-- `spawn` gets past its checks of the name if and only if a name is given that is free and valid:
never with a name that is made up. -/
theorem spawn_name_accepted_iff (s : State V) (t : Thread) (frames : List Frame)
    (hash : String → Nat) (module name : String) :
    (s.spawn t frames (spawnName hash module name)).isSome = true ↔
      s.registry.stopping = false ∧ name ≠ "" ∧ s.registry.contains name = false ∧
        validName name = true := by
  unfold State.spawn spawnName
  by_cases hname : name = ""
  · simp [hname, validName_made_up]
  · simp [hname, and_assoc]

theorem anonymous_spawn_rejected :
    ({} : State Nat).spawn (.external 0) [] (spawnName (fun _ => 7) "game" "") = none := by
  decide

/-- The task gets an id, and is stored and sent to an actor once. -/
def AcceptsTask (s : State V) (vm : Instance) (id : ServiceId) : Prop :=
  s.forkedId id ≠ 0 ∧ ∃ a, s.registry.serviceActors id = some a ∧
    (s.fork vm id).tasks = ⟨s.forkedId id, id, vm⟩ :: s.tasks ∧
    (s.fork vm id).actors = s.actors.post a (.forkTask (s.forkedId id))

/-- What a command of the console delegates is accepted if and only if it delegates nothing. -/
theorem console_tasks_accepted_iff (s : State V) (vm : Instance) (command : ConsoleCommand) :
    (∀ id ∈ command.delegates, AcceptsTask s vm id) ↔ command.delegates = [] := by
  have hempty : ∀ id ∈ command.delegates, id = "" := by
    fun_cases ConsoleCommand.delegates command <;> simp_all
  constructor
  · intro h
    rw [List.eq_nil_iff_forall_not_mem]
    intro id hmem
    have haccepts := h id hmem
    rw [hempty id hmem] at haccepts
    exact haccepts.1 rfl
  · intro h
    simp [h]

theorem attach_not_accepted :
    (ConsoleCommand.attach ["game"]).delegates = [""] ∧
      ¬AcceptsTask (reached (spawning "game")) 0 "" :=
  ⟨rfl, fun h => h.1 rfl⟩

end ShieldRuntime.Proofs
