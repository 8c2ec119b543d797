import ShieldRuntime.Proofs.NameOwnership
import ShieldRuntime.Proofs.StackSteps
import ShieldRuntime.Proofs.VmIsolation

/-!
# Services, their actors and the names in between

`spawn` looks at the names, registers its actor, runs `on_init` unlocked and looks again. `exit` looks
the service up, runs the hook unlocked and erases the service at the end.
-/

namespace ShieldRuntime.Proofs
open Library Lua

section

variable {V : Type}

variable {exitAfterInit : Bool} {s : State V} {l : Label V} {i : Instance}

/-- Some thread has yet to publish the instance. -/
def Spawning (s : State V) (i : Instance) : Prop :=
  ∃ t, ∃ frame ∈ s.stack t, Unpublished i frame

/-- The service is there or being spawned. -/
def Live (s : State V) (id : ServiceId) : Prop :=
  (∃ vm, s.registry.services id = some vm) ∨
    ∃ i, s.registry.serviceActors id = some i ∧ Spawning s i

def endsSpawn (s : State V) : Label V → Option Instance
  | .api t (.raise _) =>
    match s.stack t with
    | .lua i .onInit :: _ => some i
    | _ => none
  | .cont t =>
    match s.stack t with
    | .cpp (.spawnPublish i _ _) :: _ => some i
    | _ => none
  | _ => none

def abandons (s : State V) : Label V → Option ServiceId
  | .api t (.raise true) =>
    match s.stack t with
    | .lua i .onInit :: _ => some (s.actors.serviceOf i)
    | _ => none
  | .cont t =>
    match s.stack t with
    | .cpp (.spawnPublish _ name _) :: _ => if s.registry.contains name then some name else none
    | _ => none
  | _ => none

def erases (s : State V) : Label V → Option ServiceId
  | .cont t =>
    match s.stack t with
    | .cpp (.exitErase id) :: _ => some id
    | _ => none
  | _ => none

def publishes (s : State V) : Label V → Option ServiceId
  | .cont t =>
    match s.stack t with
    | .cpp (.spawnPublish _ name _) :: _ => if s.registry.contains name then none else some name
    | _ => none
  | _ => none

/-- Names are only taken for live services, and given up with them. -/
def Orderly (s : State V) (l : Label V) : Prop :=
  (∀ name ∈ spawns s l, s.registry.serviceActors name = none) ∧
    (∀ id ∈ erases s l, s.registry.serviceActors id ≠ none → s.registry.services id ≠ none) ∧
    (∀ name ∈ abandons s l, s.registry.ownedNames name = []) ∧
    ∀ registered ∈ registers s l, Live s registered.1

/-- Names and services belong to actors that are there. -/
structure Registered (s : State V) : Prop where
  spawned : Spawned s
  inverse : Inverse s.registry.publishedNames s.registry.ownedNames
  services : ∀ id vm, s.registry.services id = some vm → s.registry.serviceActors id = some vm
  spawning : ∀ i, Spawning s i → s.registry.serviceActors (s.actors.serviceOf i) = some i
  names : ∀ name id, s.registry.publishedNames name = some id → Live s id

section

variable {next : State V} {t : Thread} {rest : List Frame}

lemma Spawning.token (h : Spawning s i) : ∃ t, .spawn i ∈ tokens (s.stack t) := by
  obtain ⟨t, frame, hmem, hi⟩ := h
  exact ⟨t, mem_tokens hmem (unpublished_token hi)⟩

lemma step_raise {late : Bool} (hstack : s.stack t = .lua i .onInit :: rest)
    (h : s.step (.api t (.raise late)) = some next) : next = s.afterInit t i rest .raised late := by
  cases step_api hstack h
  rfl

lemma stack_spawnPublish {name : ServiceId}
    (hstack : s.stack t = .cpp (.spawnPublish i name exitAfterInit) :: rest)
    (h : s.step (.cont t) = some next) :
    next.stack t = rest ∨ next.stack t = .cpp (.spawnReady i name exitAfterInit) :: rest := by
  cases step_cpp hstack h with
  | conflict => exact .inl (Function.update_self _ _ _)
  | publish => exact .inr (Function.update_self _ _ _)

lemma Spawning.moved (h : s.step l = some next) (hi : Spawning s i) :
    Spawning next i ∨ endsSpawn s l = some i := by
  obtain ⟨t, frame, hmem, hframe⟩ := hi
  have hscope : ∀ scope, frame ≠ .scope scope := by
    rintro scope rfl
    simp [Unpublished] at hframe
  rcases step_kept h hmem hscope with hkept | ⟨hends, rest, hstack⟩
  · exact .inl ⟨t, frame, hkept, hframe⟩
  rcases hframe with rfl | ⟨name, exitAfterInit, rfl⟩
  · obtain ⟨outcome, late, rfl, rfl⟩ := ends_afterLua h hends hstack (by simp)
    cases outcome with
    | returned values =>
      have hpushed : (s.afterLua t i .onInit rest (.returned values) late).stack t =
        _ :: State.popScope rest := State.stack_setStack ..
      exact .inl ⟨t, _, hpushed ▸ List.mem_cons_self, .inr ⟨_, _, rfl⟩⟩
    | raised => exact .inr (by simp only [luaEnd, endsSpawn, hstack])
  · obtain ⟨rfl, -⟩ := cpp_step h hends.acting hstack (by simp) (by simp)
    exact .inr (by simp only [endsSpawn, hstack])

lemma Spawning.before (hmoved : Moved s l next) (hi : Spawning next i) :
    Spawning s i ∨ i = s.actors.nextInstance := by
  obtain ⟨t, frame, hmem, hframe⟩ := hi
  by_cases hl : actingThread l = some t
  · rcases unpublished_stackMove (hmoved.stack t hl) hmem hframe with ⟨frame', hmem', hi'⟩ | hnew
    · exact .inl ⟨t, frame', hmem', hi'⟩
    · exact .inr hnew
  · rw [hmoved.others t hl] at hmem
    exact .inl ⟨t, frame, hmem, hframe⟩

lemma endsSpawn_cases (h : endsSpawn s l = some i) :
    (∃ t late rest, l = .api t (.raise late) ∧ s.stack t = .lua i .onInit :: rest) ∨
      ∃ t name exitAfterInit rest, l = .cont t ∧
        s.stack t = .cpp (.spawnPublish i name exitAfterInit) :: rest := by
  revert h
  fun_cases endsSpawn s l <;> rintro ⟨⟩
  · exact .inl ⟨_, _, _, rfl, ‹_›⟩
  · exact .inr ⟨_, _, _, _, rfl, ‹_›⟩

lemma Spawned.not_spawning (h : Spawned s) (hstep : s.step l = some next)
    (hends : endsSpawn s l = some i) : ¬ Spawning next i := by
  have hmoved := step_moved hstep
  intro hi
  rcases endsSpawn_cases hends with
    ⟨t, late, rest, rfl, hstack⟩ | ⟨t, name, exitAfterInit, rest, rfl, hstack⟩
  · have hrest : next.stack t <:+ rest := by
      rw [step_raise hstack hstep]
      cases late with
      | false | true => simpa [State.afterInit] using popScope_suffix rest
    obtain ⟨t', hmem⟩ := hi.token
    exact h.gone hmoved rfl hstack rfl hrest t' hmem
  · rcases stack_spawnPublish hstack hstep with hnext | hnext
    · obtain ⟨t', hmem⟩ := hi.token
      exact h.gone hmoved rfl hstack rfl (hnext ▸ List.suffix_refl _) t' hmem
    -- the service is published, and its spawn is no longer `Unpublished`
    obtain ⟨t', frame, hmem, hframe⟩ := hi
    have hheld := mem_tokens hmem (unpublished_token hframe)
    have hthread : t' = t := (spawned_moved h hmoved).exclusive.owner t' t _ hheld
      (mem_tokens_top hnext rfl)
    rw [hthread, hnext] at hmem
    rcases List.mem_cons.mp hmem with rfl | hmem
    · simp [Unpublished] at hframe
    · exact h.not_mem_rest hstack rfl (mem_tokens hmem (unpublished_token hframe))

namespace Registered

variable {name id : ServiceId} {r : Registry}

lemma service_free (h : Registered s) (hi : Spawning s i) :
    s.registry.services (s.actors.serviceOf i) = none := by
  cases hservice : s.registry.services (s.actors.serviceOf i) with
  | none => rfl
  | some vm =>
    have hactor := h.services _ vm hservice
    rw [h.spawning i hi] at hactor
    obtain ⟨t, frame, hmem, hframe⟩ := hi
    exact absurd (hservice.trans hactor.symm) (h.spawned.unpublished t i frame hmem hframe)

lemma onInit_spawning (hstack : s.stack t = .lua i .onInit :: rest) : Spawning s i :=
  ⟨t, _, hstack ▸ List.mem_cons_self, .inl rfl⟩

lemma publish_spawning (hstack : s.stack t = .cpp (.spawnPublish i name exitAfterInit) :: rest) :
    Spawning s i :=
  ⟨t, _, hstack ▸ List.mem_cons_self, .inr ⟨name, exitAfterInit, rfl⟩⟩

lemma publish_serviceOf (h : Registered s)
    (hstack : s.stack t = .cpp (.spawnPublish i name exitAfterInit) :: rest) :
    s.actors.serviceOf i = name := by
  have hname : Named s.actors i name := h.spawned.top hstack
  exact hname.serviceOf

lemma eraseActor_of_ne (r : Registry) (hne : id ≠ name) :
    (r.eraseActor name).serviceActors id = r.serviceActors id := by
  simp [Registry.eraseActor, hne]

lemma create_of_some {a : Instance} (hfree : r.serviceActors name = none)
    (ha : r.serviceActors id = some a) :
    Function.update r.serviceActors name (some i) id = some a := by
  have hne : id ≠ name := by
    rintro rfl
    simp [ha] at hfree
  rw [Function.update_of_ne hne, ha]

lemma services_moved (h : Registered s) (hmove : RegistryMove s l r) (id : ServiceId)
    (vm : Instance) (hservice : r.services id = some vm) : r.serviceActors id = some vm := by
  cases hmove with
  | initFailed t' i rest hl hstack =>
    have hne : id ≠ s.actors.serviceOf i := by
      rintro rfl
      have hservice : s.registry.services (s.actors.serviceOf i) = some vm := hservice
      rw [h.service_free (onInit_spawning hstack)] at hservice
      cases hservice
    rw [eraseActor_of_ne _ hne]
    exact h.services id vm hservice
  | exitErase t' other =>
    by_cases hne : id = other
    · simp [Registry.eraseService, hne] at hservice
    have hbefore : s.registry.services id = some vm := by
      simpa [Registry.eraseService, hne] using hservice
    have hactor := h.services id vm hbefore
    simpa [Registry.eraseService, Registry.eraseActor, Registry.dropNames, hne] using hactor
  | create t' name rest hl hstack hfree => exact create_of_some hfree (h.services id vm hservice)
  | publish t' i name exitAfterInit rest hl hstack =>
    by_cases hne : id = name
    · subst hne
      have hsame : i = vm := by simpa [Registry.publish] using hservice
      have hactor := h.spawning i (publish_spawning hstack)
      rw [h.publish_serviceOf hstack, hsame] at hactor
      exact hactor
    · exact h.services id vm (by simpa [Registry.publish, hne] using hservice)
  | conflict t' i name exitAfterInit rest hl hstack =>
    have hne : id ≠ name := by
      rintro rfl
      have hservice : s.registry.services id = some vm := hservice
      rw [← h.publish_serviceOf hstack, h.service_free (publish_spawning hstack)] at hservice
      cases hservice
    rw [eraseActor_of_ne _ hne]
    exact h.services id vm hservice
  | _ => exact h.services id vm hservice

lemma publish_ends (hl : l = .cont t)
    (hstack : s.stack t = .cpp (.spawnPublish i name exitAfterInit) :: rest) :
    endsSpawn s l = some i := by
  simp only [hl, endsSpawn, hstack]

lemma actor_moved (h : Registered s) (hgood : Orderly s l) (hmove : RegistryMove s l r)
    (hi : Spawning s i) (hends : endsSpawn s l ≠ some i) :
    r.serviceActors (s.actors.serviceOf i) = some i := by
  have hactor := h.spawning i hi
  have hne : ∀ j, Spawning s j → endsSpawn s l = some j →
      s.actors.serviceOf i ≠ s.actors.serviceOf j := by
    intro j hj hends' heq
    have hactor' := h.spawning j hj
    rw [← heq, hactor] at hactor'
    cases hactor'
    exact hends hends'
  cases hmove with
  | initFailed t' j rest hl hstack =>
    rw [eraseActor_of_ne _ (hne j (onInit_spawning hstack) (by simp only [hl, endsSpawn, hstack]))]
    exact hactor
  | exitErase t' id rest hl hstack =>
    have hid : s.actors.serviceOf i ≠ id := by
      rintro rfl
      have herases : erases s l = some (s.actors.serviceOf i) := by
        simp only [hl, erases, hstack]
      exact hgood.2.1 _ herases (by simp [hactor]) (h.service_free hi)
    exact (eraseActor_of_ne _ hid).trans hactor
  | create t' name rest hl hstack hfree => exact create_of_some hfree hactor
  | conflict t' j name exitAfterInit rest hl hstack =>
    have hname := hne j (publish_spawning hstack) (publish_ends hl hstack)
    rw [h.publish_serviceOf hstack] at hname
    rw [eraseActor_of_ne _ hname]
    exact hactor
  | _ => exact hactor

lemma spawning_moved (h : Registered s) (hgood : Orderly s l) (hstep : s.step l = some next)
    (i : Instance) (hi : Spawning next i) :
    next.registry.serviceActors (next.actors.serviceOf i) = some i := by
  have hmoved := step_moved hstep
  rcases hi.before hmoved with hold | rfl
  · obtain ⟨t, htoken⟩ := hold.token
    obtain ⟨name, hname⟩ := h.spawned.spawn_named htoken
    rw [hmoved.serviceOf_eq hname]
    apply h.actor_moved hgood (step_registry hstep) hold
    intro hends
    exact h.spawned.not_spawning hstep hends hi
  · -- the instance is created by this step, under a name without an actor
    obtain ⟨t, htoken⟩ := hi.token
    obtain ⟨name, hname⟩ := (spawned_moved h.spawned hmoved).spawn_named htoken
    have hcreated := hname.spawned
    rcases hmoved.names with ⟨hnext, -⟩ | ⟨t', created, rest, rfl, hstack, -, -⟩
    · rw [hnext] at hcreated
      exact absurd hcreated (lt_irrefl _)
    have hfree : s.registry.serviceActors created = none := by
      apply hgood.1 created
      simp [spawns, hstack]
    cases step_cpp hstack hstep
    simp [Registry.emplaceActor, Actors.create, hfree]

lemma service_kept (hmove : RegistryMove s l r) {vm : Instance}
    (hservice : s.registry.services id = some vm) :
    r.services id = some vm ∨ erases s l = some id := by
  cases hmove with
  | exitErase t' other rest hl hstack =>
    by_cases hid : id = other
    · subst hid
      exact .inr (by simp only [hl, erases, hstack])
    · exact .inl (by simpa [Registry.eraseService, hid] using hservice)
  | publish t' i name exitAfterInit rest hl hstack hfree =>
    have hid : id ≠ name := by
      rintro rfl
      rw [(contains_eq_false hfree).1] at hservice
      cases hservice
    exact .inl (by simpa [Registry.publish, hid] using hservice)
  | _ => exact .inl hservice

lemma erases_stack (h : erases s l = some id) :
    ∃ t rest, l = .cont t ∧ s.stack t = .cpp (.exitErase id) :: rest := by
  revert h
  fun_cases erases s l <;> rintro ⟨⟩
  exact ⟨_, _, rfl, ‹_›⟩

variable (h : Registered s) (hgood : Orderly s l) (hstep : s.step l = some next)
include h hgood hstep

lemma live_ended
    (hends : endsSpawn s l = some i) {name : String}
    (hpublished : next.registry.publishedNames name = some (s.actors.serviceOf i)) :
    Live next (s.actors.serviceOf i) := by
  have hnames := names_inverse_moved h.inverse (step_registry hstep)
  have howned := (hnames name _).mp hpublished
  rcases endsSpawn_cases hends with
    ⟨t, late, rest, rfl, hstack⟩ | ⟨t, created, exitAfterInit, rest, rfl, hstack⟩
  · rw [step_raise hstack hstep] at howned
    cases late with
    | false =>
      simp [State.afterInit, Registry.eraseActor, Registry.dropNames] at howned
    | true =>
      have hnone := hgood.2.2.1 (s.actors.serviceOf i)
        (by simp [abandons, hstack])
      simp [State.afterInit, hnone] at howned
  · rw [h.publish_serviceOf hstack] at howned ⊢
    cases step_cpp hstack hstep with
    | conflict i created exitAfterInit htaken =>
      have hnone := hgood.2.2.1 created
        (by simp [abandons, hstack, htaken])
      simp [Registry.eraseActor, hnone] at howned
    | publish i =>
      exact .inl ⟨i, by simp [Registry.publish]⟩

lemma names_moved
    (name : String) (id : ServiceId) (hpublished : next.registry.publishedNames name = some id) :
    Live next id := by
  have hmove := step_registry hstep
  by_cases hends : ∃ i, endsSpawn s l = some i ∧ s.actors.serviceOf i = id
  · obtain ⟨i, hends, rfl⟩ := hends
    exact h.live_ended hgood hstep hends hpublished
  have hlive : Live s id := by
    rcases published_before hmove hpublished with hold | hregisters |
        ⟨-, t, i, exitAfterInit, rest, hl, hstack, -⟩
    · exact h.names name id hold
    · exact hgood.2.2.2 _ hregisters
    · exact absurd ⟨i, publish_ends hl hstack, h.publish_serviceOf hstack⟩ hends
  rcases hlive with ⟨vm, hservice⟩ | ⟨i, hactor, hi⟩
  · rcases service_kept hmove hservice with hkept | herases
    · exact .inl ⟨vm, hkept⟩
    obtain ⟨t, rest, rfl, hstack⟩ := erases_stack herases
    rw [exitErase_registry hstack hstep] at hpublished
    exact absurd hpublished (eraseService_published h.inverse id name)
  · have hid := (h.spawned.serviceActors id i hactor).serviceOf
    have hgoes : endsSpawn s l ≠ some i := fun heq => hends ⟨i, heq, hid⟩
    rcases hi.moved hstep with hi' | heq
    · exact .inr ⟨i, hid ▸ h.actor_moved hgood hmove hi hgoes, hi'⟩
    · exact absurd heq hgoes

end Registered

lemma registered_step (h : Registered s) (hgood : Orderly s l) (hstep : s.step l = some next) :
    Registered next where
  spawned := spawned_moved h.spawned (step_moved hstep)
  inverse := names_inverse_moved h.inverse (step_registry hstep)
  services := h.services_moved (step_registry hstep)
  spawning := h.spawning_moved hgood hstep
  names := h.names_moved hgood hstep

lemma registered_init : Registered ({} : State V) where
  spawned := spawned_init
  inverse := by
    intro name id
    simp
  services _ _ h := nomatch h
  spawning i h := by
    obtain ⟨t, frame, hmem, -⟩ := h
    cases hmem
  names _ _ h := nomatch h

end

/-- In an orderly run every published service has its own actor, and every name belongs to a service
that is published or inside its own spawn. -/
theorem orderly_run_registered {labels : List (Label V)} {s : State V}
    (hgood : Admits State.step Orderly {} labels) (hrun : run State.step {} labels = some s) :
    (∀ id vm, s.registry.services id = some vm → s.registry.serviceActors id = some vm) ∧
      ∀ name id, s.registry.publishedNames name = some id → Live s id := by
  have hregistered : Registered s :=
    run_invariant State.step (fun _ _ _ h hgood hstep => registered_step h hgood hstep)
      registered_init hgood hrun
  exact ⟨hregistered.services, hregistered.names⟩

def OrderlyPublished (s : State V) (l : Label V) : Prop :=
  (∀ name ∈ spawns s l, s.registry.serviceActors name = none) ∧
    (∀ id ∈ erases s l, s.registry.serviceActors id ≠ none → s.registry.services id ≠ none) ∧
    (∀ name ∈ abandons s l, s.registry.ownedNames name = []) ∧
    ∀ registered ∈ registers s l, (s.registry.services registered.1).isSome = true

instance (s : State V) (l : Label V) : Decidable (OrderlyPublished s l) :=
  inferInstanceAs (Decidable (_ ∧ _ ∧ _ ∧ _))

lemma OrderlyPublished.orderly (h : OrderlyPublished s l) : Orderly s l :=
  ⟨h.1, h.2.1, h.2.2.1, fun registered hregisters =>
    .inl (Option.isSome_iff_exists.mp (h.2.2.2 registered hregisters))⟩

theorem orderly_run_registered_alias :
    Admits State.step Orderly {} aliasRun ∧
      (reached aliasRun).registry.serviceActors "front" = some 0 ∧
      Live (reached aliasRun) "front" := by
  have hchecked : Admits State.step OrderlyPublished {} aliasRun := by decide
  have hgood : Admits State.step Orderly {} aliasRun :=
    hchecked.mono State.step fun _ _ h => h.orderly
  have hrun : run State.step {} aliasRun = some (reached aliasRun) := rfl
  obtain ⟨hservices, hnames⟩ := orderly_run_registered hgood hrun
  exact ⟨hgood, hservices "front" 0 (by decide), hnames "lobby" "front" (by decide)⟩

def sameNameRun : List (Label Nat) :=
  [.command 0 (.spawn "a"), .command 1 (.spawn "a"), .cont (.external 0), .cont (.external 1),
    .api (.external 0) (.ret []), .api (.external 1) (.ret []), .cont (.external 0),
    .cont (.external 1)]

/-- The service `a` is published, and its actor is not registered any more. -/
theorem conflicting_spawn_erases_actor :
    run State.step {} sameNameRun = some (reached sameNameRun) ∧
      (reached sameNameRun).registry.services "a" = some 0 ∧
      (reached sameNameRun).registry.serviceActors "a" = none :=
  ⟨rfl, by decide, by decide⟩

end

variable {V : Type}

def ExitFrame (id : ServiceId) : Frame → Prop
  | .lua _ (.onExit id') | .cpp (.exitTimers id') | .cpp (.exitTimeouts id')
  | .cpp (.exitErase id') => id' = id
  | _ => False

/-- Some thread is inside the service's exit. -/
def Leaving (s : State V) (id : ServiceId) : Prop :=
  ∃ t, ∃ frame ∈ s.stack t, ExitFrame id frame

def leaves (s : State V) : Label V → Option ServiceId
  | .cont t =>
    match s.stack t with
    | .cpp (.exit id) :: _ => if (s.registry.services id).isSome then some id else none
    | _ => none
  | _ => none

/-- No service is exited while it is being exited. -/
def ExitsApart (s : State V) (l : Label V) : Prop := ∀ id ∈ leaves s l, ¬ Leaving s id

def HookRun (s : State V) (vm : Instance) : Prop :=
  ∃ id, Named s.actors vm id ∧
    ((s.registry.services id = some vm ∧ Leaving s id) ∨
      (s.registry.services id ≠ some vm ∧ ¬ Spawning s vm))

section

variable {s next : State V} {l : Label V} {vm : Instance} {id : ServiceId}

lemma exits_stack (h : exits s l = some vm) : ∃ t id rest, l = .cont t ∧
    s.stack t = .cpp (.exit id) :: rest ∧ s.registry.services id = some vm := by
  unfold exits at h
  split at h
  · rename_i t
    split at h
    · rename_i id rest hstack
      exact ⟨t, id, rest, rfl, hstack, h⟩
    · cases h
  · cases h

lemma length_requestCurrentExit (frames : List Frame) :
    (requestCurrentExit frames).length = frames.length := by
  induction frames with
  | nil => rfl
  | cons frame frames ih =>
    cases frame with
    | scope => rfl
    | lua | cpp => simp [requestCurrentExit, ih]

lemma exitFrame_step {t : Thread} {frame : Frame} {rest : List Frame} (h : s.step l = some next)
    (hl : actingThread l = some t) (hstack : s.stack t = frame :: rest)
    (hframe : ExitFrame id frame) :
    (l = .cont t ∧ frame = .cpp (.exitErase id)) ∨
      ∃ above frame' rest', next.stack t = above ++ frame' :: rest' ∧ ExitFrame id frame' ∧
        rest'.length = rest.length := by
  unfold ExitFrame at hframe
  split at hframe
  · subst hframe
    rcases luaTop_cases h hl hstack (by simp) with
      ⟨outcome, late, -, rfl⟩ | ⟨-, hnext⟩ | ⟨above, hnext⟩
    · exact .inr ⟨[], .cpp (.exitTimers _), rest, by simp [State.afterLua], rfl, rfl⟩
    · exact .inr ⟨[], _, _, hnext, rfl, length_requestCurrentExit rest⟩
    · exact .inr ⟨above, _, _, hnext, rfl, rfl⟩
  · subst hframe
    obtain ⟨-, hcase⟩ := cpp_step h hl hstack (by simp) (by simp)
    cases hcase
    exact .inr ⟨[], .cpp (.exitTimeouts _), rest, by simp, rfl, rfl⟩
  · subst hframe
    obtain ⟨-, hcase⟩ := cpp_step h hl hstack (by simp) (by simp)
    cases hcase
    exact .inr ⟨[], .cpp (.exitErase _), rest, by simp, rfl, rfl⟩
  · subst hframe
    obtain ⟨hcont, -⟩ := cpp_step h hl hstack (by simp) (by simp)
    exact .inl ⟨hcont, rfl⟩
  · exact hframe.elim

lemma Leaving.moved (h : s.step l = some next) (hleaving : Leaving s id) :
    Leaving next id ∨ erases s l = some id := by
  obtain ⟨t, frame, hmem, hframe⟩ := hleaving
  have hscope : ∀ scope, frame ≠ .scope scope := by
    rintro scope rfl
    exact hframe
  rcases step_kept h hmem hscope with hkept | ⟨hends, rest, hstack⟩
  · exact .inl ⟨t, frame, hkept, hframe⟩
  rcases exitFrame_step h hends.acting hstack hframe with
    ⟨rfl, rfl⟩ | ⟨above, frame', rest', hnext, hframe', -⟩
  · exact .inr (by simp only [erases, hstack])
  · exact .inl ⟨t, frame', by simp [hnext], hframe'⟩

lemma not_spawning_moved (hmoved : Moved s l next) (hname : Named s.actors vm id)
    (hnot : ¬ Spawning s vm) : ¬ Spawning next vm := by
  intro hspawning
  rcases hspawning.before hmoved with hold | rfl
  · exact hnot hold
  · exact lt_irrefl _ hname.spawned

lemma HookRun.moved (h : Spawned s) (hstep : s.step l = some next) (hrun : HookRun s vm) :
    HookRun next vm := by
  have hmoved := step_moved hstep
  obtain ⟨id, hname, ⟨hservice, hleaving⟩ | ⟨hservice, hspawning⟩⟩ := hrun
  · refine ⟨id, hmoved.named vm id hname, ?_⟩
    have hspawning : ¬ Spawning s vm := by
      rintro ⟨t, frame, hmem, hframe⟩
      apply h.unpublished t vm frame hmem hframe
      rw [hname.serviceOf]
      exact hservice
    have herased : erases s l = some id → next.registry.services id ≠ some vm := by
      intro herases
      obtain ⟨t, rest, rfl, hstack⟩ := Registered.erases_stack herases
      rw [exitErase_registry hstack hstep]
      simp [Registry.eraseService]
    rcases Registered.service_kept (step_registry hstep) hservice with hkept | herases
    · rcases hleaving.moved hstep with hleaving | herases
      · exact .inl ⟨hkept, hleaving⟩
      · exact absurd hkept (herased herases)
    · exact .inr ⟨herased herases, not_spawning_moved hmoved hname hspawning⟩
  · refine ⟨id, hmoved.named vm id hname, .inr ⟨?_, not_spawning_moved hmoved hname hspawning⟩⟩
    intro hnext
    rcases hmoved.services id vm hnext with hold | ⟨t, exitAfterInit, rest, -, hstack, -⟩
    · exact hservice hold
    · exact hspawning (Registered.publish_spawning hstack)

lemma hookRun_entered (h : Spawned s) (hstep : s.step l = some next)
    (hexits : exits s l = some vm) : HookRun next vm := by
  obtain ⟨t, id, rest, rfl, hstack, hservice⟩ := exits_stack hexits
  have hname := (step_moved hstep).named vm id (h.services id vm hservice)
  cases step_cpp hstack hstep with
  | noExit id hnone =>
    rw [hnone] at hservice
    cases hservice
  | exit id vm' hservice' =>
    cases hservice.symm.trans hservice'
    exact ⟨id, hname, .inl ⟨hservice, t, .lua vm (.onExit id), by simp, rfl⟩⟩

lemma HookRun.not_exits (h : Spawned s) (hgood : ExitsApart s l) (hrun : HookRun s vm) :
    exits s l ≠ some vm := by
  intro hexits
  obtain ⟨t, id, rest, rfl, hstack, hservice⟩ := exits_stack hexits
  obtain ⟨id', hname, ⟨-, hleaving⟩ | ⟨hgone, -⟩⟩ := hrun
  · have hid : id = id' := by
      rw [← (h.services id vm hservice).serviceOf, hname.serviceOf]
    subst hid
    refine hgood id ?_ hleaving
    simp [leaves, hstack, hservice]
  · apply hgone
    rw [← hname.serviceOf, (h.services id vm hservice).serviceOf]
    exact hservice

end

/-- As long as the exits of a service do not overlap, the `on_exit` hook of every instance is entered
at most once. -/
theorem on_exit_once {labels : List (Label V)} {s : State V}
    (hgood : Admits State.step ExitsApart {} labels) (hrun : run State.step {} labels = some s) :
    (observe State.step exits {} labels).Nodup := by
  have hstep : ∀ (seen : List Instance) (s : State V) (l : Label V) (next : State V),
      (Spawned s ∧ seen.Nodup ∧ ∀ vm ∈ seen, HookRun s vm) → ExitsApart s l →
      s.step l = some next →
      (Spawned next ∧ (seen ++ (exits s l).toList).Nodup ∧
        ∀ vm ∈ seen ++ (exits s l).toList, HookRun next vm) := by
    rintro seen s l next ⟨hspawned, hnodup, hseen⟩ hgood hstep
    refine ⟨spawned_moved hspawned (step_moved hstep), ?_, ?_⟩
    · rw [List.nodup_append]
      refine ⟨hnodup, ?_, ?_⟩
      · cases exits s l with
        | none => exact List.nodup_nil
        | some vm => exact List.nodup_singleton vm
      · rintro vm hvm vm' hvm' rfl
        exact (hseen vm hvm).not_exits hspawned hgood (Option.mem_toList.mp hvm')
    · intro vm hvm
      rcases List.mem_append.mp hvm with hvm | hvm
      · exact (hseen vm hvm).moved hspawned hstep
      · exact hookRun_entered hspawned hstep (Option.mem_toList.mp hvm)
  have hinit : Spawned ({} : State V) ∧ ([] : List Instance).Nodup ∧
      ∀ vm ∈ ([] : List Instance), HookRun ({} : State V) vm :=
    ⟨spawned_init, List.nodup_nil, by simp⟩
  have hlast := observe_invariant State.step hstep hinit hgood hrun
  simpa using hlast.2.1

lemma run_stack_eq {labels : List (Label V)} {s last : State V} {t : Thread}
    (hlabels : ∀ l ∈ labels, actingThread l ≠ some t) (hrun : run State.step s labels = some last) :
    last.stack t = s.stack t := by
  induction labels generalizing s with
  | nil =>
    cases hrun
    rfl
  | cons l labels ih =>
    obtain ⟨mid, hmid, hrest⟩ := run_cons State.step hrun
    rw [ih (fun l hl => hlabels l (List.mem_cons_of_mem _ hl)) hrest]
    exact (step_moved hmid).others t (hlabels l List.mem_cons_self)

def exitCalled : List (Label Nat) := spawning "a" ++ [.command 0 (.exit "a")]

lemma exitCalled_not_leaving (id : ServiceId) : ¬ Leaving (reached exitCalled) id := by
  rintro ⟨t, frame, hmem, hframe⟩
  by_cases ht : t = .external 0
  · subst ht
    have hstack : (reached exitCalled).stack (.external 0) = [.cpp (.exit "a")] := rfl
    rw [hstack, List.mem_singleton] at hmem
    subst hmem
    exact hframe
  · have hothers : ∀ l ∈ exitCalled, actingThread l = some (.external 0) := by decide
    have hrun : run State.step {} exitCalled = some (reached exitCalled) := rfl
    rw [run_stack_eq (fun l hl => by simpa [hothers l hl] using Ne.symm ht) hrun] at hmem
    cases hmem

theorem on_exit_once_called :
    Admits State.step ExitsApart {} (exitCalled ++ [.cont (.external 0)]) ∧
      (observe State.step exits {} (exitCalled ++ [.cont (.external 0)])).Nodup := by
  have hbefore : Admits State.step (fun s l => leaves s l = none) {} exitCalled := by decide
  have hapart : Admits State.step ExitsApart {} exitCalled := by
    apply hbefore.mono State.step
    intro s l hnone id hid
    rw [hnone] at hid
    cases hid
  have hlast : Admits State.step ExitsApart (reached exitCalled) [.cont (.external 0)] :=
    ⟨fun id _ => exitCalled_not_leaving id, fun _ _ => trivial⟩
  have hgood := admits_append State.step hapart rfl hlast
  exact ⟨hgood, on_exit_once hgood rfl⟩

def overlappingExitsRun : List (Label Nat) :=
  spawning "a" ++
    [.command 0 (.exit "a"), .command 1 (.exit "a"), .cont (.external 0), .cont (.external 1)]

/-- The `on_exit` hook of the one instance of `a` runs twice. -/
theorem on_exit_twice :
    run State.step {} overlappingExitsRun = some (reached overlappingExitsRun) ∧
      observe State.step exits {} overlappingExitsRun = [0, 0] ∧
      (reached overlappingExitsRun).stack (.external 0) =
        [.lua 0 (.onExit "a"), .scope { serviceId := "a", inExit := true }] ∧
      (reached overlappingExitsRun).stack (.external 1) =
        [.lua 0 (.onExit "a"), .scope { serviceId := "a", inExit := true }] :=
  ⟨rfl, by decide, rfl, rfl⟩

end ShieldRuntime.Proofs
