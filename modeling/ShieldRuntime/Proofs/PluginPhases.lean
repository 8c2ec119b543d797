import ShieldRuntime.Proofs.PluginResolve

/-!
# What the phases after planning do with an instance

One inversion for each verdict, and the frame of the updates.
-/

namespace ShieldRuntime.Proofs
open Library Transport Plugin

variable {i inst : Instance} {id : String} {instances : List Instance} {package : Package}
  {host : Host}

section Verdicts

variable {message : String} {log : List PluginEvent} {plugins : Plugins}
  {dump : JsonDump} {handle : Option Handle} {e : PluginEvent}

lemma loadVerdict_ok (h : loadVerdict plugins inst = .ok i log) :
    ∃ package abi, inst.package = some package ∧ inst.state = .planned ∧
      checkLibrary inst package (plugins inst.id) = .ok abi ∧
      i = { inst with abi := some abi, state := .loaded } ∧ log = [] := by
  revert h
  fun_cases loadVerdict plugins inst with
  | case4 package hpackage hstate abi habi =>
    rintro ⟨⟩
    exact ⟨package, abi, hpackage, not_not.mp hstate, habi, rfl, rfl⟩
  | _ => nofun

lemma loadVerdict_fail (h : loadVerdict plugins inst = .fail i message log) :
    inst.state = .planned ∧ i = inst ∧ log = [] := by
  revert h
  fun_cases loadVerdict plugins inst with
  | case3 package hpackage hstate =>
    rintro ⟨⟩
    exact ⟨not_not.mp hstate, rfl, rfl⟩
  | _ => nofun

lemma createVerdict_ok (h : createVerdict dump inst = .ok i log) :
    ∃ package config handle, inst.package = some package ∧ inst.state = .loaded ∧
      dump inst.decl.config = .ok config ∧
      checkCreated inst package (callCreate inst config) = .ok handle ∧
      i = { inst with handle := some handle } ∧ log = [.created inst.id] := by
  revert h
  fun_cases createVerdict dump inst with
  | case5 package hpackage hstate config hconfig result handle hhandle =>
    rintro ⟨⟩
    exact ⟨package, config, handle, hpackage, not_not.mp hstate, hconfig, hhandle, rfl, rfl⟩
  | _ => nofun

lemma createVerdict_fail (h : createVerdict dump inst = .fail i message log) :
    inst.state = .loaded ∧ i = inst ∧ ∃ config, dump inst.decl.config = .ok config ∧
      log = createdEvents inst.id (callCreate inst config).handle ++
        releaseEvents inst.id (callCreate inst config).handle := by
  revert h
  fun_cases createVerdict dump inst with
  | case4 package hpackage hstate config hconfig =>
    rintro ⟨⟩
    exact ⟨not_not.mp hstate, rfl, config, hconfig, rfl⟩
  | _ => nofun

lemma startVerdict_cases (instances : List Instance) (inst : Instance) :
    (startVerdict instances inst = .skip ∧ (inst.state = .unavailable ∨ inst.handle = none)) ∨
    (∃ message, startVerdict instances inst = giveUp inst message ∧
      ((∃ req, blockedBy instances inst = some req) ∨
        ∃ handle result, inst.handle = some handle ∧ handle.start = some result ∧ result.code ≠ 0)) ∨
    (startVerdict instances inst = .ok { inst with state := .started } [.started inst.id] ∧
      blockedBy instances inst = none ∧ ∃ handle, inst.handle = some handle ∧
        ∀ result, handle.start = some result → result.code = 0) := by
  fun_cases startVerdict instances inst with
  | case1 hstate => exact .inl ⟨rfl, .inl hstate⟩
  | case2 hstate hhandle => exact .inl ⟨rfl, .inr hhandle⟩
  | case3 hstate handle hhandle req hblocked =>
    exact .inr (.inl ⟨_, rfl, .inl ⟨req, hblocked⟩⟩)
  | case4 hstate handle hhandle hblocked result hresult hcode =>
    exact .inr (.inl ⟨_, rfl, .inr ⟨handle, result, hhandle, hresult, hcode⟩⟩)
  | case5 hstate handle hhandle hblocked result hresult hcode =>
    exact .inr (.inr ⟨rfl, hblocked, handle, hhandle, by simpa [hresult] using hcode⟩)
  | case6 hstate handle hhandle hblocked hnone =>
    exact .inr (.inr ⟨rfl, hblocked, handle, hhandle, by simp [hnone]⟩)

lemma stopVerdict_cases (inst : Instance) :
    (stopVerdict inst = .skip ∧ ¬(inst.handle.isSome = true ∧ inst.state = .started)) ∨
    ∃ handle, inst.handle = some handle ∧ inst.state = .started ∧
      stopVerdict inst = .ok { inst with handle := none, state := .stopped }
        (if handle.hasShutdown then [.shutdown inst.id, .stopped inst.id]
          else [.stopped inst.id]) := by
  unfold stopVerdict
  cases hhandle : inst.handle with
  | none => exact .inl ⟨rfl, by simp⟩
  | some handle =>
    by_cases hstate : inst.state = .started
    · exact .inr ⟨handle, rfl, hstate, by simp [hstate]⟩
    · exact .inl ⟨by simp [hstate], by simp [hstate]⟩

lemma settle_fail_idle (inst i : Instance) (message : String) (log : List PluginEvent) :
    (settle inst (.fail i message log)).1.state ≠ .started := by
  rw [settle_fail]
  cases i.decl.required <;> nofun

lemma releaseEvents_cases (id : String) (handle : Option Handle) :
    releaseEvents id handle = [] ∨ releaseEvents id handle = [.released id] := by
  unfold releaseEvents
  split
  · split
    · exact .inr rfl
    · exact .inl rfl
  · exact .inl rfl

lemma mem_releaseEvents (h : e ∈ releaseEvents id handle) : e = .released id := by
  rcases releaseEvents_cases id handle with heq | heq <;> rw [heq] at h
  · cases h
  · exact List.mem_singleton.mp h

lemma mem_createdEvents (h : e ∈ createdEvents id handle) : e = .created id := by
  unfold createdEvents at h
  split at h
  · exact List.mem_singleton.mp h
  · cases h

end Verdicts

section Frames

structure SamePlan (i i' : Instance) : Prop where
  same : SameDecl i i'
  depIds : i'.depIds = i.depIds

lemma SamePlan.refl (i : Instance) : SamePlan i i := ⟨.refl i, rfl⟩

lemma SamePlan.trans {i' i'' : Instance} (h : SamePlan i i') (h' : SamePlan i' i'') : SamePlan i i''
    :=
  ⟨h.same.trans h'.same, h'.depIds.trans h.depIds⟩

def KeepsInstance (inst : Instance) : Verdict → Prop
  | .ok i _ | .fail i _ _ => SamePlan inst i
  | .skip | .throw _ => True

variable {verdict : Verdict} {base : List Instance} {step : Step}

lemma settle_kept (h : KeepsInstance inst verdict) : SamePlan inst (settle inst verdict).1 := by
  cases verdict with
  | skip | throw => exact .refl inst
  | ok => exact h
  | fail i message log =>
    rw [settle_fail]
    exact SamePlan.trans h ⟨⟨rfl, rfl, rfl, rfl⟩, rfl⟩

lemma loadVerdict_keeps (plugins : Plugins) (inst : Instance) :
    KeepsInstance inst (loadVerdict plugins inst) := by
  fun_cases loadVerdict plugins inst <;> first | trivial | exact ⟨⟨rfl, rfl, rfl, rfl⟩, rfl⟩

lemma createVerdict_keeps (dump : JsonDump) (inst : Instance) :
    KeepsInstance inst (createVerdict dump inst) := by
  fun_cases createVerdict dump inst <;> first | trivial | exact ⟨⟨rfl, rfl, rfl, rfl⟩, rfl⟩

lemma startVerdict_keeps (instances : List Instance) (inst : Instance) :
    KeepsInstance inst (startVerdict instances inst) := by
  fun_cases startVerdict instances inst <;> first | trivial | exact ⟨⟨rfl, rfl, rfl, rfl⟩, rfl⟩

lemma stopVerdict_keeps (inst : Instance) : KeepsInstance inst (stopVerdict inst) := by
  rcases stopVerdict_cases inst with ⟨h, -⟩ | ⟨handle, -, -, h⟩ <;> rw [h]
  · trivial
  · exact ⟨⟨rfl, rfl, rfl, rfl⟩, rfl⟩

structure Follows (base instances : List Instance) : Prop where
  ids : instances.map (·.id) = base.map (·.id)
  kept : ∀ i ∈ instances, ∃ b ∈ base, SamePlan b i

lemma Follows.refl (base : List Instance) : Follows base base :=
  ⟨rfl, fun i hi => ⟨i, hi, .refl i⟩⟩

lemma Follows.runPhase {verdict : Instance → Verdict} (h : Follows base host.instances)
    (hkeeps : ∀ i, KeepsInstance i (verdict i)) :
    Follows base (runPhase verdict host).1.instances := by
  refine ⟨?_, ?_⟩
  · rw [← h.ids]
    exact forEach_map (fun i => (settle_kept (hkeeps i)).same.id) host.instances
  · intro i hi
    obtain ⟨j, hj, rfl | rfl⟩ := mem_forEach hi
    · exact h.kept i hj
    · obtain ⟨b, hb, hkept⟩ := h.kept j hj
      exact ⟨b, hb, hkept.trans (settle_kept (hkeeps j))⟩

section Set

variable {inst' : Instance}

@[simp] lemma setInstance_ids (inst : Instance) (instances : List Instance) :
    (setInstance inst instances).map (·.id) = instances.map (·.id) := by
  induction instances with
  | nil => rfl
  | cons i rest ih =>
    rw [setInstance]
    split
    · rename_i hid
      rw [List.map_cons, List.map_cons, hid]
    · rw [List.map_cons, List.map_cons, ih]

lemma mem_setInstance (hnodup : (instances.map (·.id)).Nodup) (hmem : inst ∈ instances)
    (hid : inst'.id = inst.id) (j : Instance) :
    j ∈ setInstance inst' instances ↔ j = inst' ∨ (j ∈ instances ∧ j.id ≠ inst.id) := by
  induction instances with
  | nil => cases hmem
  | cons i rest ih =>
    rw [List.map_cons, List.nodup_cons] at hnodup
    rw [setInstance, hid]
    by_cases hi : i.id = inst.id
    · have hrest : ∀ k ∈ rest, k.id ≠ inst.id := by
        intro k hk heq
        refine hnodup.1 ?_
        rw [hi, ← heq]
        exact List.mem_map_of_mem hk
      rw [if_pos hi, List.mem_cons, List.mem_cons]
      constructor
      · rintro (rfl | hj)
        · exact .inl rfl
        · exact .inr ⟨.inr hj, hrest j hj⟩
      · rintro (rfl | ⟨rfl | hj, hne⟩)
        · exact .inl rfl
        · exact absurd hi hne
        · exact .inr hj
    · have hrest : inst ∈ rest := by
        rcases List.mem_cons.mp hmem with rfl | h
        · exact absurd rfl hi
        · exact h
      rw [if_neg hi, List.mem_cons, List.mem_cons, ih hnodup.2 hrest]
      constructor
      · rintro (rfl | rfl | ⟨hj, hne⟩)
        · exact .inr ⟨.inl rfl, hi⟩
        · exact .inl rfl
        · exact .inr ⟨.inr hj, hne⟩
      · rintro (rfl | ⟨rfl | hj, hne⟩)
        · exact .inr (.inl rfl)
        · exact .inl rfl
        · exact .inr (.inr ⟨hj, hne⟩)

lemma setInstance_self (h : findInstance instances id = some inst) :
    setInstance inst instances = instances := by
  induction instances with
  | nil => cases h
  | cons i rest ih =>
    obtain ⟨-, rfl⟩ := findInstance_some h
    rw [setInstance]
    rw [findInstance, List.find?_cons] at h
    split
    · rename_i hid
      simp only [hid, beq_self_eq_true] at h
      rw [Option.some.inj h]
    · rename_i hid
      simp only [beq_eq_false_iff_ne.mpr hid] at h
      rw [ih h]

end Set

lemma applyStep_skip (h : findInstance host.instances id = some inst) :
    applyStep host (inst, [], none) = host := by
  rw [applyStep, setInstance_self h, List.append_nil]

lemma mem_applyStep (hnodup : (host.instances.map (·.id)).Nodup) (hmem : inst ∈ host.instances)
    (hkept : SamePlan inst step.1) (j : Instance) :
    j ∈ (applyStep host step).instances ↔ j = step.1 ∨ (j ∈ host.instances ∧ j.id ≠ inst.id) :=
  mem_setInstance hnodup hmem hkept.same.id j

lemma Follows.applyStep (h : Follows base host.instances) (hnodup : (base.map (·.id)).Nodup)
    (hmem : inst ∈ host.instances) (hkept : SamePlan inst step.1) :
    Follows base (applyStep host step).instances := by
  refine ⟨?_, ?_⟩
  · rw [Plugin.applyStep, setInstance_ids, h.ids]
  · intro j hj
    rcases (mem_applyStep (h.ids ▸ hnodup) hmem hkept j).mp hj with rfl | ⟨hj, -⟩
    · obtain ⟨b, hb, hb'⟩ := h.kept inst hmem
      exact ⟨b, hb, hb'.trans hkept⟩
    · exact h.kept j hj

lemma Follows.exists (h : Follows base instances)
    (hnodup : (base.map (·.id)).Nodup) {b : Instance} (hb : b ∈ base) :
    ∃ i ∈ instances, SamePlan b i := by
  have hid : b.id ∈ instances.map (·.id) := by
    rw [h.ids]
    exact List.mem_map_of_mem hb
  obtain ⟨i, hi, hid⟩ := List.mem_map.mp hid
  obtain ⟨b', hb', hkept⟩ := h.kept i hi
  have hfind := findInstance_of_mem hnodup hb'
  rw [← hkept.same.id, hid, findInstance_of_mem hnodup hb] at hfind
  cases hfind
  exact ⟨i, hi, hkept⟩

end Frames

section Runs

lemma runPhase_rule (verdict : Instance → Verdict) {I : Instance → Prop} {E : PluginEvent → Prop}
    (hstep : ∀ i, I i → I (settle i (verdict i)).1 ∧ ∀ e ∈ (settle i (verdict i)).2.1, E e)
    (hinstances : ∀ i ∈ host.instances, I i) (hlog : ∀ e ∈ host.log, E e) :
    (∀ i ∈ (runPhase verdict host).1.instances, I i) ∧
      ∀ e ∈ (runPhase verdict host).1.log, E e := by
  refine ⟨?_, ?_⟩
  · intro i hi
    obtain ⟨j, hj, rfl | rfl⟩ := mem_forEach hi
    · exact hinstances i hj
    · exact (hstep j (hinstances j hj)).1
  · intro e he
    rcases List.mem_append.mp he with he | he
    · exact hlog e he
    · obtain ⟨j, hj, he⟩ := mem_forEach_log he
      exact (hstep j (hinstances j hj)).2 e he

section Loops

variable {P : List String → Host → Prop}
  (hnone : ∀ id ids host, P (id :: ids) host → findInstance host.instances id = none → P ids host)

include hnone

lemma startLoop_rule (hstep : ∀ ids host inst, P (inst.id :: ids) host → inst ∈ host.instances →
      findInstance host.instances inst.id = some inst →
      P ids (applyStep host (settle inst (startVerdict host.instances inst))))
    (ids : List String) (host : Host) (h : P ids host) :
    ∃ left, P left (startLoop ids host).1 ∧ ((startLoop ids host).2 = none → left = []) := by
  induction ids generalizing host with
  | nil => exact ⟨[], h, fun _ => rfl⟩
  | cons id ids ih =>
    rw [startLoop]
    cases hfind : findInstance host.instances id with
    | none => exact ih host (hnone id ids host h hfind)
    | some inst =>
      obtain ⟨hmem, rfl⟩ := findInstance_some hfind
      have hnext := hstep ids host inst h hmem hfind
      simp only
      split
      · exact ⟨ids, hnext, fun hstop => by cases hstop⟩
      · exact ih _ hnext

lemma shutdownLoop_rule (hstep : ∀ ids host inst, P (inst.id :: ids) host → inst ∈ host.instances →
      findInstance host.instances inst.id = some inst →
      P ids (applyStep host (settle inst (stopVerdict inst))))
    (ids : List String) (host : Host) (h : P ids host) : P [] (shutdownLoop ids host) := by
  induction ids generalizing host with
  | nil => exact h
  | cons id ids ih =>
    rw [shutdownLoop]
    cases hfind : findInstance host.instances id with
    | none => exact ih host (hnone id ids host h hfind)
    | some inst =>
      obtain ⟨hmem, rfl⟩ := findInstance_some hfind
      exact ih _ (hstep ids host inst h hmem hfind)

end Loops

lemma shutdown_of_idle (h : ∀ i ∈ host.instances, i.state ≠ .started) : shutdown host = host := by
  refine shutdownLoop_rule (P := fun _ s => s = host) ?_ ?_ _ host rfl
  · intro id ids s hs _
    exact hs
  · rintro ids s inst rfl hmem hfind
    rcases stopVerdict_cases inst with ⟨hverdict, -⟩ | ⟨handle, -, hstate, -⟩
    · rw [hverdict, settle, applyStep_skip hfind]
    · exact absurd hstate (h inst hmem)

def endedIn (phase : StartupPhase) (host : Host) : Stop → Host × StartupResult
  | .error error => (shutdown host, .failed phase error)
  | .exception what => (host, .threw phase what)

def clearedHost (scanned : List Package) (host : Host) : Host :=
  { shutdown host with
    packages := scanned
    instances := []
    bindings := []
    startOrder := []
    log := [] }

variable (less same : Json → Json → Bool) (dump : JsonDump) (plugins : Plugins)
  (cfg : PluginConfig)

inductive StartupRun (cleared : Host) : Host × StartupResult → Prop
  | catalog {error} (hcatalog : catalog cleared.packages [] = some error) :
    StartupRun cleared (shutdown cleared, .failed .catalog error)
  | plan {planned stop} (hplan : planAndResolve less same cfg cleared = (planned, some stop)) :
    StartupRun cleared (endedIn .plan planned stop)
  | load {planned loaded stop} (hplan : planAndResolve less same cfg cleared = (planned, none))
    (hload : loadAll plugins planned = (loaded, some stop)) :
    StartupRun cleared (endedIn .load loaded stop)
  | create {planned loaded created stop}
    (hplan : planAndResolve less same cfg cleared = (planned, none))
    (hload : loadAll plugins planned = (loaded, none))
    (hcreate : createAll dump loaded = (created, some stop)) :
    StartupRun cleared (endedIn .create created stop)
  | start {planned loaded created started stop}
    (hplan : planAndResolve less same cfg cleared = (planned, none))
    (hload : loadAll plugins planned = (loaded, none))
    (hcreate : createAll dump loaded = (created, none))
    (hstart : startAll created = (started, some stop)) :
    StartupRun cleared (endedIn .start started stop)
  | check {planned loaded created started}
    (hplan : planAndResolve less same cfg cleared = (planned, none))
    (hload : loadAll plugins planned = (loaded, none))
    (hcreate : createAll dump loaded = (created, none))
    (hstart : startAll created = (started, none)) : StartupRun cleared (checkStarted started)

lemma thenPhase_rule {P : Host × StartupResult → Prop} {phase : StartupPhase}
    {result : Host × Option Stop} {next : Host → Host × StartupResult}
    (hstop : ∀ host stop, result = (host, some stop) → P (endedIn phase host stop))
    (hnext : ∀ host, result = (host, none) → P (next host)) : P (thenPhase phase result next) := by
  obtain ⟨host, stop⟩ := result
  cases stop with
  | none => exact hnext host rfl
  | some stop => cases stop <;> exact hstop host _ rfl

theorem startup_run (scanned : List Package) (host : Host) :
    StartupRun less same dump plugins cfg (clearedHost scanned host)
      (startup less same dump scanned plugins cfg host) := by
  rw [startup]
  split
  · exact .catalog ‹_›
  refine thenPhase_rule (fun _ _ hplan => .plan hplan) fun planned hplan => ?_
  refine thenPhase_rule (fun _ _ hload => .load hplan hload) fun loaded hload => ?_
  refine thenPhase_rule (fun _ _ hcreate => .create hplan hload hcreate) fun created hcreate => ?_
  refine thenPhase_rule (fun _ _ hstart => .start hplan hload hcreate hstart) fun _ hstart => ?_
  exact .check hplan hload hcreate hstart

end Runs

end ShieldRuntime.Proofs
