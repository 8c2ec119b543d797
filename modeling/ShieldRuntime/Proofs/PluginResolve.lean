import ShieldRuntime.Plugin.Host

/-!
# What planning and resolving leave

The phases before the start order update the instances one by one. The two passes of
`plan_and_resolve` after them are Kahn's algorithm on the graph of the resolved dependencies.
-/

namespace ShieldRuntime.Proofs
open Library Transport Plugin

section

variable {i inst : Instance} {id : String} {instances : List Instance}

lemma findInstance_some (h : findInstance instances id = some inst) :
    inst ∈ instances ∧ inst.id = id :=
  ⟨List.mem_of_find?_eq_some h, by simpa using List.find?_some h⟩

lemma findInstance_none (h : findInstance instances id = none) :
    ∀ inst ∈ instances, inst.id ≠ id := by
  intro inst hinst
  simpa using List.find?_eq_none.mp h inst hinst

lemma filter_id (hnodup : (instances.map (·.id)).Nodup) (h : inst ∈ instances) :
    instances.filter (·.id == inst.id) = [inst] := by
  induction instances with
  | nil => cases h
  | cons first rest ih =>
    rw [List.map_cons, List.nodup_cons] at hnodup
    rcases List.mem_cons.mp h with rfl | h
    · have hrest : rest.filter (·.id == inst.id) = [] := by
        refine List.filter_eq_nil_iff.mpr fun other hother heq => hnodup.1 ?_
        rw [← beq_iff_eq.mp heq]
        exact List.mem_map_of_mem hother
      rw [List.filter_cons_of_pos (by simp), hrest]
    · have hne : first.id ≠ inst.id := by
        intro heq
        exact hnodup.1 (heq ▸ List.mem_map_of_mem h)
      rw [List.filter_cons_of_neg (by simpa using hne), ih hnodup.2 h]

lemma findInstance_of_mem (hnodup : (instances.map (·.id)).Nodup) (h : inst ∈ instances) :
    findInstance instances inst.id = some inst := by
  rw [findInstance, ← List.head?_filter, filter_id hnodup h]
  rfl

section Steps

structure SameDecl (i i' : Instance) : Prop where
  id : i'.id = i.id
  package : i'.package = i.package
  required : i'.decl.required = i.decl.required
  dependencies : i'.decl.dependencies = i.decl.dependencies

lemma SameDecl.refl (i : Instance) : SameDecl i i := ⟨rfl, rfl, rfl, rfl⟩

lemma SameDecl.trans {i' i'' : Instance} (h : SameDecl i i') (h' : SameDecl i' i'') :
    SameDecl i i'' :=
  ⟨h'.id.trans h.id, h'.package.trans h.package, h'.required.trans h.required,
    h'.dependencies.trans h.dependencies⟩

variable {message : String} {log : List PluginEvent}

lemma settle_fail (inst i : Instance) (message : String) (log : List PluginEvent) :
    settle inst (.fail i message log) =
      ({ i with
          lastError := message
          state := if i.decl.required then .failed else .unavailable },
        log, if i.decl.required then some (.error message) else none) := by
  rw [settle, failOrUnavailable]
  cases i.decl.required <;> rfl

def AboutInstance (inst : Instance) : Verdict → Prop
  | .ok i _ | .fail i _ _ => SameDecl inst i
  | .skip | .throw _ => True

lemma settle_same {verdict : Verdict} (h : AboutInstance inst verdict) :
    SameDecl inst (settle inst verdict).1 := by
  cases verdict with
  | skip | throw => exact .refl inst
  | ok => exact h
  | fail i message log =>
    rw [settle_fail]
    exact SameDecl.trans h ⟨rfl, rfl, rfl, rfl⟩

lemma unavailable_of_fail (h : (settle inst (.fail i message log)).2.2 = none) :
    (settle inst (.fail i message log)).1.state = .unavailable := by
  rw [settle_fail] at h ⊢
  exact if_neg fun hrequired => by simp [hrequired] at h

section Config

variable {less same : Json → Json → Bool}

lemma configVerdict_ok (h : configVerdict less same inst = .ok i log) :
    ∃ package, inst.package = some package ∧ inst.state ≠ .unavailable ∧
      i = { inst with decl := { inst.decl with
        config := configWithDefaults package.manifest.configSchema inst.decl.config } } ∧
      log = [] := by
  revert h
  fun_cases configVerdict less same inst with
  | case5 package hpackage hstate config =>
    rintro ⟨⟩
    exact ⟨package, hpackage, hstate, rfl, rfl⟩
  | _ => nofun

lemma configVerdict_fail (h : configVerdict less same inst = .fail i message log) :
    i = inst ∧ log = [] := by
  revert h
  fun_cases configVerdict less same inst with
  | case4 =>
    rintro ⟨⟩
    exact ⟨rfl, rfl⟩
  | _ => nofun

lemma configVerdict_about (less same : Json → Json → Bool) (inst : Instance) :
    AboutInstance inst (configVerdict less same inst) := by
  fun_cases configVerdict less same inst <;> first | trivial | exact ⟨rfl, rfl, rfl, rfl⟩

end Config

section Resolve

variable {package : Package} {req : Require} {reqs : List Require}

lemma resolveVerdict_ok (h : resolveVerdict instances inst = .ok i log) :
    ∃ package depIds, inst.package = some package ∧ inst.state ≠ .unavailable ∧
      resolveRequires instances inst package.manifest.requires = .ok depIds ∧
      i = { inst with depIds } ∧ log = [] := by
  revert h
  fun_cases resolveVerdict instances inst with
  | case5 package hpackage hstate hdeclared depIds hresolved =>
    rintro ⟨⟩
    exact ⟨package, depIds, hpackage, hstate, hresolved, rfl, rfl⟩
  | _ => nofun

lemma resolveVerdict_skip (h : resolveVerdict instances inst = .skip) :
    inst.package = none ∨ inst.state = .unavailable := by
  revert h
  fun_cases resolveVerdict instances inst with
  | case1 hpackage => exact fun _ => .inl hpackage
  | case2 package hpackage hstate => exact fun _ => .inr hstate
  | _ => nofun

lemma resolveVerdict_fail (h : resolveVerdict instances inst = .fail i message log) :
    i = inst ∧ log = [] := by
  revert h
  fun_cases resolveVerdict instances inst with
  | case3 | case4 =>
    rintro ⟨⟩
    exact ⟨rfl, rfl⟩
  | _ => nofun

lemma resolveVerdict_about (instances : List Instance) (inst : Instance) :
    AboutInstance inst (resolveVerdict instances inst) := by
  fun_cases resolveVerdict instances inst <;> first | trivial | exact ⟨rfl, rfl, rfl, rfl⟩

lemma resolveRequire_some (h : resolveRequire instances inst req = .ok (some id)) :
    inst.decl.dependencies.lookup req.name = some id ∧ ∃ dep ∈ instances, dep.id = id := by
  revert h
  fun_cases resolveRequire instances inst req with
  | case5 target htarget dep hdep =>
    rintro ⟨⟩
    obtain ⟨hmem, hid⟩ := findInstance_some hdep
    exact ⟨by rw [htarget, hid], dep, hmem, rfl⟩
  | _ => nofun

lemma resolveRequire_none (h : resolveRequire instances inst req = .ok none) :
    req.isOptional = true := by
  revert h
  fun_cases resolveRequire instances inst req with
  | case1 _ hoptional | case3 _ _ _ hoptional | case6 _ _ _ _ _ hoptional => exact fun _ => hoptional
  | _ => nofun

lemma resolveRequires_ok {depIds : List String}
    (h : resolveRequires instances inst reqs = .ok depIds) :
    (∀ id ∈ depIds, ∃ dep ∈ instances, dep.id = id) ∧
    ∀ req ∈ reqs, req.isOptional = false →
      ∃ target, inst.decl.dependencies.lookup req.name = some target ∧ target ∈ depIds := by
  induction reqs generalizing depIds with
  | nil =>
    cases h
    simp
  | cons req reqs ih =>
    obtain ⟨found, hfound, h⟩ := ok_of_bind_ok h
    cases found with
    | none =>
      obtain ⟨hids, hreqs⟩ := ih h
      refine ⟨hids, ?_⟩
      intro req' hreq' hneeded
      rcases List.mem_cons.mp hreq' with rfl | hreq'
      · rw [resolveRequire_none hfound] at hneeded
        cases hneeded
      · exact hreqs req' hreq' hneeded
    | some id =>
      obtain ⟨rest, hrest, h⟩ := ok_of_bind_ok h
      cases h
      obtain ⟨hids, hreqs⟩ := ih hrest
      obtain ⟨hlookup, hdep⟩ := resolveRequire_some hfound
      refine ⟨List.forall_mem_cons.mpr ⟨hdep, hids⟩, ?_⟩
      intro req' hreq' hneeded
      rcases List.mem_cons.mp hreq' with rfl | hreq'
      · exact ⟨id, hlookup, List.mem_cons_self⟩
      · obtain ⟨target, htarget, hmem⟩ := hreqs req' hreq' hneeded
        exact ⟨target, htarget, List.mem_cons_of_mem _ hmem⟩

end Resolve

end Steps

section Prepared

variable {less same : Json → Json → Bool} {packages : List Package}

section

variable (packages) (d : InstanceDecl)

@[simp] lemma planOne_id : (planOne packages d).id = d.id := by
  unfold planOne
  split <;> rfl

lemma planOne_decl : (planOne packages d).decl = d := by
  unfold planOne
  split <;> rfl

lemma planOne_depIds : (planOne packages d).depIds = [] := by
  unfold planOne
  split <;> rfl

end

variable {decls : List InstanceDecl} {seen : List String}

lemma planInstances_none :
    (planInstances packages decls seen).2 = none ↔
      (∀ d ∈ decls, d.id ≠ "" ∧ d.id ∉ seen ∧
        ¬(findPackage packages d.package = none ∧ d.required = true)) ∧
      (decls.map (·.id)).Nodup := by
  induction decls generalizing seen with
  | nil => simp [planInstances]
  | cons d rest ih =>
    rw [planInstances]
    by_cases hempty : d.id = ""
    · simp [hempty]
    by_cases hseen : d.id ∈ seen
    · simp [hempty, hseen]
    by_cases hmissing : findPackage packages d.package = none ∧ d.required = true
    · simp [hempty, hseen, hmissing]
    have hfound : ¬((findPackage packages d.package).isNone && d.required) = true := by
      simpa using hmissing
    rw [if_neg hempty, if_neg (by simpa using hseen), if_neg hfound]
    simp only [ih, List.forall_mem_cons, List.map_cons, List.nodup_cons]
    constructor
    · rintro ⟨hall, hnodup⟩
      refine ⟨⟨⟨hempty, hseen, hmissing⟩, fun d' hd' => ?_⟩, ?_, hnodup⟩
      · obtain ⟨h1, h2, h3⟩ := hall d' hd'
        exact ⟨h1, fun h => h2 (List.mem_cons_of_mem _ h), h3⟩
      · intro hmem
        obtain ⟨d', hd', heq⟩ := List.mem_map.mp hmem
        exact (hall d' hd').2.1 (heq ▸ List.mem_cons_self)
    · rintro ⟨⟨-, hall⟩, hnew, hnodup⟩
      refine ⟨fun d' hd' => ?_, hnodup⟩
      obtain ⟨h1, h2, h3⟩ := hall d' hd'
      refine ⟨h1, fun h => ?_, h3⟩
      rcases List.mem_cons.mp h with heq | h
      · exact hnew (heq ▸ List.mem_map_of_mem hd')
      · exact h2 h

lemma planInstances_eq (h : (planInstances packages decls seen).2 = none) :
    (planInstances packages decls seen).1 = decls.map (planOne packages) := by
  induction decls generalizing seen with
  | nil => rfl
  | cons d rest ih =>
    rw [planInstances] at h ⊢
    split_ifs at h ⊢
    rw [List.map_cons, ← ih h]

def configured (less same : Json → Json → Bool) (packages : List Package)
    (decls : List InstanceDecl) : List Instance :=
  (decls.map (planOne packages)).map fun i => (settle i (configVerdict less same i)).1

lemma forEach_configured
    (h : ∀ i ∈ decls.map (planOne packages), (settle i (configVerdict less same i)).2.2 = none) :
    (forEach (fun i => settle i (configVerdict less same i)) (decls.map (planOne packages))).1 =
      configured less same packages decls :=
  (forEach_complete (forEach_none_iff.mpr h)).1

lemma prepareInstances_none :
    (prepareInstances less same packages decls).2 = none ↔
      (planInstances packages decls []).2 = none ∧
      (∀ i ∈ decls.map (planOne packages), (settle i (configVerdict less same i)).2.2 = none) ∧
      ∀ i ∈ configured less same packages decls,
        (settle i (resolveVerdict (configured less same packages decls) i)).2.2 = none := by
  unfold prepareInstances
  cases hplan : (planInstances packages decls []).2 with
  | some => simp [hplan]
  | none =>
    simp only [hplan, planInstances_eq hplan, true_and]
    cases hconfig : (forEach (fun i => settle i (configVerdict less same i))
        (decls.map (planOne packages))).2.2 with
    | some stop =>
      have hstopped : ¬∀ i ∈ decls.map (planOne packages),
          (settle i (configVerdict less same i)).2.2 = none := by
        rw [← forEach_none_iff (f := fun i => settle i (configVerdict less same i)), hconfig]
        simp
      simp only [hstopped, false_and, iff_false]
      simp
    | none =>
      have hall := forEach_none_iff.mp hconfig
      simp only [forEach_configured hall]
      rw [forEach_none_iff]
      exact ⟨fun h => ⟨hall, h⟩, fun h => h.2⟩

lemma prepareInstances_eq (h : (prepareInstances less same packages decls).2 = none) :
    (prepareInstances less same packages decls).1 =
      (configured less same packages decls).map fun i =>
        (settle i (resolveVerdict (configured less same packages decls) i)).1 := by
  obtain ⟨hplan, hconfig, hresolve⟩ := prepareInstances_none.mp h
  unfold prepareInstances
  simp only [hplan, planInstances_eq hplan, forEach_none_iff.mpr hconfig, forEach_configured hconfig]
  exact (forEach_complete (forEach_none_iff.mpr hresolve)).1

/-- The instance as planning leaves it. -/
def Fresh (i : Instance) : Prop :=
  (i.abi = none ∧ i.handle = none) ∧
    ((i.state = .planned ∧ i.package ≠ none) ∨ i.state = .unavailable)

/-- Every required dependency is bound and resolved. -/
def Satisfied (i : Instance) : Prop :=
  ∃ package, i.package = some package ∧ ∀ req ∈ package.manifest.requires, req.isOptional = false →
    ∃ target, i.decl.dependencies.lookup req.name = some target ∧ target ∈ i.depIds

/-- The instances after the resolution. -/
structure Planned (instances : List Instance) : Prop where
  nodup : (instances.map (·.id)).Nodup
  deps : ∀ i ∈ instances, ∀ d ∈ i.depIds, d ∈ instances.map (·.id)
  fresh : ∀ i ∈ instances, Fresh i
  satisfied : ∀ i ∈ instances, i.state = .planned → Satisfied i

lemma planOne_fresh (packages : List Package) (d : InstanceDecl) : Fresh (planOne packages d) := by
  unfold planOne
  split
  · exact ⟨⟨rfl, rfl⟩, .inr rfl⟩
  · exact ⟨⟨rfl, rfl⟩, .inl ⟨rfl, by simp⟩⟩

lemma settle_configVerdict (hnone : (settle inst (configVerdict less same inst)).2.2 = none)
    (hfresh : Fresh inst) :
    Fresh (settle inst (configVerdict less same inst)).1 ∧
      (settle inst (configVerdict less same inst)).1.depIds = inst.depIds := by
  cases h : configVerdict less same inst with
  | skip => exact ⟨hfresh, rfl⟩
  | ok =>
    obtain ⟨-, -, -, rfl, -⟩ := configVerdict_ok h
    exact ⟨hfresh, rfl⟩
  | fail =>
    obtain ⟨rfl, rfl⟩ := configVerdict_fail h
    rw [h] at hnone
    have hstate := unavailable_of_fail hnone
    rw [settle_fail] at hstate ⊢
    exact ⟨⟨hfresh.1, .inr hstate⟩, rfl⟩
  | throw =>
    rw [h] at hnone
    cases hnone

lemma configured_ids (less same : Json → Json → Bool) (packages : List Package)
    (decls : List InstanceDecl) :
    (configured less same packages decls).map (·.id) = decls.map (·.id) := by
  rw [configured, List.map_map, List.map_map]
  refine List.map_congr_left fun d _ => ?_
  rw [Function.comp_apply, Function.comp_apply,
    (settle_same (configVerdict_about less same (planOne packages d))).id, planOne_id]

lemma configured_fresh
    (h : ∀ i ∈ decls.map (planOne packages), (settle i (configVerdict less same i)).2.2 = none)
    (hi : i ∈ configured less same packages decls) : Fresh i ∧ i.depIds = [] := by
  obtain ⟨p, hp, rfl⟩ := List.mem_map.mp hi
  obtain ⟨d, -, rfl⟩ := List.mem_map.mp hp
  obtain ⟨hfresh, hdeps⟩ := settle_configVerdict (h _ hp) (planOne_fresh packages d)
  exact ⟨hfresh, by rw [hdeps, planOne_depIds]⟩

lemma settle_resolveVerdict (hnone : (settle inst (resolveVerdict instances inst)).2.2 = none)
    (hfresh : Fresh inst) (hdeps : inst.depIds = []) :
    Fresh (settle inst (resolveVerdict instances inst)).1 ∧
    (∀ d ∈ (settle inst (resolveVerdict instances inst)).1.depIds, ∃ dep ∈ instances, dep.id = d) ∧
    ((settle inst (resolveVerdict instances inst)).1.state = .planned →
      Satisfied (settle inst (resolveVerdict instances inst)).1) := by
  cases h : resolveVerdict instances inst with
  | skip =>
    refine ⟨hfresh, by simp [settle, hdeps], fun hplanned => ?_⟩
    -- an instance that is planned has a package, and is not passed over
    rw [settle] at hplanned
    rcases hfresh.2 with ⟨-, hpackage⟩ | hunavailable
    · rcases resolveVerdict_skip h with hnone | hunavailable
      · exact absurd hnone hpackage
      · rw [hplanned] at hunavailable
        cases hunavailable
    · rw [hplanned] at hunavailable
      cases hunavailable
  | ok =>
    obtain ⟨package, depIds, hpackage, -, hresolved, rfl, -⟩ := resolveVerdict_ok h
    obtain ⟨hids, hneeds⟩ := resolveRequires_ok hresolved
    exact ⟨hfresh, hids, fun _ => ⟨package, hpackage, hneeds⟩⟩
  | fail =>
    obtain ⟨rfl, rfl⟩ := resolveVerdict_fail h
    rw [h] at hnone
    have hstate := unavailable_of_fail hnone
    rw [settle_fail] at hstate ⊢
    refine ⟨⟨hfresh.1, .inr hstate⟩, by simp [hdeps], fun hplanned => ?_⟩
    cases hstate.symm.trans hplanned
  | throw =>
    rw [h] at hnone
    cases hnone

section

variable (h : (prepareInstances less same packages decls).2 = none)
include h

lemma prepareInstances_ids :
    (prepareInstances less same packages decls).1.map (·.id) = decls.map (·.id) := by
  rw [prepareInstances_eq h, List.map_map, ← configured_ids less same packages decls]
  exact List.map_congr_left fun i _ => (settle_same (resolveVerdict_about _ i)).id

lemma prepareInstances_declared {d : InstanceDecl} (hd : d ∈ decls) :
    ∃ i ∈ (prepareInstances less same packages decls).1,
      i.id = d.id ∧ i.decl.required = d.required := by
  have hconfig := settle_same (configVerdict_about less same (planOne packages d))
  have hresolve := settle_same (resolveVerdict_about (configured less same packages decls)
    (settle (planOne packages d) (configVerdict less same (planOne packages d))).1)
  have hboth := hconfig.trans hresolve
  rw [prepareInstances_eq h]
  refine ⟨_, List.mem_map_of_mem (List.mem_map_of_mem (List.mem_map_of_mem hd)), ?_, ?_⟩
  · rw [hboth.id, planOne_id]
  · rw [hboth.required, planOne_decl]

theorem planned_of_prepare : Planned (prepareInstances less same packages decls).1 := by
  obtain ⟨hplan, hconfig, hresolve⟩ := prepareInstances_none.mp h
  have hids := prepareInstances_ids h
  rw [prepareInstances_eq h] at hids ⊢
  have hstep : ∀ i ∈ configured less same packages decls, _ := fun i hi =>
    settle_resolveVerdict (hresolve i hi) (configured_fresh hconfig hi).1
      (configured_fresh hconfig hi).2
  refine ⟨?_, ?_, ?_, ?_⟩
  · rw [hids]
    exact (planInstances_none.mp hplan).2
  · rintro _ hmem d hd
    obtain ⟨i, hi, rfl⟩ := List.mem_map.mp hmem
    obtain ⟨dep, hdep, rfl⟩ := (hstep i hi).2.1 d hd
    rw [hids, ← configured_ids less same packages decls]
    exact List.mem_map_of_mem hdep
  · rintro _ hmem
    obtain ⟨i, hi, rfl⟩ := List.mem_map.mp hmem
    exact (hstep i hi).1
  · rintro _ hmem
    obtain ⟨i, hi, rfl⟩ := List.mem_map.mp hmem
    exact (hstep i hi).2.2

end

end Prepared

end

def depsOf (instances : List Instance) (id : String) : List String :=
  match findInstance instances id with
  | some i => i.depIds
  | none => []

def DependsOn (instances : List Instance) (a d : String) : Prop :=
  ∃ i ∈ instances, i.id = a ∧ d ∈ i.depIds

def DependencyCycle (instances : List Instance) : Prop :=
  ∃ id, Relation.TransGen (DependsOn instances) id id

section Graph

variable {instances : List Instance}

lemma depsOf_of_mem (hnodup : (instances.map (·.id)).Nodup) {i : Instance} (hi : i ∈ instances) :
    depsOf instances i.id = i.depIds := by
  rw [depsOf, findInstance_of_mem hnodup hi]

lemma count_dependentsOf (instances : List Instance) (a b : String) :
    (dependentsOf instances a).count b =
      ((instances.filter (·.id == b)).map fun i => i.depIds.count a).sum := by
  induction instances with
  | nil => rfl
  | cons i rest ih =>
    have hsplit : dependentsOf (i :: rest) a =
        ((i.depIds.filter (· == a)).map fun _ => i.id) ++ dependentsOf rest a := rfl
    have hcopies : ((i.depIds.filter (· == a)).map fun _ => i.id) =
        List.replicate (i.depIds.count a) i.id := by
      rw [List.map_const', List.count_eq_countP, List.countP_eq_length_filter]
    rw [hsplit, List.count_append, ih, hcopies, List.count_replicate]
    by_cases hb : i.id = b
    · rw [List.filter_cons_of_pos (by simpa using hb), if_pos (by simpa using hb)]
      rfl
    · rw [List.filter_cons_of_neg (by simpa using hb), if_neg (by simpa using hb), Nat.zero_add]

lemma indegree_eq (hnodup : (instances.map (·.id)).Nodup) (id : String) :
    indegree instances id = (depsOf instances id).length := by
  rw [indegree, depsOf]
  cases hfind : findInstance instances id with
  | some =>
    obtain ⟨hi, rfl⟩ := findInstance_some hfind
    rw [filter_id hnodup hi]
    simp
  | none =>
    have hnone : instances.filter (·.id == id) = [] :=
      List.filter_eq_nil_iff.mpr fun i hi => by simpa using findInstance_none hfind i hi
    rw [hnone]
    rfl

def instanceGraph (instances : List Instance) (hplanned : Planned instances) :
    DependencyGraph String where
  nodes := instances.map (·.id)
  deps := depsOf instances
  dependents := dependentsOf instances
  nodup := hplanned.nodup
  deps_mem := by
    intro a ha d hd
    obtain ⟨i, hi, rfl⟩ := List.mem_map.mp ha
    rw [depsOf_of_mem hplanned.nodup hi] at hd
    exact hplanned.deps i hi d hd
  dependents_mem := by
    intro a b hb
    obtain ⟨i, hi, hb⟩ := List.mem_flatMap.mp hb
    obtain ⟨d, -, rfl⟩ := List.mem_map.mp hb
    exact List.mem_map_of_mem hi
  count_dependents := by
    intro a b hb
    obtain ⟨i, hi, rfl⟩ := List.mem_map.mp hb
    rw [count_dependentsOf, filter_id hplanned.nodup hi, depsOf_of_mem hplanned.nodup hi]
    simp

lemma edge_iff (hplanned : Planned instances) (a d : String) :
    (instanceGraph instances hplanned).Edge a d ↔ DependsOn instances a d := by
  constructor
  · rintro ⟨ha, hd⟩
    obtain ⟨i, hi, rfl⟩ := List.mem_map.mp ha
    have hd : d ∈ depsOf instances i.id := hd
    rw [depsOf_of_mem hplanned.nodup hi] at hd
    exact ⟨i, hi, rfl, hd⟩
  · rintro ⟨i, hi, rfl, hd⟩
    refine ⟨List.mem_map_of_mem hi, ?_⟩
    change d ∈ depsOf instances i.id
    rwa [depsOf_of_mem hplanned.nodup hi]

lemma hasCycle_iff (hplanned : Planned instances) :
    (instanceGraph instances hplanned).HasCycle ↔ DependencyCycle instances := by
  have hedge : (instanceGraph instances hplanned).Edge = DependsOn instances := by
    funext a d
    exact propext (edge_iff hplanned a d)
  rw [DependencyGraph.HasCycle, hedge, DependencyCycle]

lemma initialQueue_perm (hplanned : Planned instances) :
    (initialQueue instances).Perm
      ((instances.map (·.id)).filter fun id => (depsOf instances id).isEmpty) := by
  have hsame : (fun id => indegree instances id == 0) =
      fun id => (depsOf instances id).isEmpty := by
    funext id
    rw [indegree_eq hplanned.nodup]
    cases depsOf instances id with
    | nil => rfl
    | cons =>
      simp only [List.length_cons, List.isEmpty_cons, beq_eq_false_iff_ne]
      omega
  rw [initialQueue, hsame]
  exact (List.perm_insertionSort _ _).filter _

def sortedIds (instances : List Instance) : List String :=
  kahnOrder (dependentsOf instances) instances.length (indegree instances) (initialQueue instances)

lemma sortedIds_eq (hplanned : Planned instances) :
    sortedIds instances = kahnOrder (instanceGraph instances hplanned).dependents
      (instanceGraph instances hplanned).nodes.length
      (fun a => ((instanceGraph instances hplanned).deps a).length) (initialQueue instances) := by
  have hcounts : indegree instances = fun a => ((depsOf instances a).length : Int) :=
    funext (indegree_eq hplanned.nodup)
  rw [sortedIds, hcounts]
  simp [instanceGraph]

lemma sortInstances_eq (instances : List Instance) :
    sortInstances instances =
      if (sortedIds instances).length ≠ instances.length then .error cycleError
      else .ok (sortedIds instances) := by
  have hcount : kahnLoop (dependentsOf instances) (fun (visited : Nat) _ => visited + 1)
      instances.length (indegree instances) (initialQueue instances) 0 =
      (sortedIds instances).length := by
    have hfoldl : ∀ (ids : List String) (n : Nat),
        ids.foldl (fun visited _ => visited + 1) n = n + ids.length := by
      intro ids
      induction ids with
      | nil => simp
      | cons id ids ih =>
        intro n
        rw [List.foldl_cons, ih, List.length_cons]
        omega
    rw [kahnLoop_eq_foldl, hfoldl, Nat.zero_add, sortedIds]
  rw [sortInstances, hcount]
  rfl

/-- The order is complete exactly if there is no circle, and then it is a start order. -/
theorem sortInstances_spec (hplanned : Planned instances) :
    (DependencyCycle instances ∧ sortInstances instances = .error cycleError) ∨
    (¬DependencyCycle instances ∧ ∃ order, sortInstances instances = .ok order ∧
      order.Perm (instances.map (·.id)) ∧ Grounded (depsOf instances) order) := by
  obtain ⟨counts, hprogress⟩ := (instanceGraph instances hplanned).progress_order
    (initialQueue_perm hplanned)
  rw [← sortedIds_eq hplanned] at hprogress
  have hnodes : (instanceGraph instances hplanned).nodes.length = instances.length := by
    simp [instanceGraph]
  rw [sortInstances_eq]
  by_cases hlength : (sortedIds instances).length = instances.length
  · rw [← hnodes] at hlength
    have hacyclic := hprogress.acyclic hlength
    rw [hasCycle_iff] at hacyclic
    refine .inr ⟨hacyclic, sortedIds instances, ?_, hprogress.perm hlength, hprogress.grounded⟩
    rw [if_neg (by rw [hlength, hnodes]; simp)]
  · refine .inl ⟨?_, if_pos hlength⟩
    by_contra hacyclic
    rw [← hasCycle_iff hplanned] at hacyclic
    exact hlength ((hprogress.complete hacyclic).trans hnodes)

end Graph

/-- For instances that were planned and resolved, with valid bindings: there is a cycle error
exactly if the resolved dependencies form a circle, and otherwise the start order lists every
instance once, after all that it depends on. -/
theorem start_order_correct (less same : Json → Json → Bool) (cfg : PluginConfig) (host : Host)
    (instances : List Instance)
    (hprepared : prepareInstances less same host.packages cfg.instances = (instances, none))
    (hbindings : checkBindings instances cfg.bindings [] = none) :
    ((planAndResolve less same cfg host).2 = some (.error cycleError) ↔
      DependencyCycle instances) ∧
    (¬DependencyCycle instances → ∃ order,
      planAndResolve less same cfg host = ({ host with
        instances, bindings := cfg.bindings, log := [], startOrder := order }, none) ∧
      order.Perm (cfg.instances.map (·.id)) ∧
      ∀ before id after, order = before ++ id :: after → ∀ i ∈ instances, i.id = id →
        ∀ d ∈ i.depIds, d ∈ before) := by
  have hnone : (prepareInstances less same host.packages cfg.instances).2 = none := by
    rw [hprepared]
  have hplanned := planned_of_prepare hnone
  have hids := prepareInstances_ids hnone
  rw [hprepared] at hplanned hids
  rcases sortInstances_spec hplanned with ⟨hcycle, hsort⟩ | ⟨hacyclic, order, hsort, hperm, hground⟩
  · simp only [planAndResolve, hprepared, hbindings, hsort]
    exact ⟨iff_of_true trivial hcycle, fun h => absurd hcycle h⟩
  simp only [planAndResolve, hprepared, hbindings, hsort]
  refine ⟨iff_of_false (by simp) hacyclic, fun _ => ⟨order, rfl, hids ▸ hperm, ?_⟩⟩
  rintro before id after hsplit i hi rfl d hd
  rw [← depsOf_of_mem hplanned.nodup hi] at hd
  exact hground before i.id after hsplit d hd

def packageOf (id : String) (requires : List Require) : Package :=
  { manifest := { id, library := "lib.so", provides := ["i"], requires }, root := "p" }

def twiceConfig : PluginConfig :=
  { instances := [
      { id := "a", package := "user", dependencies := [("x", "b"), ("y", "b")] },
      { id := "b", package := "base" }] }

def twicePackages : List Package :=
  [packageOf "base" [], packageOf "user" [{ name := "x", interfaceName := "i" },
    { name := "y", interfaceName := "i" }]]

theorem start_order_correct_twice :
    ((planAndResolve (fun _ _ => false) (fun _ _ => true) twiceConfig
        { packages := twicePackages }).2 = some (.error cycleError) ↔
      DependencyCycle (prepareInstances (fun _ _ => false) (fun _ _ => true) twicePackages
        twiceConfig.instances).1) ∧
    (planAndResolve (fun _ _ => false) (fun _ _ => true) twiceConfig
      { packages := twicePackages }).1.startOrder = ["b", "a"] :=
  ⟨(start_order_correct (fun _ _ => false) (fun _ _ => true) twiceConfig
    { packages := twicePackages } _ (by rfl) (by decide)).1, by decide⟩

end ShieldRuntime.Proofs
