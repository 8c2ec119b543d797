import ShieldRuntime.Proofs.PluginPhases

/-!
# The lifecycle of the plugin instances

A moment of a startup and of the shutdowns after it is a prefix of the log.
-/

namespace ShieldRuntime.Proofs
open Library Transport Plugin

variable {b i inst : Instance} {rest order passed : List String} {id target : String}
  {base instances : List Instance} {cleared planned host : Host} {dump : JsonDump}
  {plugins : Plugins} {log : List PluginEvent} {cfg : PluginConfig}

def upStep (up : List String) : PluginEvent → List String
  | .started id => up ++ [id]
  | .stopped id => up.erase id
  | _ => up

def upAfter (log : List PluginEvent) : List String := log.foldl upStep []

def shutdowns (log : List PluginEvent) : List String :=
  log.filterMap fun
    | .shutdown id => some id
    | _ => none

lemma upAfter_concat (log : List PluginEvent) (e : PluginEvent) :
    upAfter (log ++ [e]) = upStep (upAfter log) e := by
  rw [upAfter, upAfter, List.foldl_append]
  rfl

@[simp] lemma shutdowns_append (log log' : List PluginEvent) :
    shutdowns (log ++ log') = shutdowns log ++ shutdowns log' :=
  List.filterMap_append

lemma upAfter_released (log : List PluginEvent) (id : String) (handle : Option Handle) :
    upAfter (log ++ releaseEvents id handle) = upAfter log := by
  rcases releaseEvents_cases id handle with heq | heq <;> rw [heq]
  · rw [List.append_nil]
  · exact upAfter_concat log _

@[simp] lemma shutdowns_released (id : String) (handle : Option Handle) :
    shutdowns (releaseEvents id handle) = [] := by
  rcases releaseEvents_cases id handle with heq | heq <;> rw [heq] <;> rfl

def neededTargets (i : Instance) : List String :=
  match i.package with
  | none => []
  | some package => (package.manifest.requires.filter (!·.isOptional)).filterMap fun req =>
      i.decl.dependencies.lookup req.name

def needsOf (base : List Instance) (id : String) : List String :=
  match findInstance base id with
  | some i => neededTargets i
  | none => []

/-- Each started instance has what it needs before it. -/
structure Supported (base : List Instance) (up : List String) : Prop where
  grounded : Grounded (needsOf base) up
  satisfied : ∀ a ∈ up, ∃ b ∈ base, b.id = a ∧ Satisfied b

/-- At every moment of the log, what is up has its dependencies up. -/
def SupportedLog (base : List Instance) (log : List PluginEvent) : Prop :=
  ∀ events, events <+: log → Supported base (upAfter events)

lemma SupportedLog.now (h : SupportedLog base log) : Supported base (upAfter log) :=
  h log List.prefix_rfl

lemma SupportedLog.concat (h : SupportedLog base log) {e : PluginEvent}
    (he : Supported base (upStep (upAfter log) e)) : SupportedLog base (log ++ [e]) := by
  intro events hevents
  rcases List.prefix_concat_iff.mp hevents with rfl | hevents
  · rwa [upAfter_concat]
  · exact h events hevents

lemma SupportedLog.push (h : SupportedLog base log) (hb : b ∈ base)
    (hnodup : (base.map (·.id)).Nodup) (hsatisfied : Satisfied b)
    (hneeds : ∀ d ∈ neededTargets b, d ∈ upAfter log) :
    SupportedLog base (log ++ [.started b.id]) := by
  refine h.concat ⟨h.now.grounded.push ?_, ?_⟩
  · rwa [needsOf, findInstance_of_mem hnodup hb]
  · intro a ha
    rcases List.mem_append.mp ha with ha | ha
    · exact h.now.satisfied a ha
    · rw [List.mem_singleton] at ha
      exact ⟨b, hb, ha.symm, hsatisfied⟩

lemma Supported.of_append {up : List String} (h : Supported base (up ++ rest)) :
    Supported base up :=
  ⟨h.grounded.of_append, fun a ha => h.satisfied a (List.mem_append_left _ ha)⟩

lemma SupportedLog.released (h : SupportedLog base log) (id : String) (handle : Option Handle) :
    SupportedLog base (log ++ releaseEvents id handle) := by
  rcases releaseEvents_cases id handle with heq | heq <;> rw [heq]
  · rwa [List.append_nil]
  · exact h.concat h.now

def stopEvents (handle : Handle) (id : String) : List PluginEvent :=
  if handle.hasShutdown then [.shutdown id, .stopped id] else [.stopped id]

lemma upAfter_stop (log : List PluginEvent) (handle : Handle) (id : String) :
    upAfter (log ++ stopEvents handle id) = (upAfter log).erase id := by
  unfold stopEvents
  split
  · rw [← List.singleton_append, ← List.append_assoc, upAfter_concat, upAfter_concat]
    rfl
  · rw [upAfter_concat]
    rfl

lemma SupportedLog.pop (h : SupportedLog base log) {handle : Handle}
    (he : Supported base ((upAfter log).erase id)) :
    SupportedLog base (log ++ stopEvents handle id) := by
  unfold stopEvents
  split
  · rw [← List.singleton_append, ← List.append_assoc]
    have hcall : SupportedLog base (log ++ [.shutdown id]) := h.concat h.now
    refine hcall.concat ?_
    rwa [upAfter_concat]
  · exact h.concat he

section Running

variable {ids : List String}

lemma SamePlan.satisfied_iff (h : SamePlan b i) : Satisfied i ↔ Satisfied b := by
  rw [Satisfied, Satisfied, h.same.package, h.same.dependencies, h.depIds]

lemma SamePlan.neededTargets (h : SamePlan b i) : neededTargets i = neededTargets b := by
  rw [Proofs.neededTargets, Proofs.neededTargets, h.same.package, h.same.dependencies]

lemma notMem_of_split {before after : List String} (hnodup : order.Nodup)
    (hsplit : order = before ++ id :: after) : id ∉ before := by
  intro hmem
  rw [hsplit] at hnodup
  exact (List.nodup_append.mp hnodup).2.2 id hmem id List.mem_cons_self rfl

/-- The order lists every instance after all that it depends on. -/
structure StartOrdered (base : List Instance) (order : List String) : Prop where
  planned : Planned base
  perm : order.Perm (base.map (·.id))
  grounded : Grounded (depsOf base) order

lemma StartOrdered.nodup (h : StartOrdered base order) : order.Nodup :=
  h.perm.nodup_iff.mpr h.planned.nodup

/-- The host while or after instances were started. -/
structure Running (base : List Instance) (passed : List String) (host : Host) : Prop where
  follows : Follows base host.instances
  started : ∀ i ∈ host.instances, i.state = .started ↔ i.id ∈ upAfter host.log
  handles : ∀ i ∈ host.instances, i.state = .started → i.handle.isSome = true
  ready : ∀ i ∈ host.instances, i.handle.isSome = true → Satisfied i
  history : SupportedLog base host.log
  sublist : (upAfter host.log).Sublist passed

lemma Running.update (h : Running base passed host) (hnodup : (base.map (·.id)).Nodup)
    (hmem : inst ∈ host.instances) {step : Step} {passed' : List String}
    (hkept : SamePlan inst step.1)
    (hup : ∀ id, id ≠ inst.id → (id ∈ upAfter (host.log ++ step.2.1) ↔ id ∈ upAfter host.log))
    (hstarted : step.1.state = .started ↔ inst.id ∈ upAfter (host.log ++ step.2.1))
    (hhandle : step.1.state = .started → step.1.handle.isSome = true)
    (hready : step.1.handle.isSome = true → inst.handle.isSome = true)
    (hhistory : SupportedLog base (host.log ++ step.2.1))
    (hsublist : (upAfter (host.log ++ step.2.1)).Sublist passed') :
    Running base passed' (applyStep host step) := by
  have hcases := fun j => (mem_applyStep (h.follows.ids ▸ hnodup) hmem hkept j).mp
  refine ⟨h.follows.applyStep hnodup hmem hkept, ?_, ?_, ?_, hhistory, hsublist⟩
  · intro j hj
    rcases hcases j hj with rfl | ⟨hj, hne⟩
    · rw [hkept.same.id]
      exact hstarted
    · exact (h.started j hj).trans (hup j.id hne).symm
  · intro j hj
    rcases hcases j hj with rfl | ⟨hj, -⟩
    · exact hhandle
    · exact h.handles j hj
  · intro j hj hsome
    rcases hcases j hj with rfl | ⟨hj, -⟩
    · exact hkept.satisfied_iff.mpr (h.ready inst hmem (hready hsome))
    · exact h.ready j hj hsome

lemma started_of_blockedBy (h : blockedBy instances inst = none)
    (htarget : target ∈ neededTargets inst) :
    ∃ dep, findInstance instances target = some dep ∧ dep.state = .started := by
  unfold blockedBy at h
  unfold neededTargets at htarget
  split at h
  · rename_i hpackage
    rw [hpackage] at htarget
    cases htarget
  rename_i package hpackage
  rw [hpackage] at htarget
  obtain ⟨req, hreq, hlookup⟩ := List.mem_filterMap.mp htarget
  obtain ⟨hreq, hneeded⟩ := List.mem_filter.mp hreq
  have hfree := List.find?_eq_none.mp h req hreq
  simp only [hneeded, hlookup, Bool.true_and] at hfree
  cases hfind : findInstance instances target with
  | none => simp [hfind] at hfree
  | some dep => exact ⟨dep, rfl, by simpa [hfind] using hfree⟩

lemma Running.start (h : Running base passed host) (hnodup : (base.map (·.id)).Nodup)
    (hmem : inst ∈ host.instances) (hnew : inst.id ∉ passed) :
    Running base (passed ++ [inst.id])
      (applyStep host (settle inst (startVerdict host.instances inst))) := by
  have hdown : inst.id ∉ upAfter host.log := fun hup => hnew (h.sublist.subset hup)
  have hlonger : (upAfter host.log).Sublist (passed ++ [inst.id]) :=
    h.sublist.trans (List.sublist_append_left _ _)
  have hidle : ¬inst.state = .started := fun hstate => hdown ((h.started inst hmem).mp hstate)
  obtain ⟨b, hb, hkept⟩ := h.follows.kept inst hmem
  have hkept' := settle_kept (startVerdict_keeps host.instances inst)
  rcases startVerdict_cases host.instances inst with
    ⟨hverdict, -⟩ | ⟨message, hverdict, -⟩ | ⟨hverdict, hfree, handle, hsome, -⟩ <;>
    rw [hverdict] at hkept' ⊢
  · rw [settle, applyStep_skip (findInstance_of_mem (h.follows.ids ▸ hnodup) hmem)]
    exact { h with sublist := hlonger }
  · rw [giveUp] at hkept' ⊢
    have hstate := settle_fail_idle inst { inst with handle := none } message
      (releaseEvents inst.id inst.handle)
    refine h.update hnodup hmem hkept' ?_ (iff_of_false hstate ?_) (fun hup => absurd hup hstate)
      ?_ ?_ ?_ <;> rw [settle_fail]
    · intro id _
      rw [upAfter_released]
    · rwa [upAfter_released]
    · rintro ⟨⟩
    · exact h.history.released inst.id inst.handle
    · rwa [upAfter_released]
  · have hhandle : inst.handle.isSome = true := by rw [hsome, Option.isSome_some]
    have hpush : SupportedLog base (host.log ++ [.started inst.id]) := by
      rw [hkept.same.id]
      refine h.history.push hb hnodup (hkept.satisfied_iff.mp (h.ready inst hmem hhandle)) ?_
      intro target htarget
      rw [← hkept.neededTargets] at htarget
      obtain ⟨dep, hfind, hstate⟩ := started_of_blockedBy hfree htarget
      obtain ⟨hdep, rfl⟩ := findInstance_some hfind
      exact (h.started dep hdep).mp hstate
    refine h.update hnodup hmem hkept' ?_ ?_ (fun _ => hhandle) (fun _ => hhandle) hpush ?_ <;>
      simp only [settle, upAfter_concat, upStep]
    · intro id hne
      simp [hne]
    · simp
    · exact h.sublist.append (List.Sublist.refl _)

lemma Running.stop {left : List String} (hnodup : (base.map (·.id)).Nodup)
    (hmem : inst ∈ host.instances) (h : Running base (left ++ [inst.id]) host)
    (hlast : inst.id ∉ left) :
    Running base left (applyStep host (settle inst (stopVerdict inst))) := by
  obtain ⟨up, last, hup, hsub, hlastsub⟩ := List.sublist_append_iff.mp h.sublist
  have hnot : inst.id ∉ up := fun hid => hlast (hsub.subset hid)
  have hkept := settle_kept (stopVerdict_keeps inst)
  rcases stopVerdict_cases inst with ⟨hverdict, hidle⟩ | ⟨handle, hhandle, hstate, hverdict⟩
  · have hdown : inst.id ∉ upAfter host.log := by
      intro hid
      have hstate := (h.started inst hmem).mpr hid
      exact hidle ⟨h.handles inst hmem hstate, hstate⟩
    have hnone : last = [] := by
      rcases List.sublist_singleton.mp hlastsub with rfl | rfl
      · rfl
      · rw [hup] at hdown
        simp at hdown
    have hshorter : (upAfter host.log).Sublist left := by
      rwa [hup, hnone, List.append_nil]
    rw [hverdict, settle, applyStep_skip (findInstance_of_mem (h.follows.ids ▸ hnodup) hmem)]
    exact { h with sublist := hshorter }
  · rw [hverdict] at hkept ⊢
    have hone : last = [inst.id] := by
      have hid := (h.started inst hmem).mp hstate
      rcases List.sublist_singleton.mp hlastsub with rfl | rfl
      · rw [hup, List.append_nil] at hid
        exact absurd hid hnot
      · rfl
    have herase : (upAfter host.log).erase inst.id = up := by
      rw [hup, hone, List.erase_append_right _ hnot]
      simp
    have hafter : upAfter (host.log ++ stopEvents handle inst.id) = up := by
      rw [upAfter_stop, herase]
    have hsupported : Supported base ((upAfter host.log).erase inst.id) := by
      rw [herase]
      exact Supported.of_append (hup ▸ h.history.now)
    refine h.update hnodup hmem hkept ?_ ?_ ?_ ?_ ?_ ?_ <;> simp only [settle]
    · intro id hne
      change id ∈ upAfter (host.log ++ stopEvents handle inst.id) ↔ _
      rw [hafter, hup, hone]
      simp [hne]
    · change _ ↔ inst.id ∈ upAfter (host.log ++ stopEvents handle inst.id)
      rw [hafter]
      simp [hnot]
    · rintro ⟨⟩
    · rintro ⟨⟩
    · exact h.history.pop hsupported
    · change (upAfter (host.log ++ stopEvents handle inst.id)).Sublist left
      rwa [hafter]

/-- The start loop goes through the start order. -/
theorem Running.startLoop (hordered : StartOrdered base order)
    (hsplit : order = passed ++ rest) (h : Running base passed host) :
    Running base order (startLoop rest host).1 := by
  have hrun := startLoop_rule
    (P := fun rest host => ∃ passed, order = passed ++ rest ∧ Running base passed host)
    ?_ ?_ rest host ⟨passed, hsplit, h⟩
  · obtain ⟨left, ⟨passed, rfl, hrunning⟩, -⟩ := hrun
    exact { hrunning with sublist := hrunning.sublist.trans (List.sublist_append_left _ _) }
  · rintro id rest host ⟨passed, hsplit, h⟩ -
    refine ⟨passed ++ [id], by simpa using hsplit, ?_⟩
    exact { h with sublist := h.sublist.trans (List.sublist_append_left _ _) }
  · rintro rest host inst ⟨passed, hsplit, h⟩ hmem -
    have hnew := notMem_of_split hordered.nodup hsplit
    exact ⟨passed ++ [inst.id], by simpa using hsplit, h.start hordered.planned.nodup hmem hnew⟩

/-- The host while instances are shut down. -/
structure Stopping (base : List Instance) (order ids : List String) (host : Host) : Prop where
  running : Running base ids.reverse host
  callbacks : ∃ done, order = ids.reverse ++ done ∧ (shutdowns host.log).Sublist done.reverse

lemma Stopping.skip (h : Stopping base order (id :: ids) host)
    (hsublist : (upAfter host.log).Sublist ids.reverse) : Stopping base order ids host := by
  obtain ⟨done, hsplit, hdone⟩ := h.callbacks
  refine ⟨{ h.running with sublist := hsublist }, id :: done, ?_, ?_⟩
  · simpa using hsplit
  · rw [List.reverse_cons]
    exact hdone.trans (List.sublist_append_left _ _)

lemma shutdowns_stop (handle : Handle) (id : String) :
    (shutdowns (stopEvents handle id)).Sublist [id] := by
  unfold stopEvents
  split <;> simp [shutdowns]

lemma Stopping.step (hordered : StartOrdered base order)
    (h : Stopping base order (inst.id :: ids) host) (hmem : inst ∈ host.instances) :
    Stopping base order ids (applyStep host (settle inst (stopVerdict inst))) := by
  obtain ⟨done, hsplit, hdone⟩ := h.callbacks
  have hrunning := h.running
  rw [List.reverse_cons] at hrunning
  have hlast : inst.id ∉ ids.reverse :=
    notMem_of_split hordered.nodup (by simpa using hsplit)
  refine ⟨hrunning.stop hordered.planned.nodup hmem hlast, inst.id :: done, ?_, ?_⟩
  · simpa using hsplit
  · rw [List.reverse_cons]
    rcases stopVerdict_cases inst with ⟨hverdict, -⟩ | ⟨handle, -, -, hverdict⟩
    · rw [hverdict, settle, applyStep, List.append_nil]
      exact hdone.trans (List.sublist_append_left _ _)
    · rw [hverdict, settle, applyStep, shutdowns_append]
      exact hdone.append (shutdowns_stop handle inst.id)

/-- `shutdown` stops all that is started, in the reverse start order. -/
theorem Running.shutdown (hordered : StartOrdered base host.startOrder)
    (h : Running base host.startOrder host) (hnone : shutdowns host.log = []) :
    Stopping base host.startOrder [] (shutdown host) := by
  have hstart : Stopping base host.startOrder host.startOrder.reverse host := by
    rw [← List.reverse_reverse host.startOrder] at h
    refine ⟨h, [], by simp, ?_⟩
    rw [hnone]
    exact List.nil_sublist _
  refine shutdownLoop_rule (P := Stopping base host.startOrder) ?_ ?_ _ host hstart
  · intro id ids s hs hfind
    refine hs.skip ?_
    -- an id without an instance cannot be started
    obtain ⟨up, last, hup, hsub, hlast⟩ :=
      List.sublist_append_iff.mp (List.reverse_cons ▸ hs.running.sublist)
    rcases List.sublist_singleton.mp hlast with rfl | rfl
    · rwa [hup, List.append_nil]
    obtain ⟨b, hb, hid, -⟩ := hs.running.history.now.satisfied id (by simp [hup])
    obtain ⟨i, hi, hkept⟩ := hs.running.follows.exists hordered.planned.nodup hb
    exact absurd (hkept.same.id.trans hid) (findInstance_none hfind i hi)
  · intro ids s inst hs hmem _
    exact hs.step hordered hmem

end Running

/-- Instances are started after what they need and stopped before it. -/
structure LifecycleOrder (host : Host) : Prop where
  /-- At every moment, every requirement of a started instance that is not optional is configured,
  and its target is started and was started before. -/
  supported : ∀ events, events <+: host.log → ∀ before a after, upAfter events = before ++ a :: after →
    ∃ i ∈ host.instances, i.id = a ∧ ∃ package, i.package = some package ∧
      ∀ req ∈ package.manifest.requires, req.isOptional = false →
        ∃ target, i.decl.dependencies.lookup req.name = some target ∧ target ∈ before
  /-- The state of an instance is `started` if the log leaves it so. -/
  started : ∀ i ∈ host.instances, i.state = .started ↔ i.id ∈ upAfter host.log
  /-- No shutdown callback of an instance was called after that of one that it depends on. -/
  callbacks : ∀ i ∈ host.instances, ∀ d ∈ i.depIds,
    ¬[PluginEvent.shutdown d, .shutdown i.id].Sublist host.log
  once : ∀ id, host.log.count (.shutdown id) ≤ 1

lemma mem_needsOf (hnodup : (base.map (·.id)).Nodup) (hb : b ∈ base)
    {package : Package} (hpackage : b.package = some package) {req : Require}
    (hreq : req ∈ package.manifest.requires) (hneeded : req.isOptional = false)
    (htarget : b.decl.dependencies.lookup req.name = some target) : target ∈ needsOf base b.id := by
  rw [needsOf, findInstance_of_mem hnodup hb]
  simp only [neededTargets, hpackage]
  exact List.mem_filterMap.mpr ⟨req, List.mem_filter.mpr ⟨hreq, by simp [hneeded]⟩, htarget⟩

lemma count_shutdown (log : List PluginEvent) (id : String) :
    log.count (.shutdown id) = (shutdowns log).count id := by
  induction log with
  | nil => rfl
  | cons e rest ih =>
    rw [← List.singleton_append, List.count_append, shutdowns_append, List.count_append, ih]
    congr 1
    cases e <;> simp [shutdowns, List.count_cons]

theorem lifecycleOrder_of_running (hordered : StartOrdered base order) (h : Running base passed host)
    (hcallbacks : (shutdowns host.log).Sublist order.reverse) : LifecycleOrder host := by
  have hnodup := hordered.planned.nodup
  refine ⟨?_, h.started, ?_, ?_⟩
  · intro events hevents before a after hsplit
    obtain ⟨b, hb, rfl, package, hpackage, hneeds⟩ :=
      (h.history events hevents).satisfied a (by simp [hsplit])
    obtain ⟨i, hi, hkept⟩ := h.follows.exists hnodup hb
    refine ⟨i, hi, hkept.same.id, package, hkept.same.package.trans hpackage, ?_⟩
    intro req hreq hneeded
    obtain ⟨target, htarget, -⟩ := hneeds req hreq hneeded
    refine ⟨target, by rw [hkept.same.dependencies, htarget], ?_⟩
    exact (h.history events hevents).grounded before b.id after hsplit target
      (mem_needsOf hnodup hb hpackage hreq hneeded htarget)
  · intro i hi d hd hsub
    obtain ⟨b, hb, hkept⟩ := h.follows.kept i hi
    have hpair : [d, i.id].Sublist order.reverse := by
      exact (hsub.filterMap _).trans hcallbacks
    have hswap : [i.id, d].Sublist order := by simpa using hpair.reverse
    rw [hkept.depIds, ← depsOf_of_mem hnodup hb, ← hkept.same.id] at hd
    exact hordered.grounded.not_sublist hordered.nodup hd hswap
  · intro id
    rw [count_shutdown]
    refine (hcallbacks.count_le id).trans ?_
    exact List.nodup_iff_count_le_one.mp (List.nodup_reverse.mpr hordered.nodup) id

def SilentLog (log : List PluginEvent) : Prop := ∀ e ∈ log, ∃ id, e = .created id ∨ e = .released id

/-- No instance has been started. -/
structure NeverStarted (host : Host) : Prop where
  idle : ∀ i ∈ host.instances, i.state ≠ .started
  silent : SilentLog host.log

lemma upAfter_silent (h : SilentLog log) : upAfter log = [] := by
  induction log using List.reverseRecOn with
  | nil => rfl
  | append_singleton log e ih =>
    rw [upAfter_concat, ih fun e he => h e (List.mem_append_left _ he)]
    obtain ⟨id, rfl | rfl⟩ := h e (by simp) <;> rfl

lemma shutdowns_silent (h : SilentLog log) : shutdowns log = [] := by
  refine List.filterMap_eq_nil_iff.mpr ?_
  intro e he
  obtain ⟨id, rfl | rfl⟩ := h e he <;> rfl

lemma NeverStarted.lifecycleOrder (h : NeverStarted host) : LifecycleOrder host := by
  have hup : ∀ events, events <+: host.log → upAfter events = [] := fun events hevents =>
    upAfter_silent fun e he => h.silent e (hevents.subset he)
  refine ⟨?_, ?_, ?_, ?_⟩
  · intro events hevents before a after hsplit
    rw [hup events hevents] at hsplit
    simp at hsplit
  · intro i hi
    rw [hup _ List.prefix_rfl]
    exact iff_of_false (h.idle i hi) (by simp)
  · intro i _ d _ hsub
    obtain ⟨id, hcase | hcase⟩ := h.silent (.shutdown d) (hsub.subset (by simp)) <;> cases hcase
  · intro id
    rw [count_shutdown, shutdowns_silent h.silent]
    simp

section Startup

variable {less same : Json → Json → Bool} {packages : List Package}

lemma mem_planInstances {decls : List InstanceDecl} {seen : List String}
    (h : i ∈ (planInstances packages decls seen).1) : ∃ d, i = planOne packages d := by
  induction decls generalizing seen with
  | nil => cases h
  | cons d rest ih =>
    rw [planInstances] at h
    split_ifs at h
    · cases h
    · cases h
    · cases h
    · rcases List.mem_cons.mp h with rfl | h
      · exact ⟨d, rfl⟩
      · exact ih h

variable {verdict : Verdict} {reached : Host} {result : Host × StartupResult}

lemma forEach_idle (verdict : Instance → Verdict) (h : ∀ i ∈ instances, i.state ≠ .started)
    (hok : ∀ inst i log, inst.state ≠ .started → verdict inst = .ok i log → i.state ≠ .started) :
    ∀ i ∈ (forEach (fun i => settle i (verdict i)) instances).1, i.state ≠ .started := by
  intro i hi
  obtain ⟨j, hj, rfl | rfl⟩ := mem_forEach hi
  · exact h i hj
  · cases hverdict : verdict j with
    | skip | throw => exact h j hj
    | ok i log => exact hok j i log (h j hj) hverdict
    | fail i message log => exact settle_fail_idle j i message log

lemma prepareInstances_idle (less same : Json → Json → Bool) (packages : List Package)
    (decls : List InstanceDecl) :
    ∀ i ∈ (prepareInstances less same packages decls).1, i.state ≠ .started := by
  have hplan : ∀ i ∈ (planInstances packages decls []).1, i.state ≠ .started := by
    intro i hi
    obtain ⟨d, rfl⟩ := mem_planInstances hi
    obtain ⟨-, ⟨hstate, -⟩ | hstate⟩ := planOne_fresh packages d <;> simp [hstate]
  have hconfig := forEach_idle (configVerdict less same) hplan ?_
  · have hresolve := forEach_idle
      (resolveVerdict (forEach (fun i => settle i (configVerdict less same i))
        (planInstances packages decls []).1).1) hconfig ?_
    · unfold prepareInstances
      simp only
      split
      · exact hplan
      split
      · exact hconfig
      · exact hresolve
    · intro inst i log hidle h
      obtain ⟨-, -, -, -, -, rfl, -⟩ := resolveVerdict_ok h
      exact hidle
  · intro inst i log hidle h
    obtain ⟨-, -, -, rfl, -⟩ := configVerdict_ok h
    exact hidle

lemma planAndResolve_spec (less same : Json → Json → Bool) (cfg : PluginConfig) (host : Host) :
    (planAndResolve less same cfg host).1.log = [] ∧
    (∀ i ∈ (planAndResolve less same cfg host).1.instances, i.state ≠ .started) ∧
    ((planAndResolve less same cfg host).2 = none →
      StartOrdered (planAndResolve less same cfg host).1.instances
        (planAndResolve less same cfg host).1.startOrder ∧
      (planAndResolve less same cfg host).1.instances =
        (prepareInstances less same host.packages cfg.instances).1 ∧
      (prepareInstances less same host.packages cfg.instances).2 = none) := by
  have hidle := prepareInstances_idle less same host.packages cfg.instances
  unfold planAndResolve
  simp only
  split
  · exact ⟨rfl, hidle, fun h => by cases h⟩
  rename_i hprepared
  split
  · exact ⟨rfl, hidle, fun h => by cases h⟩
  have hplanned := planned_of_prepare hprepared
  rcases sortInstances_spec hplanned with ⟨-, hsort⟩ | ⟨-, order, hsort, hperm, hground⟩
  · simp only [hsort]
    exact ⟨trivial, hidle, fun h => by cases h⟩
  · simp only [hsort]
    exact ⟨trivial, hidle, fun _ => ⟨⟨hplanned, hperm, hground⟩, by simp, hprepared⟩⟩

def Unstarted (i : Instance) : Prop :=
  i.state ≠ .started ∧ (i.state = .planned ∨ i.state = .loaded ∨ i.handle.isSome = true → Satisfied i)

/-- The host before the first start. -/
structure Loading (base : List Instance) (order : List String) (host : Host) : Prop where
  follows : Follows base host.instances
  unstarted : ∀ i ∈ host.instances, Unstarted i
  silent : SilentLog host.log
  startOrder : host.startOrder = order

lemma Loading.neverStarted (h : Loading base order host) : NeverStarted host :=
  ⟨fun i hi => (h.unstarted i hi).1, h.silent⟩

lemma loading_of_plan (hplan : planAndResolve less same cfg cleared = (planned, none)) :
    StartOrdered planned.instances planned.startOrder ∧
      Loading planned.instances planned.startOrder planned := by
  obtain ⟨hlog, hidle, hspec⟩ := planAndResolve_spec less same cfg cleared
  simp only [hplan] at hlog hidle hspec
  obtain ⟨hordered, -, -⟩ := hspec trivial
  refine ⟨hordered, .refl _, fun i hi => ⟨hidle i hi, ?_⟩, by simp [hlog, SilentLog], rfl⟩
  obtain ⟨⟨-, hhandle⟩, hstate⟩ := hordered.planned.fresh i hi
  rintro (hready | hready | hready)
  · exact hordered.planned.satisfied i hi hready
  · rcases hstate with ⟨hstate, -⟩ | hstate <;> simp [hstate] at hready
  · simp [hhandle] at hready

section

variable (h : Loading base order host)
include h

lemma Loading.phase {verdict : Instance → Verdict}
    (hkeeps : ∀ i, KeepsInstance i (verdict i))
    (hok : ∀ i i' log, Unstarted i → verdict i = .ok i' log →
      i'.state = .loaded ∧ Satisfied i ∧ SilentLog log)
    (hfail : ∀ i i' message log, verdict i = .fail i' message log → i' = i ∧ SilentLog log) :
    Loading base order (runPhase verdict host).1 := by
  have hphase := runPhase_rule verdict ?_ h.unstarted h.silent
  · exact ⟨h.follows.runPhase hkeeps, hphase.1, hphase.2, h.startOrder⟩
  intro i hi
  have hkept := settle_kept (hkeeps i)
  cases hverdict : verdict i with
  | skip | throw => exact ⟨hi, nofun⟩
  | ok i' log =>
    rw [hverdict] at hkept
    obtain ⟨hloaded, hsatisfied, hlog⟩ := hok i i' log hi hverdict
    exact ⟨⟨by simp [settle, hloaded], fun _ => hkept.satisfied_iff.mpr hsatisfied⟩, hlog⟩
  | fail i' message log =>
    rw [hverdict, settle_fail] at hkept
    obtain ⟨rfl, hlog⟩ := hfail i i' message log hverdict
    refine ⟨⟨settle_fail_idle i' i' message log, fun hready => ?_⟩, by rwa [settle_fail]⟩
    rw [settle_fail] at hready ⊢
    refine hkept.satisfied_iff.mpr (hi.2 (.inr (.inr ?_)))
    cases hrequired : i'.decl.required <;> simpa [hrequired] using hready

lemma Loading.load (plugins : Plugins) :
    Loading base order (loadAll plugins host).1 := by
  refine h.phase (loadVerdict_keeps plugins) (fun i i' log hi hok => ?_) fun i i' message log hfail => ?_
  · obtain ⟨-, -, -, hstate, -, rfl, rfl⟩ := loadVerdict_ok hok
    exact ⟨rfl, hi.2 (.inl hstate), nofun⟩
  · obtain ⟨-, rfl, rfl⟩ := loadVerdict_fail hfail
    exact ⟨rfl, nofun⟩

lemma Loading.create (dump : JsonDump) :
    Loading base order (createAll dump host).1 := by
  refine h.phase (createVerdict_keeps dump) (fun i i' log hi hok => ?_)
    fun i i' message log hfail => ?_
  · obtain ⟨-, -, -, -, hstate, -, -, rfl, rfl⟩ := createVerdict_ok hok
    exact ⟨hstate, hi.2 (.inr (.inl hstate)), by simp [SilentLog]⟩
  · obtain ⟨-, rfl, config, -, rfl⟩ := createVerdict_fail hfail
    refine ⟨rfl, fun e he => ?_⟩
    rcases List.mem_append.mp he with he | he
    · exact ⟨_, .inl (mem_createdEvents he)⟩
    · exact ⟨_, .inr (mem_releaseEvents he)⟩

lemma Loading.running : Running base [] host := by
  have hup : ∀ events, events <+: host.log → upAfter events = [] := fun events hevents =>
    upAfter_silent fun e he => h.silent e (hevents.subset he)
  refine ⟨h.follows, ?_, ?_, ?_, ?_, ?_⟩
  · intro i hi
    rw [hup _ List.prefix_rfl]
    exact iff_of_false (h.unstarted i hi).1 (by simp)
  · intro i hi hstate
    exact absurd hstate (h.unstarted i hi).1
  · intro i hi hhandle
    exact (h.unstarted i hi).2 (.inr (.inr hhandle))
  · intro events hevents
    rw [hup events hevents]
    exact ⟨grounded_nil, fun a ha => by cases ha⟩
  · rw [hup _ List.prefix_rfl]

end

lemma startLoop_frame (ids : List String) (host : Host) :
    (startLoop ids host).1.startOrder = host.startOrder ∧
      shutdowns (startLoop ids host).1.log = shutdowns host.log := by
  have hrun := startLoop_rule (P := fun _ s =>
    s.startOrder = host.startOrder ∧ shutdowns s.log = shutdowns host.log) ?_ ?_ ids host ⟨rfl, rfl⟩
  · obtain ⟨left, h, -⟩ := hrun
    exact h
  · intro id ids s h _
    exact h
  · rintro ids s inst ⟨horder, hlog⟩ - -
    refine ⟨horder, ?_⟩
    rw [applyStep, shutdowns_append, hlog]
    rcases startVerdict_cases s.instances inst with
      ⟨hverdict, -⟩ | ⟨message, hverdict, -⟩ | ⟨hverdict, -⟩ <;> rw [hverdict]
    · simp [settle, shutdowns]
    · rw [giveUp, settle_fail, shutdowns_released, List.append_nil]
    · simp [settle, shutdowns]

lemma checkStarted_cases (host : Host) :
    (checkStarted host = (host, .ok) ∧
      ∀ i ∈ host.instances, i.decl.required = true → i.state = .started) ∨
    ((checkStarted host).2 ≠ .ok ∧ (checkStarted host).1 = shutdown host) := by
  unfold checkStarted
  split
  · exact .inr ⟨by simp, rfl⟩
  rename_i hnone
  refine .inl ⟨rfl, fun i hi hrequired => ?_⟩
  simpa [hrequired] using List.find?_eq_none.mp hnone i hi

lemma Loading.started (hordered : StartOrdered base order) (h : Loading base order host) :
    (startAll host).1.startOrder = order ∧ Running base order (startAll host).1 ∧
      shutdowns (startAll host).1.log = [] := by
  obtain ⟨horder, hlog⟩ := startLoop_frame host.startOrder host
  refine ⟨horder.trans h.startOrder, ?_, hlog.trans (shutdowns_silent h.silent)⟩
  rw [startAll, h.startOrder]
  exact h.running.startLoop hordered rfl

/-- The host that a startup ends with. -/
structure Reaches (cfg : PluginConfig) (result : Host × StartupResult) (reached : Host) : Prop where
  host : result.1 = reached ∨ result.1 = shutdown reached
  kept : NeverStarted reached ∨ ∃ base, StartOrdered base reached.startOrder ∧
    Running base reached.startOrder reached ∧ shutdowns reached.log = []
  ok : result.2 = .ok → ∀ d ∈ cfg.instances, d.required = true →
    ∃ i ∈ result.1.instances, i.id = d.id ∧ i.state = .started

lemma reaches_endedIn (phase : StartupPhase) (stop : Stop)
    (hkept : NeverStarted reached ∨ ∃ base, StartOrdered base reached.startOrder ∧
      Running base reached.startOrder reached ∧ shutdowns reached.log = []) :
    Reaches cfg (endedIn phase reached stop) reached := by
  cases stop with
  | error => exact ⟨.inr rfl, hkept, fun h => by cases h⟩
  | exception => exact ⟨.inl rfl, hkept, fun h => by cases h⟩

section Phases

variable {loaded created started : Host} {stop stop' stop'' : Option Stop}

section

variable (hplan : planAndResolve less same cfg cleared = (planned, none))
  (hload : loadAll plugins planned = (loaded, stop))
include hplan hload

lemma loading_of_load : Loading planned.instances planned.startOrder loaded := by
  have hloaded := (loading_of_plan hplan).2.load plugins
  rwa [hload] at hloaded

lemma loading_of_create (hcreate : createAll dump loaded = (created, stop')) :
    Loading planned.instances planned.startOrder created := by
  have hcreated := (loading_of_load hplan hload).create dump
  rwa [hcreate] at hcreated

lemma running_of_start (hcreate : createAll dump loaded = (created, stop'))
    (hstart : startAll created = (started, stop'')) :
    StartOrdered planned.instances started.startOrder ∧
      Running planned.instances started.startOrder started ∧ shutdowns started.log = [] := by
  have hordered := (loading_of_plan hplan).1
  have hstarted := (loading_of_create hplan hload hcreate).started hordered
  rw [hstart] at hstarted
  obtain ⟨horder, hrunning, hnone⟩ := hstarted
  rw [← horder] at hordered hrunning
  exact ⟨hordered, hrunning, hnone⟩

end

end Phases

theorem startup_reaches {scanned : List Package}
    (hrun : StartupRun less same dump plugins cfg (clearedHost scanned host) result) :
    ∃ reached, Reaches cfg result reached := by
  cases hrun with
  | catalog =>
    exact ⟨_, .inr rfl, .inl ⟨by simp [clearedHost], by simp [clearedHost, SilentLog]⟩, fun h => by cases h⟩
  | plan hplan =>
    obtain ⟨hlog, hidle, -⟩ := planAndResolve_spec less same cfg (clearedHost scanned host)
    simp only [hplan] at hlog hidle
    exact ⟨_, reaches_endedIn _ _ (.inl ⟨hidle, by simp [hlog, SilentLog]⟩)⟩
  | load hplan hload =>
    exact ⟨_, reaches_endedIn _ _ (.inl (loading_of_load hplan hload).neverStarted)⟩
  | create hplan hload hcreate =>
    exact ⟨_, reaches_endedIn _ _ (.inl (loading_of_create hplan hload hcreate).neverStarted)⟩
  | start hplan hload hcreate hstart =>
    exact ⟨_, reaches_endedIn _ _ (.inr ⟨_, running_of_start hplan hload hcreate hstart⟩)⟩
  | @check planned loaded created started hplan hload hcreate hstart =>
    obtain ⟨hordered, hrunning, hnone⟩ := running_of_start hplan hload hcreate hstart
    refine ⟨started, ?_, .inr ⟨_, hordered, hrunning, hnone⟩, fun hok d hd hneeded => ?_⟩
    · rcases checkStarted_cases started with ⟨heq, -⟩ | ⟨-, heq⟩
      · exact .inl (by rw [heq])
      · exact .inr heq
    · rcases checkStarted_cases started with ⟨heq, hrequired⟩ | ⟨hfailed, -⟩
      · have hspec := (planAndResolve_spec less same cfg (clearedHost scanned host)).2.2
        rw [hplan] at hspec
        obtain ⟨-, hinstances, hprepared⟩ := hspec rfl
        obtain ⟨b, hb, hid, hb'⟩ := prepareInstances_declared hprepared hd
        rw [← hinstances] at hb
        obtain ⟨i, hi, hsame⟩ := hrunning.follows.exists hordered.planned.nodup hb
        rw [heq]
        refine ⟨i, hi, hsame.same.id.trans hid, hrequired i hi ?_⟩
        rw [hsame.same.required, hb', hneeded]
      · exact absurd hok hfailed

lemma Running.idle (h : Running base [] host) : ∀ i ∈ host.instances, i.state ≠ .started := by
  intro i hi hstate
  have hup := h.sublist.subset ((h.started i hi).mp hstate)
  cases hup

lemma Reaches.lifecycleOrder (h : Reaches cfg result reached) :
    LifecycleOrder reached ∧ LifecycleOrder (shutdown reached) ∧
      shutdown (shutdown reached) = shutdown reached := by
  rcases h.kept with hquiet | ⟨base, hordered, hrunning, hnone⟩
  · have hsame := shutdown_of_idle hquiet.idle
    rw [hsame, hsame]
    exact ⟨hquiet.lifecycleOrder, hquiet.lifecycleOrder, rfl⟩
  obtain ⟨hstopped, done, hdone, hcallbacks⟩ := hrunning.shutdown hordered hnone
  obtain rfl : reached.startOrder = done := by simpa using hdone
  refine ⟨lifecycleOrder_of_running hordered hrunning (by simp [hnone]),
    lifecycleOrder_of_running hordered hstopped hcallbacks, shutdown_of_idle hstopped.idle⟩

end Startup

/-- For every configuration and behaviour of the plugins: after a startup and any number of
shutdowns the instances were started after what they need and stopped before what they depend on,
each at most once; and a startup that succeeds has started every required instance. -/
theorem dependencies_started_first (less same : Json → Json → Bool) (dump : JsonDump)
    (scanned : List Package) (plugins : Plugins) (cfg : PluginConfig) (host : Host) (n : Nat) :
    LifecycleOrder (shutdown^[n] (startup less same dump scanned plugins cfg host).1) ∧
    ((startup less same dump scanned plugins cfg host).2 = .ok →
      ∀ d ∈ cfg.instances, d.required = true →
        ∃ i ∈ (startup less same dump scanned plugins cfg host).1.instances,
          i.id = d.id ∧ i.state = .started) := by
  obtain ⟨reached, hreached⟩ :=
    startup_reaches (startup_run less same dump plugins cfg scanned host)
  refine ⟨?_, hreached.ok⟩
  obtain ⟨horder, hstopped, hagain⟩ := hreached.lifecycleOrder
  -- a second shutdown changes nothing more
  have hlast : ∀ n, shutdown^[n] (startup less same dump scanned plugins cfg host).1 = reached ∨
      shutdown^[n] (startup less same dump scanned plugins cfg host).1 = shutdown reached := by
    intro n
    induction n with
    | zero => exact hreached.host
    | succ n ih =>
      rw [Function.iterate_succ_apply']
      rcases ih with heq | heq <;> rw [heq]
      · exact .inr rfl
      · exact .inr hagain
  rcases hlast n with heq | heq <;> rw [heq]
  · exact horder
  · exact hstopped

def twicePlugins : Plugins := fun id =>
  .entry (some { packageId := some (if id = "a" then "user" else "base") })

theorem dependencies_started_first_twice :
    (startup (fun _ _ => false) (fun _ _ => true) (Json.dump fun _ => []) twicePackages twicePlugins
      twiceConfig {}).2 = .ok ∧
    (shutdown (startup (fun _ _ => false) (fun _ _ => true) (Json.dump fun _ => []) twicePackages twicePlugins
      twiceConfig {}).1).log =
      [.created "a", .created "b", .started "b", .started "a",
        .shutdown "a", .stopped "a", .shutdown "b", .stopped "b"] ∧
    LifecycleOrder (shutdown (startup (fun _ _ => false) (fun _ _ => true) (Json.dump fun _ => [])
      twicePackages twicePlugins twiceConfig {}).1) :=
  ⟨by decide, by decide, (dependencies_started_first (fun _ _ => false) (fun _ _ => true)
    (Json.dump fun _ => []) twicePackages twicePlugins twiceConfig {} 1).1⟩

end ShieldRuntime.Proofs
