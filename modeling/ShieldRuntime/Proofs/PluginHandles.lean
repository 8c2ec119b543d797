import ShieldRuntime.Proofs.PluginLifecycle

/-!
# The handles of the plugin instances

The log has as many calls of the shutdown callback as returns of `create`, unless a handle is still
held or has no such callback. What a startup leaves behind is never shut down.
-/

namespace ShieldRuntime.Proofs
open Library Transport Plugin

variable {plugins : Plugins} {dump : JsonDump} {host : Host} {inst : Instance}
  {given : String → Option Handle}

section Account

def eventId : PluginEvent → String
  | .created id | .released id | .started id | .shutdown id | .stopped id => id

def callbackCount (log : List PluginEvent) (id : String) : Nat :=
  log.count (.released id) + log.count (.shutdown id)

/-- How often the callback of a handle can still be called. -/
def pending : Option Handle → Nat
  | some handle => if handle.hasShutdown then 1 else 0
  | none => 0

/-- The log has one return of `create` if it has given a handle, and a call of its shutdown callback
unless the instance still holds it. -/
structure InstanceAccount (given : Option Handle) (log : List PluginEvent) (i : Instance) : Prop where
  kept : ∀ handle, i.handle = some handle → given = some handle
  created : log.count (.created i.id) = given.toList.length
  called : callbackCount log i.id + pending i.handle = pending given

/-- `given` has the handle that the `create` of each instance has returned. -/
structure HandleAccount (given : String → Option Handle) (host : Host) : Prop where
  known : ∀ id handle, given id = some handle → id ∈ host.instances.map (·.id)
  owners : ∀ e ∈ host.log, eventId e ∈ host.instances.map (·.id)
  instances : ∀ i ∈ host.instances, InstanceAccount (given i.id) host.log i

lemma callbackCount_append (log log' : List PluginEvent) (id : String) :
    callbackCount (log ++ log') id = callbackCount log id + callbackCount log' id := by
  simp only [callbackCount, List.count_append]
  omega

variable {id : String} {handle : Option Handle} {log : List PluginEvent}

lemma releaseEvents_owner : ∀ e ∈ releaseEvents id handle, eventId e = id := by
  intro e he
  rw [mem_releaseEvents he]
  rfl

lemma releaseEvents_callback (id : String) (handle : Option Handle) :
    callbackCount (releaseEvents id handle) id = pending handle ∧
      (releaseEvents id handle).count (.created id) = 0 := by
  cases handle with
  | none => exact ⟨rfl, rfl⟩
  | some handle =>
    rw [releaseEvents, pending]
    split <;> simp [callbackCount]

lemma instanceAccount_of_filter (given : Option Handle) {log : List PluginEvent}
    (h : InstanceAccount given (log.filter (eventId · = inst.id)) inst) : InstanceAccount given log inst := by
  have hcount : ∀ e, eventId e = inst.id → (log.filter (eventId · = inst.id)).count e = log.count e :=
    fun e he => List.count_filter (by simpa using he)
  obtain ⟨hkept, hcreated, hcalled⟩ := h
  rw [hcount _ rfl] at hcreated
  rw [callbackCount, hcount _ rfl, hcount _ rfl] at hcalled
  exact ⟨hkept, hcreated, hcalled⟩

section

variable (h : HandleAccount given host) (hnodup : (host.instances.map (·.id)).Nodup)
  (hmem : inst ∈ host.instances)
include h hnodup hmem

lemma HandleAccount.update {step : Step} (hkept : SamePlan inst step.1)
    (hhandle : ∀ handle, step.1.handle = some handle → inst.handle = some handle)
    (howner : ∀ e ∈ step.2.1, eventId e = inst.id) (hcreated : step.2.1.count (.created inst.id) = 0)
    (hcalls : callbackCount step.2.1 inst.id + pending step.1.handle = pending inst.handle) :
    HandleAccount given (applyStep host step) := by
  refine ⟨?_, ?_, ?_⟩
  · rw [applyStep, setInstance_ids]
    exact h.known
  · intro e he
    rw [applyStep, setInstance_ids]
    rcases List.mem_append.mp he with he | he
    · exact h.owners e he
    · rw [howner e he]
      exact List.mem_map_of_mem hmem
  · intro j hj
    rcases (mem_applyStep hnodup hmem hkept j).mp hj with rfl | ⟨hj, hne⟩
    · obtain ⟨hold, hcreated', hcalled⟩ := h.instances inst hmem
      rw [hkept.same.id]
      refine ⟨fun handle hsome => hold handle (hhandle handle hsome), ?_, ?_⟩
      · rw [applyStep, List.count_append, hkept.same.id, hcreated, hcreated', Nat.add_zero]
      · rw [applyStep, callbackCount_append, hkept.same.id]
        omega
    · obtain ⟨hold, hcreated', hcalled⟩ := h.instances j hj
      have hother : ∀ e, eventId e = j.id → step.2.1.count e = 0 := fun e he =>
        List.count_eq_zero_of_not_mem fun hmem => hne (he.symm.trans (howner e hmem))
      refine ⟨hold, ?_, ?_⟩
      · rw [applyStep, List.count_append, hother _ rfl, hcreated', Nat.add_zero]
      · rw [applyStep, callbackCount_append, callbackCount, callbackCount, hother _ rfl,
          hother _ rfl]
        exact hcalled

lemma HandleAccount.start :
    HandleAccount given (applyStep host (settle inst (startVerdict host.instances inst))) := by
  have hkept := settle_kept (startVerdict_keeps host.instances inst)
  rcases startVerdict_cases host.instances inst with
    ⟨hverdict, -⟩ | ⟨message, hverdict, -⟩ | ⟨hverdict, -⟩ <;> rw [hverdict] at hkept ⊢
  · rw [settle, applyStep_skip (findInstance_of_mem hnodup hmem)]
    exact h
  · rw [giveUp] at hkept ⊢
    obtain ⟨hcalls, hcreated⟩ := releaseEvents_callback inst.id inst.handle
    refine h.update hnodup hmem hkept ?_ ?_ ?_ ?_ <;> rw [settle_fail]
    · rintro handle ⟨⟩
    · exact releaseEvents_owner
    · exact hcreated
    · exact hcalls
  · refine h.update hnodup hmem hkept (fun handle hsome => hsome) ?_ ?_ ?_
    · intro e he
      rw [List.mem_singleton.mp he]
      rfl
    · simp [settle]
    · simp [settle, callbackCount]

lemma HandleAccount.stop :
    HandleAccount given (applyStep host (settle inst (stopVerdict inst))) := by
  have hkept := settle_kept (stopVerdict_keeps inst)
  rcases stopVerdict_cases inst with ⟨hverdict, -⟩ | ⟨handle, hhandle, -, hverdict⟩
  · rw [hverdict, settle, applyStep_skip (findInstance_of_mem hnodup hmem)]
    exact h
  rw [hverdict] at hkept ⊢
  refine h.update hnodup hmem hkept ?_ ?_ ?_ ?_
  · rintro handle ⟨⟩
  · intro e he
    simp only [settle] at he
    split at he <;> simp only [List.mem_cons, List.not_mem_nil, or_false] at he
    · rcases he with rfl | rfl <;> rfl
    · rw [he]
      rfl
  · cases handle.hasShutdown <;> simp [settle]
  · rw [hhandle]
    cases hshutdown : handle.hasShutdown <;> simp [settle, callbackCount, pending, hshutdown]

end

lemma HandleAccount.shutdown (h : HandleAccount given host)
    (hnodup : (host.instances.map (·.id)).Nodup) : HandleAccount given (shutdown host) := by
  refine (shutdownLoop_rule (P := fun _ s => (s.instances.map (·.id)).Nodup ∧ HandleAccount given s)
    ?_ ?_ host.startOrder.reverse host ⟨hnodup, h⟩).2
  · intro id ids s hs _
    exact hs
  · rintro ids s inst ⟨hnodup, hs⟩ hmem -
    exact ⟨by rwa [applyStep, setInstance_ids], hs.stop hnodup hmem⟩

/-- A `shutdown` takes the handles of the started instances, and no others. -/
lemma shutdown_handles_iff (hnodup : (host.instances.map (·.id)).Nodup)
    (hidle : ∀ i ∈ (shutdown host).instances, i.state ≠ .started) :
    (∀ i ∈ (shutdown host).instances, i.handle = none) ↔
      ∀ i ∈ host.instances, i.handle.isSome = true → i.state = .started := by
  have hrun := shutdownLoop_rule (P := fun _ s => (s.instances.map (·.id)).Nodup ∧
    (∀ i ∈ host.instances, i.state ≠ .started → i ∈ s.instances) ∧
    ((∀ i ∈ host.instances, i.handle.isSome = true → i.state = .started) →
      ∀ i ∈ s.instances, i.handle.isSome = true → i.state = .started))
    ?_ ?_ host.startOrder.reverse host ⟨hnodup, fun i hi _ => hi, id⟩
  · obtain ⟨-, hleft, hstarted⟩ := hrun
    constructor
    · intro hnone i hi hhandle
      by_contra hstate
      rw [hnone i (hleft i hi hstate)] at hhandle
      cases hhandle
    · intro h i hi
      rw [← Option.not_isSome_iff_eq_none]
      exact fun hhandle => hidle i hi (hstarted h i hi hhandle)
  · intro id ids s hs _
    exact hs
  · rintro ids s inst ⟨hnodup, hleft, hstarted⟩ hmem hfind
    have hkept := settle_kept (stopVerdict_keeps inst)
    rcases stopVerdict_cases inst with ⟨hverdict, -⟩ | ⟨handle, -, hstate, hverdict⟩
    · rw [hverdict, settle, applyStep_skip hfind]
      exact ⟨hnodup, hleft, hstarted⟩
    refine ⟨by rwa [applyStep, setInstance_ids], ?_, ?_⟩
    · intro i hi hstate'
      refine (mem_applyStep hnodup hmem hkept i).mpr (.inr ⟨hleft i hi hstate', fun hid => ?_⟩)
      have hsame := findInstance_of_mem hnodup (hleft i hi hstate')
      rw [hid, findInstance_of_mem hnodup hmem] at hsame
      exact hstate' (Option.some.inj hsame ▸ hstate)
    · intro h j hj hhandle
      rcases (mem_applyStep hnodup hmem hkept j).mp hj with rfl | ⟨hj, -⟩
      · rw [hverdict] at hhandle
        cases hhandle
      · exact hstarted h j hj hhandle

/-- There is a call of the shutdown callback for each return of `create`, which is the only one. -/
def ShutDownOnce (log : List PluginEvent) : Prop :=
  ∀ id, log.count (.created id) ≤ 1 ∧ callbackCount log id = log.count (.created id)

lemma InstanceAccount.once_iff {given : Option Handle} (h : InstanceAccount given log inst) :
    (log.count (.created inst.id) ≤ 1 ∧
        callbackCount log inst.id = log.count (.created inst.id)) ↔
      (∀ handle, given = some handle → handle.hasShutdown = true) ∧ inst.handle = none := by
  obtain ⟨hkept, hcreated, hcalled⟩ := h
  rw [hcreated]
  cases hhandle : inst.handle with
  | some handle =>
    -- the handle is still held, so that its callback was not called
    rw [hhandle, hkept handle hhandle] at hcalled
    have hzero : callbackCount log inst.id = 0 := by omega
    simp [hzero, hkept handle hhandle]
  | none =>
    rw [hhandle] at hcalled
    cases given with
    | none => simpa [pending] using hcalled
    | some handle =>
      cases hshutdown : handle.hasShutdown <;> simp_all [pending]

lemma HandleAccount.once_iff (h : HandleAccount given host) :
    ShutDownOnce host.log ↔ (∀ id handle, given id = some handle → handle.hasShutdown = true) ∧
      ∀ i ∈ host.instances, i.handle = none := by
  constructor
  · intro honce
    refine ⟨fun id handle hgiven => ?_, fun i hi => ?_⟩
    · obtain ⟨i, hi, rfl⟩ := List.mem_map.mp (h.known id handle hgiven)
      exact ((h.instances i hi).once_iff.mp (honce i.id)).1 handle hgiven
    · exact ((h.instances i hi).once_iff.mp (honce i.id)).2
  · rintro ⟨hcallbacks, hnone⟩ id
    by_cases hid : id ∈ host.instances.map (·.id)
    · obtain ⟨i, hi, rfl⟩ := List.mem_map.mp hid
      exact (h.instances i hi).once_iff.mpr ⟨hcallbacks i.id, hnone i hi⟩
    · have hzero : ∀ e, eventId e = id → host.log.count e = 0 := fun e he =>
        List.count_eq_zero_of_not_mem fun hmem => hid (he ▸ h.owners e hmem)
      rw [callbackCount, hzero (.created id) rfl, hzero (.released id) rfl, hzero (.shutdown id) rfl]
      exact ⟨Nat.zero_le 1, rfl⟩

end Account

section Created

variable (dump : JsonDump)

/-- The handle that the `create` of an instance returns, if it is called. -/
def returned (inst : Instance) : Option Handle :=
  if inst.package.isSome ∧ inst.state = .loaded then
    match dump inst.decl.config with
    | .ok config => (callCreate inst config).handle
    | .error _ => none
  else none

def tryCreate (inst : Instance) : Step := settle inst (createVerdict dump inst)

/-- The instances that `create_all` comes to. -/
def tried (instances : List Instance) : List Instance :=
  visited (tryCreate dump) instances

def givenHandle (instances : List Instance) (id : String) : Option Handle :=
  (findInstance (tried dump instances) id).bind (returned dump)

lemma checkCreated_ok {package : Package} {result : CreateResult} {handle : Handle}
    (h : checkCreated inst package result = .ok handle) : result.handle = some handle := by
  unfold checkCreated at h
  split at h
  · rename_i handle' hhandle
    split_ifs at h
    obtain ⟨-, -, h⟩ := ok_of_bind_ok h
    cases h
    exact hhandle
  · cases h

lemma tryCreate_id (inst : Instance) : (tryCreate dump inst).1.id = inst.id :=
  (settle_kept (createVerdict_keeps dump inst)).same.id

lemma createVerdict_cases (inst : Instance) :
    (returned dump inst = none ∧
      (createVerdict dump inst = .skip ∨ ∃ what, createVerdict dump inst = .throw what)) ∨
    (∃ handle, returned dump inst = some handle ∧ inst.state = .loaded ∧
      createVerdict dump inst = .ok { inst with handle := some handle } [.created inst.id]) ∨
    ∃ message, createVerdict dump inst = .fail inst message
      (createdEvents inst.id (returned dump inst) ++ releaseEvents inst.id (returned dump inst)) := by
  unfold returned
  fun_cases createVerdict dump inst with
  | case1 hpackage => simp [hpackage]
  | case2 package hpackage hstate => simp [hstate]
  | case3 package hpackage hstate what hdump => simp [hdump]
  | case4 package hpackage hstate config hconfig result message =>
    have hcalled : inst.package.isSome ∧ inst.state = .loaded :=
      ⟨by rw [hpackage]; rfl, not_not.mp hstate⟩
    rw [if_pos hcalled, hconfig]
    exact .inr (.inr ⟨message, rfl⟩)
  | case5 package hpackage hstate config hconfig result handle hcheck =>
    have hcalled : inst.package.isSome ∧ inst.state = .loaded :=
      ⟨by rw [hpackage]; rfl, not_not.mp hstate⟩
    rw [if_pos hcalled, hconfig]
    exact .inr (.inl ⟨handle, checkCreated_ok hcheck, not_not.mp hstate, rfl⟩)

/-- What a `create` leaves behind. -/
structure Created (dump : JsonDump) (inst : Instance) : Prop where
  account : InstanceAccount (returned dump inst) (tryCreate dump inst).2.1 (tryCreate dump inst).1
  owners : ∀ e ∈ (tryCreate dump inst).2.1, eventId e = inst.id
  loaded : (tryCreate dump inst).1.handle.isSome = true → (tryCreate dump inst).1.state = .loaded

lemma created (h : inst.handle = none) : Created dump inst := by
  have hidle : ∀ {stop}, tryCreate dump inst = (inst, [], stop) → returned dump inst = none →
      Created dump inst := by
    intro stop hstep hreturned
    refine ⟨?_, ?_, ?_⟩ <;> rw [hstep]
    · rw [hreturned]
      exact ⟨by simp [h], rfl, by simp [h, callbackCount]⟩
    · exact nofun
    · simp [h]
  rcases createVerdict_cases dump inst with
    ⟨hnone, hskip | ⟨what, hthrow⟩⟩ | ⟨handle, hsome, hstate, hok⟩ | ⟨message, hfail⟩
  · exact hidle (by rw [tryCreate, hskip]; rfl) hnone
  · exact hidle (by rw [tryCreate, hthrow]; rfl) hnone
  · refine ⟨?_, ?_, ?_⟩ <;> rw [tryCreate, hok]
    · rw [hsome]
      exact ⟨fun handle' heq => heq, by simp [settle], by simp [settle, callbackCount]⟩
    · intro e he
      rw [List.mem_singleton.mp he]
      rfl
    · exact fun _ => hstate
  · obtain ⟨hcalls, hcreated⟩ := releaseEvents_callback inst.id (returned dump inst)
    refine ⟨?_, ?_, ?_⟩ <;> rw [tryCreate, hfail, settle_fail]
    · refine ⟨by simp [h], ?_, ?_⟩
      · rw [List.count_append, hcreated]
        cases returned dump inst <;> simp [createdEvents]
      · rw [callbackCount_append, hcalls, h]
        cases returned dump inst <;> simp [createdEvents, callbackCount, pending]
    · intro e he
      rcases List.mem_append.mp he with he | he
      · rw [mem_createdEvents he]
        rfl
      · exact releaseEvents_owner e he
    · simp [h]

lemma createAll_none_iff (loaded : Host) :
    (createAll dump loaded).2 = none ↔ ∀ i ∈ loaded.instances, (tryCreate dump i).2.2 = none :=
  forEach_none_iff

section

variable {loaded : Host} (hhandles : ∀ i ∈ loaded.instances, i.handle = none)
  (hnodup : (loaded.instances.map (·.id)).Nodup)

lemma createAll_split (dump : JsonDump) (hlog : loaded.log = []) :
    ∃ after, loaded.instances = tried dump loaded.instances ++ after ∧
      (createAll dump loaded).1.instances =
        (tried dump loaded.instances).map (fun i => (tryCreate dump i).1) ++ after ∧
      (createAll dump loaded).1.log =
        (tried dump loaded.instances).flatMap fun i => (tryCreate dump i).2.1 := by
  obtain ⟨after, hsplit, hinstances, hevents⟩ := forEach_split (tryCreate dump) loaded.instances
  refine ⟨after, hsplit, hinstances, ?_⟩
  rw [createAll, runPhase, hlog]
  exact hevents

section

include hnodup

lemma givenHandle_iff (dump : JsonDump) :
    (∀ id handle, givenHandle dump loaded.instances id = some handle →
        handle.hasShutdown = true) ↔
      ∀ i ∈ tried dump loaded.instances, ∀ handle, returned dump i = some handle →
        handle.hasShutdown = true := by
  obtain ⟨after, hsplit, -⟩ := forEach_split (tryCreate dump) loaded.instances
  rw [hsplit, List.map_append] at hnodup
  constructor
  · intro h i hi handle hreturned
    refine h i.id handle ?_
    rw [givenHandle, tried, findInstance_of_mem (List.nodup_append.mp hnodup).1 hi]
    exact hreturned
  · intro h id handle hgiven
    obtain ⟨i, hfind, hreturned⟩ := Option.bind_eq_some_iff.mp hgiven
    exact h i (findInstance_some hfind).1 handle hreturned

end

include hhandles

lemma createAll_handles_iff (dump : JsonDump) (hlog : loaded.log = []) :
    (∀ i ∈ (createAll dump loaded).1.instances, i.handle = none) ↔
      ∀ i ∈ tried dump loaded.instances, (tryCreate dump i).1.handle = none := by
  obtain ⟨after, hsplit, hinstances, -⟩ := createAll_split dump hlog
  rw [hinstances, List.forall_mem_append, List.forall_mem_map]
  exact and_iff_left fun i hi => hhandles i (hsplit ▸ List.mem_append_right _ hi)

include hnodup

lemma createAll_account (dump : JsonDump) (hlog : loaded.log = []) :
    HandleAccount (givenHandle dump loaded.instances) (createAll dump loaded).1 ∧
      ∀ i ∈ (createAll dump loaded).1.instances, i.handle.isSome = true → i.state = .loaded := by
  obtain ⟨after, hsplit, hinstances, hevents⟩ := createAll_split dump hlog
  have hcreated : ∀ i ∈ tried dump loaded.instances, Created dump i := fun i hi =>
    created dump (hhandles i (hsplit ▸ List.mem_append_left _ hi))
  rw [hsplit, List.map_append] at hnodup
  have hdisjoint := (List.nodup_append.mp hnodup).2.2
  have htried := (List.nodup_append.mp hnodup).1
  have howner : ∀ i ∈ tried dump loaded.instances, ∀ e ∈ (tryCreate dump i).2.1, eventId e = i.id :=
    fun i hi => (hcreated i hi).owners
  refine ⟨⟨?_, ?_, ?_⟩, ?_⟩
  · intro id handle hgiven
    obtain ⟨i, hfind, -⟩ := Option.bind_eq_some_iff.mp hgiven
    obtain ⟨hi, rfl⟩ := findInstance_some hfind
    rw [hinstances, List.map_append, List.map_map]
    exact List.mem_append_left _ (List.mem_map.mpr ⟨i, hi, tryCreate_id dump i⟩)
  · intro e he
    rw [hevents] at he
    obtain ⟨i, hi, he⟩ := List.mem_flatMap.mp he
    rw [hinstances, List.map_append, List.map_map]
    refine List.mem_append_left _ (List.mem_map.mpr ⟨i, hi, ?_⟩)
    exact (tryCreate_id dump i).trans (howner i hi e he).symm
  · intro j hj
    rw [hinstances] at hj
    rcases List.mem_append.mp hj with hj | hj
    · obtain ⟨i, hi, rfl⟩ := List.mem_map.mp hj
      apply instanceAccount_of_filter
      rw [hevents, givenHandle, tryCreate_id, findInstance_of_mem htried hi,
        filter_flatMap_keyed howner htried hi]
      exact (hcreated i hi).account
    · -- the loop has not come to the instance
      have hother : ∀ i ∈ tried dump loaded.instances, i.id ≠ j.id := fun i hi heq =>
        hdisjoint _ (List.mem_map_of_mem hi) _ (List.mem_map_of_mem hj) heq
      have hgiven : givenHandle dump loaded.instances j.id = none := by
        have hnone : findInstance (tried dump loaded.instances) j.id = none :=
          List.find?_eq_none.mpr fun i hi => by simpa using hother i hi
        rw [givenHandle, hnone]
        rfl
      have hfilter : (createAll dump loaded).1.log.filter (eventId · = j.id) = [] := by
        refine List.filter_eq_nil_iff.mpr fun e he => ?_
        rw [hevents] at he
        obtain ⟨i, hi, he⟩ := List.mem_flatMap.mp he
        simpa [howner i hi e he] using hother i hi
      have hnone := hhandles j (hsplit ▸ List.mem_append_right _ hj)
      apply instanceAccount_of_filter
      rw [hfilter, hgiven]
      exact ⟨by simp [hnone], rfl, by simp [hnone, callbackCount]⟩
  · intro j hj hhandle
    rw [hinstances] at hj
    rcases List.mem_append.mp hj with hj | hj
    · obtain ⟨i, hi, rfl⟩ := List.mem_map.mp hj
      exact (hcreated i hi).loaded hhandle
    · rw [hhandles j (hsplit ▸ List.mem_append_right _ hj)] at hhandle
      cases hhandle

end

end Created

section Startup

/-- If the start of an instance ends the startup, no other instance holds a handle that is not
started. -/
def StartsReleased : List String → Host → Prop
  | [], _ => True
  | id :: ids, host =>
    match findInstance host.instances id with
    | none => StartsReleased ids host
    | some inst =>
      let step := settle inst (startVerdict host.instances inst)
      match step.2.2 with
      | some _ => ∀ i ∈ host.instances, i.id ≠ id → i.handle.isSome = true → i.state = .started
      | none => StartsReleased ids (applyStep host step)

/-- The handles that are not started are those of the instances still to be passed. -/
structure StartAccount (given : String → Option Handle) (left : List String) (host : Host) : Prop
    where
  nodup : (host.instances.map (·.id)).Nodup
  account : HandleAccount given host
  states : ∀ i ∈ host.instances, i.handle.isSome = true →
    i.state = .started ∨ (i.state = .loaded ∧ i.id ∈ left)

variable {left : List String}

lemma StartAccount.start (h : StartAccount given (inst.id :: left) host)
    (hmem : inst ∈ host.instances) :
    StartAccount given left (applyStep host (settle inst (startVerdict host.instances inst))) := by
  have hkept := settle_kept (startVerdict_keeps host.instances inst)
  refine ⟨by rw [applyStep, setInstance_ids]; exact h.nodup, h.account.start h.nodup hmem, ?_⟩
  intro j hj hhandle
  rcases (mem_applyStep h.nodup hmem hkept j).mp hj with rfl | ⟨hj, hne⟩
  · -- an instance that was passed is started or has given up its handle
    rcases startVerdict_cases host.instances inst with
      ⟨hverdict, hstate | hnone⟩ | ⟨message, hverdict, -⟩ | ⟨hverdict, -⟩ <;>
      rw [hverdict] at hhandle ⊢
    · rcases h.states inst hmem hhandle with hstate' | ⟨hstate', -⟩ <;> simp [hstate] at hstate'
    · simp [settle, hnone] at hhandle
    · rw [giveUp, settle_fail] at hhandle
      cases hhandle
    · exact .inl rfl
  · rcases h.states j hj hhandle with hstate | ⟨hstate, hleft⟩
    · exact .inl hstate
    · exact .inr ⟨hstate, (List.mem_cons.mp hleft).resolve_left hne⟩

lemma startVerdict_stop {stop : Stop}
    (h : (settle inst (startVerdict host.instances inst)).2.2 = some stop) :
    (settle inst (startVerdict host.instances inst)).1.handle = none ∧
      ∃ message, stop = .error message := by
  rcases startVerdict_cases host.instances inst with
    ⟨hverdict, -⟩ | ⟨message, hverdict, -⟩ | ⟨hverdict, -⟩ <;> rw [hverdict] at h ⊢
  · cases h
  · rw [giveUp, settle_fail] at h ⊢
    obtain ⟨-, heq⟩ := Option.ite_none_right_eq_some.mp h
    exact ⟨rfl, message, (Option.some.inj heq).symm⟩
  · cases h

lemma startLoop_stop {stop : Stop} (h : (startLoop left host).2 = some stop) :
    ∃ message, stop = .error message := by
  induction left generalizing host with
  | nil => cases h
  | cons id left ih =>
    rw [startLoop] at h
    cases hfind : findInstance host.instances id with
    | none =>
      rw [hfind] at h
      exact ih h
    | some inst =>
      simp only [hfind] at h
      cases hstop : (settle inst (startVerdict host.instances inst)).2.2 with
      | none =>
        simp only [hstop] at h
        exact ih h
      | some stop' =>
        simp only [hstop, Option.some.injEq] at h
        exact h ▸ (startVerdict_stop hstop).2

lemma StartAccount.startLoop (h : StartAccount given left host) :
    HandleAccount given (startLoop left host).1 ∧
      ((∀ i ∈ (startLoop left host).1.instances, i.handle.isSome = true → i.state = .started) ↔
        StartsReleased left host) := by
  induction left generalizing host with
  | nil =>
    refine ⟨h.account, iff_of_true (fun i hi hhandle => ?_) trivial⟩
    exact (h.states i hi hhandle).resolve_right fun hleft => by cases hleft.2
  | cons id left ih =>
    rw [Plugin.startLoop, StartsReleased]
    cases hfind : findInstance host.instances id with
    | none =>
      refine ih ⟨h.nodup, h.account, fun i hi hhandle => ?_⟩
      rcases h.states i hi hhandle with hstate | ⟨hstate, hleft⟩
      · exact .inl hstate
      · exact .inr ⟨hstate, (List.mem_cons.mp hleft).resolve_left (findInstance_none hfind i hi)⟩
    | some inst =>
      obtain ⟨hmem, rfl⟩ := findInstance_some hfind
      have hnext := h.start hmem
      have hkept := settle_kept (startVerdict_keeps host.instances inst)
      cases hstop : (settle inst (startVerdict host.instances inst)).2.2 with
      | none =>
        simp only [hstop]
        exact ih hnext
      | some stop =>
        simp only [hstop]
        refine ⟨hnext.account, ?_⟩
        have hmems := mem_applyStep h.nodup hmem hkept
        constructor
        · exact fun hall i hi hne => hall i ((hmems i).mpr (.inr ⟨hi, hne⟩))
        · intro hall j hj hhandle
          rcases (hmems j).mp hj with rfl | ⟨hj, hne⟩
          · rw [(startVerdict_stop hstop).1] at hhandle
            cases hhandle
          · exact hall j hj hne hhandle

/-- The condition on the host that `create_all` gets: the handles that are returned have a shutdown
callback; if a `create` ends the startup, none of them is kept; and if a start ends it, all the
others are started. -/
structure ReleasesHandles (dump : JsonDump) (loaded : Host) : Prop where
  callbacks : ∀ i ∈ tried dump loaded.instances, ∀ handle, returned dump i = some handle →
    handle.hasShutdown = true
  create : (∃ i ∈ loaded.instances, (tryCreate dump i).2.2 ≠ none) →
    ∀ i ∈ tried dump loaded.instances, (tryCreate dump i).1.handle = none
  start : (∀ i ∈ loaded.instances, (tryCreate dump i).2.2 = none) →
    StartsReleased loaded.startOrder (createAll dump loaded).1

lemma once_iff_of_fixed {result : Host × StartupResult} {last : Host}
    (hlast : shutdown result.1 = last) (hfixed : shutdown last = last)
    (hfailed : result.2 ≠ .ok → result.1 = last) :
    ((result.2 ≠ .ok → ShutDownOnce result.1.log) ∧
      ∀ n, ShutDownOnce (shutdown^[n + 1] result.1).log) ↔ ShutDownOnce last.log := by
  have hiterate : ∀ n, shutdown^[n + 1] result.1 = last := fun n => by
    rw [Function.iterate_succ_apply, hlast, Function.iterate_fixed hfixed]
  constructor
  · intro h
    exact hiterate 0 ▸ h.2 0
  · intro h
    exact ⟨fun hresult => by rwa [hfailed hresult], fun n => by rwa [hiterate n]⟩

lemma once_iff_of_idle (phase : StartupPhase) (stop : Stop)
    (hidle : ∀ i ∈ host.instances, i.state ≠ .started) :
    (((endedIn phase host stop).2 ≠ .ok → ShutDownOnce (endedIn phase host stop).1.log) ∧
      ∀ n, ShutDownOnce (shutdown^[n + 1] (endedIn phase host stop).1).log) ↔
      ShutDownOnce host.log := by
  have hsame := shutdown_of_idle hidle
  have hhost : (endedIn phase host stop).1 = host := by
    cases stop with
    | error => exact hsame
    | exception => rfl
  exact once_iff_of_fixed (by rw [hhost, hsame]) hsame fun _ => hhost

lemma shutDownOnce_nil {log : List PluginEvent} (hlog : log = []) : ShutDownOnce log := by
  rw [hlog]
  exact fun id => ⟨by simp, rfl⟩

section Phases

variable {less same : Json → Json → Bool} {cfg : PluginConfig}
  {cleared planned loaded created started : Host} {stop : Option Stop}

lemma uncreated_of_load (hplan : planAndResolve less same cfg cleared = (planned, none))
    (hload : loadAll plugins planned = (loaded, stop)) :
    loaded.log = [] ∧ ∀ i ∈ loaded.instances, i.handle = none := by
  have hlog := (planAndResolve_spec less same cfg cleared).1
  simp only [hplan] at hlog
  have hfresh : ∀ i ∈ planned.instances, i.handle = none := fun i hi =>
    ((loading_of_plan hplan).1.planned.fresh i hi).1.2
  have hphase := runPhase_rule (loadVerdict plugins) (I := fun i => i.handle = none)
    (E := fun _ => False) ?_ hfresh (by simp [hlog])
  · rw [← loadAll, hload] at hphase
    exact ⟨List.eq_nil_iff_forall_not_mem.mpr hphase.2, hphase.1⟩
  intro i hi
  cases hverdict : loadVerdict plugins i with
  | skip | throw => exact ⟨hi, fun e he => by cases he⟩
  | ok =>
    obtain ⟨package, abi, -, -, hcheck, rfl, rfl⟩ := loadVerdict_ok hverdict
    exact ⟨hi, fun e he => by cases he⟩
  | fail i' message =>
    obtain ⟨-, rfl, rfl⟩ := loadVerdict_fail hverdict
    rw [settle_fail]
    exact ⟨hi, fun e he => by cases he⟩

section

variable (hplan : planAndResolve less same cfg cleared = (planned, none))
  (hload : loadAll plugins planned = (loaded, none))
include hplan hload

lemma loaded_nodup : (loaded.instances.map (·.id)).Nodup :=
  (loading_of_load hplan hload).follows.ids ▸ (loading_of_plan hplan).1.planned.nodup

lemma created_once_iff {stop : Stop} (hcreate : createAll dump loaded = (created, some stop)) :
    ShutDownOnce created.log ↔ ReleasesHandles dump loaded := by
  have hnodup := loaded_nodup hplan hload
  obtain ⟨hlog, hhandles⟩ := uncreated_of_load hplan hload
  have haccount := (createAll_account hhandles hnodup dump hlog).1
  have hnone := createAll_handles_iff hhandles dump hlog
  have hstop := createAll_none_iff dump loaded
  rw [hcreate] at haccount hnone hstop
  rw [haccount.once_iff, givenHandle_iff hnodup dump, hnone]
  have hsome : ¬∀ i ∈ loaded.instances, (tryCreate dump i).2.2 = none := fun hall =>
    nomatch hstop.mpr hall
  constructor
  · rintro ⟨hcallbacks, hnone⟩
    exact ⟨hcallbacks, fun _ => hnone, fun hall => absurd hall hsome⟩
  · rintro ⟨hcallbacks, hkeeps, -⟩
    exact ⟨hcallbacks, hkeeps (by simpa using hsome)⟩

variable (hcreate : createAll dump loaded = (created, none))
  (hstart : startAll created = (started, stop))
include hcreate hstart

lemma started_once_iff :
    ShutDownOnce (shutdown started).log ↔ ReleasesHandles dump loaded := by
  have hnodup := loaded_nodup hplan hload
  have hcreated := loading_of_create hplan hload hcreate
  obtain ⟨hordered, hrunning, hsilent⟩ := running_of_start hplan hload hcreate hstart
  obtain ⟨hlog, hhandles⟩ := uncreated_of_load hplan hload
  obtain ⟨haccount, hstates⟩ := createAll_account hhandles hnodup dump hlog
  have hall := (createAll_none_iff dump loaded).mp (by rw [hcreate])
  rw [hcreate] at haccount hstates
  have hbegin : StartAccount (givenHandle dump loaded.instances) created.startOrder created := by
    refine ⟨hcreated.follows.ids ▸ (loading_of_plan hplan).1.planned.nodup, haccount,
      fun i hi hhandle => .inr ⟨hstates i hi hhandle, ?_⟩⟩
    rw [hcreated.startOrder, (loading_of_plan hplan).1.perm.mem_iff, ← hcreated.follows.ids]
    exact List.mem_map_of_mem hi
  obtain ⟨hend, hreleased⟩ := hbegin.startLoop
  rw [← startAll, hstart] at hend hreleased
  have hnodup' := hrunning.follows.ids ▸ hordered.planned.nodup
  have hidle := (hrunning.shutdown hordered hsilent).running.idle
  have horder : loaded.startOrder = created.startOrder :=
    (loading_of_load hplan hload).startOrder.trans hcreated.startOrder.symm
  rw [(hend.shutdown hnodup').once_iff, givenHandle_iff hnodup dump,
    shutdown_handles_iff hnodup' hidle, hreleased, ← horder]
  constructor
  · rintro ⟨hcallbacks, hstarts⟩
    refine ⟨hcallbacks, fun hsome => ?_, fun _ => by rwa [hcreate]⟩
    obtain ⟨i, hi, hne⟩ := hsome
    exact absurd (hall i hi) hne
  · rintro ⟨hcallbacks, -, hstarts⟩
    have hstarts := hstarts hall
    rw [hcreate] at hstarts
    exact ⟨hcallbacks, hstarts⟩

lemma shutdown_again :
    shutdown (shutdown started) = shutdown started := by
  obtain ⟨hordered, hrunning, hsilent⟩ := running_of_start hplan hload hcreate hstart
  exact shutdown_of_idle (hrunning.shutdown hordered hsilent).running.idle

end

end Phases

end Startup

/-- The condition for the host that the phases before `create_all` make of a configuration. -/
def StartupReleases (less same : Json → Json → Bool) (dump : JsonDump) (scanned : List Package)
    (plugins : Plugins) (cfg : PluginConfig) (host : Host) : Prop :=
  ∀ planned loaded, catalog scanned [] = none →
    planAndResolve less same cfg (clearedHost scanned host) = (planned, none) →
    loadAll plugins planned = (loaded, none) → ReleasesHandles dump loaded

/-- Each handle that a `create` returned has got exactly one shutdown call when the startup has
failed and when `shutdown` has returned, if and only if the handles have a shutdown callback and the
startup does not end while one of them is neither started nor given up. -/
theorem handles_shut_down_once (less same : Json → Json → Bool) (dump : JsonDump)
    (scanned : List Package) (plugins : Plugins) (cfg : PluginConfig) (host : Host) :
    (((startup less same dump scanned plugins cfg host).2 ≠ .ok →
      ShutDownOnce (startup less same dump scanned plugins cfg host).1.log) ∧
    ∀ n, ShutDownOnce
      (shutdown^[n + 1] (startup less same dump scanned plugins cfg host).1).log) ↔
    StartupReleases less same dump scanned plugins cfg host := by
  cases hcatalog : catalog scanned [] with
  | some error =>
    have hresult : startup less same dump scanned plugins cfg host =
        endedIn .catalog (clearedHost scanned host) (.error error) := by
      rw [startup, hcatalog]
      rfl
    rw [hresult, once_iff_of_idle .catalog _ (by simp [clearedHost])]
    refine iff_of_true (shutDownOnce_nil rfl) fun planned loaded hnone => ?_
    rw [hcatalog] at hnone
    cases hnone
  | none =>
    have hrun := startup_run less same dump plugins cfg scanned host
    generalize startup less same dump scanned plugins cfg host = result at *
    -- the phases before are functions of the configuration, so that the condition is about one host
    have hone : ∀ {planned loaded},
        planAndResolve less same cfg (clearedHost scanned host) = (planned, none) →
        loadAll plugins planned = (loaded, none) →
        (StartupReleases less same dump scanned plugins cfg host ↔ ReleasesHandles dump loaded) := by
      intro planned loaded hplan hload
      refine ⟨fun h => h planned loaded hcatalog hplan hload, fun h planned' loaded' _ hplan' hload' => ?_⟩
      cases hplan.symm.trans hplan'
      cases hload.symm.trans hload'
      exact h
    cases hrun with
    | catalog hsome =>
      rw [show (clearedHost scanned host).packages = scanned from rfl, hcatalog] at hsome
      cases hsome
    | plan hplan =>
      obtain ⟨hlog, hidle, -⟩ := planAndResolve_spec less same cfg (clearedHost scanned host)
      simp only [hplan] at hlog hidle
      rw [once_iff_of_idle .plan _ hidle]
      refine iff_of_true (shutDownOnce_nil hlog) fun planned' loaded' _ hplan' => ?_
      cases hplan.symm.trans hplan'
    | load hplan hload =>
      obtain ⟨hlog, -⟩ := uncreated_of_load hplan hload
      rw [once_iff_of_idle .load _ (loading_of_load hplan hload).neverStarted.idle]
      refine iff_of_true (shutDownOnce_nil hlog) fun planned' loaded' _ hplan' hload' => ?_
      cases hplan.symm.trans hplan'
      cases hload.symm.trans hload'
    | create hplan hload hcreate =>
      rw [hone hplan hload, ← created_once_iff hplan hload hcreate]
      exact once_iff_of_idle .create _ (loading_of_create hplan hload hcreate).neverStarted.idle
    | @start planned loaded created started stop hplan hload hcreate hstart =>
      rw [hone hplan hload, ← started_once_iff hplan hload hcreate hstart]
      have hfixed := shutdown_again hplan hload hcreate hstart
      obtain ⟨message, rfl⟩ := startLoop_stop (congrArg Prod.snd hstart)
      exact once_iff_of_fixed hfixed hfixed fun _ => rfl
    | @check planned loaded created started hplan hload hcreate hstart =>
      rw [hone hplan hload, ← started_once_iff hplan hload hcreate hstart]
      have hfixed := shutdown_again hplan hload hcreate hstart
      rcases checkStarted_cases started with ⟨heq, -⟩ | ⟨-, heq⟩
      · rw [heq]
        exact once_iff_of_fixed rfl hfixed fun hfailed => absurd rfl hfailed
      · exact once_iff_of_fixed (by rw [heq, hfixed]) hfixed fun _ => heq

def pairConfig : PluginConfig :=
  { instances := [{ id := "a", package := "base" }, { id := "b", package := "base" }] }

def pairPlugins : Plugins := fun id =>
  .entry (some {
    packageId := some "base"
    create := some fun _ => if id = "a" then {} else { code := 1, handle := none } })

/-- The handle of an instance that was created before another one failed gets no shutdown call. -/
theorem created_handle_leaks :
    (startup (fun _ _ => false) (fun _ _ => true) (Json.dump fun _ => []) twicePackages pairPlugins
      pairConfig {}).2 = .failed .create "plugin.create.failed: b" ∧
    (startup (fun _ _ => false) (fun _ _ => true) (Json.dump fun _ => []) twicePackages pairPlugins
      pairConfig {}).1.log = [.created "a"] ∧
    (shutdown (startup (fun _ _ => false) (fun _ _ => true) (Json.dump fun _ => []) twicePackages
      pairPlugins pairConfig {}).1).log = [.created "a"] := by
  decide

end ShieldRuntime.Proofs
