import ShieldRuntime.Proofs.RegistryLiveness

/-!
# When a service exits with a panic

The error counter of a service is raised by the error hook, reset by the C++ code that dispatches
handlers, and read when `on_error` has run.
-/

namespace ShieldRuntime.Proofs

open Library Lua

variable {V : Type}

def ending (s : State V) : Label V → Option (Thread × Instance × Entry × Outcome V)
  | .api t (.ret values) =>
    match s.stack t with
    | .lua vm entry :: _ => some (t, vm, entry, .returned values)
    | _ => none
  | .api t (.raise _) =>
    match s.stack t with
    | .lua vm entry :: _ => some (t, vm, entry, .raised)
    | _ => none
  | _ => none

def outcomeReport (vm : Instance) : Entry → Outcome V → Option (Report Instance)
  | .handler _ _, .returned _ => some (.succeeded vm)
  | .handler _ _, .raised => some (.failed vm)
  | .fallback _, .returned _ => some (.succeeded vm)
  | .fallback _, .raised | .timer _, .raised | .fork _, .raised => some (.failed vm)
  | .onPanic _, _ => some (.stopped vm)
  | _, _ => none

/-- What the step says about an instance: a failed or a successful callback. -/
def report (s : State V) (l : Label V) : Option (Report Instance) :=
  (ending s l).bind fun e => outcomeReport e.2.1 e.2.2.1 e.2.2.2

def toldTo : Entry → Outcome V → Option ServiceId
  | .handler _ (.dispatch id), _ | .timer id, .raised | .fork id, .raised => some id
  | _, _ => none

def hookOf : Entry → Option ServiceId
  | .onError id => some id
  | _ => none

def invokes (s : State V) : Label V → Option ServiceId
  | .cont t =>
    match s.stack t with
    | .cpp (.invokeErrorHook id) :: _ => some id
    | _ => none
  | _ => none

def resets (s : State V) : Label V → Option ServiceId
  | .cont t =>
    match s.stack t with
    | .cpp (.resetErrorCount id) :: _ => some id
    | _ => none
  | _ => none

/-- No failure of the instance is counted or being reported, or its success is. -/
def Clean (s : State V) (vm : Instance) : Prop :=
  phaseAt s vm = .succeeding ∨
    (s.registry.errorCounts (s.actors.serviceOf vm) = 0 ∧ phaseAt s vm ≠ .failing)

instance (s : State V) (vm : Instance) : Decidable (Clean s vm) :=
  inferInstanceAs (Decidable (_ ∨ _))

/-- What a callback ends in is told by the actor of its instance, and nothing else counts. -/
def EndsReported (s : State V) (t : Thread) (vm : Instance) (entry : Entry) (outcome : Outcome V) :
    Prop :=
  (∀ id ∈ toldTo entry outcome, t = .actor vm ∧ s.actors.serviceOf vm = id) ∧
    (toldTo entry outcome = none → outcomeReport vm entry outcome ≠ some (.failed vm) ∧
      (outcomeReport vm entry outcome = some (.succeeded vm) → Clean s vm)) ∧
    ∀ id ∈ hookOf entry, s.registry.services id = some vm

instance (s : State V) (t : Thread) (vm : Instance) (entry : Entry) (outcome : Outcome V) :
    Decidable (EndsReported s t vm entry outcome) :=
  inferInstanceAs (Decidable (_ ∧ _ ∧ _))

/-- The error counts of a step are those of the instance whose actor makes the step. -/
def Reported (s : State V) (l : Label V) : Prop :=
  (∀ e ∈ ending s l, EndsReported s e.1 e.2.1 e.2.2.1 e.2.2.2) ∧
    (∀ id ∈ invokes s l, (s.registry.services id).map .actor = actingThread l) ∧
    (∀ id ∈ resets s l, ∀ vm ∈ s.registry.services id, actingThread l = some (.actor vm)) ∧
    ∀ id ∈ publishes s l, s.registry.errorCounts id = 0

instance (s : State V) (l : Label V) : Decidable (Reported s l) :=
  inferInstanceAs (Decidable (_ ∧ _ ∧ _ ∧ _))

/-- Error reporting runs on the reported service's own thread. -/
def ReportFits (a : Actors V) (t : Thread) : Frame → Prop
  | .cpp (.invokeErrorHook id) => ∃ vm, t = .actor vm ∧ a.serviceOf vm = id
  | .cpp (.resetErrorCount id) => ∃ vm, t = .actor vm ∧ a.serviceOf vm = id
  | .lua vm (.onError id) => t = .actor vm ∧ a.serviceOf vm = id
  | .lua vm (.onPanic _) => t = .actor vm
  | _ => True

def Tally (s : State V) (vm : Instance) (phase : Phase) (reports : List (Report Instance)) : Prop :=
  Counts maxErrorsBeforePanic vm phase (s.registry.services (s.actors.serviceOf vm) = some vm)
    (s.registry.errorCounts (s.actors.serviceOf vm)) reports

/-- The counts of the registry are the streaks of failures. -/
structure Tallied (reports : List (Report Instance)) (s : State V) : Prop where
  spawned : Spawned s
  single : ∀ t, (callbacks (s.stack t)).length ≤ 1
  home : ∀ t, ∀ frame ∈ callbacks (s.stack t), ReportFits s.actors t frame
  fresh : ∀ vm, s.actors.ready vm = false → streak vm reports = 0
  tally : ∀ vm, Tally s vm (phaseAt s vm) reports

section

variable {s next : State V} {l : Label V} {t : Thread} {vm : Instance} {id : ServiceId}
  {entry : Entry} {outcome : Outcome V} {rest : List Frame} {reports : List (Report Instance)}

lemma maxErrorsBeforePanic_pos : 0 < maxErrorsBeforePanic := by decide

lemma ending_eq_some (h : ending s l = some (t, vm, entry, outcome))
    (hstep : s.step l = some next) : actingThread l = some t ∧
      ∃ rest late, s.stack t = .lua vm entry :: rest ∧
        next = s.afterLua t vm entry rest outcome late := by
  revert h
  fun_cases ending s l with
  | case1 t values vm entry rest hstack =>
    rintro ⟨⟩
    cases step_api hstack hstep
    exact ⟨rfl, rest, false, hstack, rfl⟩
  | case3 t late vm entry rest hstack =>
    rintro ⟨⟩
    cases step_api hstack hstep
    exact ⟨rfl, rest, late, hstack, rfl⟩
  | _ => nofun

lemma invokes_eq_some (h : invokes s l = some id) :
    ∃ t rest, l = .cont t ∧ s.stack t = .cpp (.invokeErrorHook id) :: rest := by
  revert h
  fun_cases invokes s l with
  | case1 t id rest hstack =>
    rintro ⟨⟩
    exact ⟨t, rest, rfl, hstack⟩
  | _ => nofun

lemma resets_eq_some (h : resets s l = some id) :
    ∃ t rest, l = .cont t ∧ s.stack t = .cpp (.resetErrorCount id) :: rest := by
  revert h
  fun_cases resets s l with
  | case1 t id rest hstack =>
    rintro ⟨⟩
    exact ⟨t, rest, rfl, hstack⟩
  | _ => nofun

lemma publishes_eq_some (h : publishes s l = some id) : ∃ t vm exitAfterInit rest, l = .cont t ∧
    s.stack t = .cpp (.spawnPublish vm id exitAfterInit) :: rest ∧
      s.registry.contains id = false := by
  revert h
  fun_cases publishes s l with
  | case2 t vm name exitAfterInit rest hstack hfree =>
    rintro ⟨⟩
    exact ⟨t, vm, exitAfterInit, rest, rfl, hstack, by simpa using hfree⟩
  | _ => nofun

lemma errorCounts_moved {r : Registry} (hmove : RegistryMove s l r) (hinvokes : invokes s l = none)
    (hresets : resets s l = none) : r.errorCounts = s.registry.errorCounts := by
  cases hmove with
  | resetErrorCount t id rest hl hstack => simp [hl, resets, hstack] at hresets
  | invokeErrorHook t id vm rest hl hstack => simp [hl, invokes, hstack] at hinvokes
  | _ => rfl

section

variable (h : Spawned s) (hstep : s.step l = some next)
  (hpublishes : publishes s l = some (next.actors.serviceOf vm) → next.registry.services (next.actors.serviceOf vm) ≠ some vm)
include h hstep hpublishes

lemma live_before (hlive : next.registry.services (next.actors.serviceOf vm) = some vm) :
    s.registry.services (s.actors.serviceOf vm) = some vm ∧
      next.actors.serviceOf vm = s.actors.serviceOf vm := by
  have hold : ∀ id, s.registry.services id = some vm → next.actors.serviceOf vm = id →
      s.registry.services (s.actors.serviceOf vm) = some vm ∧
        next.actors.serviceOf vm = s.actors.serviceOf vm := by
    intro id hservice hid
    have hname := (h.services id vm hservice).serviceOf
    rw [hname, hid]
    exact ⟨hservice, rfl⟩
  obtain ⟨id, hid⟩ : ∃ id, next.actors.serviceOf vm = id := ⟨_, rfl⟩
  rw [hid] at hpublishes hlive
  rcases (step_moved hstep).services id vm hlive with hservice | hpublished
  · exact hold id hservice hid
  obtain ⟨t, exitAfterInit, rest, hl, hstack, -⟩ := hpublished
  obtain ⟨rfl, hcase⟩ := cpp_step hstep hl hstack (by simp) (by simp)
  cases hcase with
  | publish vm id exitAfterInit hfree =>
    exact absurd hlive (hpublishes (by simp [publishes, hstack, hfree]))
  | conflict vm id =>
    -- the conflict leaves the services as they are
    exact hold id hlive hid

lemma live_same (hcount : s.registry.services (s.actors.serviceOf vm) = some vm →
      next.registry.errorCounts (s.actors.serviceOf vm) =
        s.registry.errorCounts (s.actors.serviceOf vm)) :
    next.registry.services (next.actors.serviceOf vm) = some vm →
      s.registry.services (s.actors.serviceOf vm) = some vm ∧
        next.registry.errorCounts (next.actors.serviceOf vm) =
          s.registry.errorCounts (s.actors.serviceOf vm) := by
  intro hlive
  obtain ⟨hold, hname⟩ := live_before h hstep hpublishes hlive
  rw [hname]
  exact ⟨hold, hcount hold⟩

end

variable {frame : Frame} {frames : List Frame}

lemma ready_of_mem (h : Spawned s) (hmem : frame ∈ s.stack (.actor vm)) :
    s.actors.ready vm = true := by
  cases hready : s.actors.ready vm with
  | true => rfl
  | false =>
    rw [h.idle vm hready] at hmem
    cases hmem

lemma serviceOf_of_mem (h : Spawned s) (hmoved : Moved s l next)
    (hmem : frame ∈ s.stack (.actor vm)) : next.actors.serviceOf vm = s.actors.serviceOf vm := by
  obtain ⟨name, hnamed⟩ := h.ready vm (ready_of_mem h hmem)
  exact hmoved.serviceOf_eq hnamed

lemma ReportFits.mono {a a' : Actors V}
    (hname : ∀ vm, t = .actor vm → a'.serviceOf vm = a.serviceOf vm) (h : ReportFits a t frame) :
    ReportFits a' t frame := by
  have hown : ∀ {id}, (∃ vm, t = .actor vm ∧ a.serviceOf vm = id) →
      ∃ vm, t = .actor vm ∧ a'.serviceOf vm = id := by
    rintro id ⟨vm, ht, hid⟩
    exact ⟨vm, ht, (hname vm ht).trans hid⟩
  cases frame with
  | scope => trivial
  | lua vm entry =>
    cases entry with
    | onError => exact ⟨h.1, (hname vm h.1).trans h.2⟩
    | onPanic => exact h
    | _ => trivial
  | cpp cont =>
    cases cont with
    | invokeErrorHook | resetErrorCount => exact hown h
    | _ => trivial

lemma ReportFits.moved (h : Spawned s) (hmoved : Moved s l next) (hmem : frame ∈ s.stack t)
    (hfits : ReportFits s.actors t frame) : ReportFits next.actors t frame := by
  apply hfits.mono
  rintro vm rfl
  exact serviceOf_of_mem h hmoved hmem

lemma mem_callbacks (h : frame ∈ callbacks frames) : frame ∈ frames :=
  List.mem_of_mem_filter h

lemma Entered.fits (h : Entered frames) (a : Actors V) (t : Thread) :
    ∀ frame ∈ callbacks frames, ReportFits a t frame := by
  intro frame hmem
  obtain ⟨hsingle, hphase⟩ := h
  have hone : callbacks frames = [frame] := by
    cases hcallbacks : callbacks frames with
    | nil =>
      rw [hcallbacks] at hmem
      cases hmem
    | cons top rest =>
      rw [hcallbacks] at hmem hsingle
      have hrest : rest = [] := List.eq_nil_of_length_eq_zero (by simpa using hsingle)
      subst hrest
      rw [List.mem_singleton.mp hmem]
  rw [hone] at hphase
  cases frame with
  | scope => trivial
  | lua vm entry =>
    cases entry with
    | onError | onPanic => cases hphase
    | _ => trivial
  | cpp cont =>
    cases cont with
    | invokeErrorHook | resetErrorCount => cases hphase
    | _ => trivial

lemma phaseAt_eq (h : callbacks (s.stack (.actor vm)) = frames) :
    phaseAt s vm = phaseOf frames := by
  rw [phaseAt, h]

lemma append_report_cont (s : State V) (t : Thread) (reports : List (Report Instance)) :
    reports ++ (report s (.cont t)).toList = reports := List.append_nil reports

lemma ending_api (h : ending s l = some (t, vm, entry, outcome)) :
    invokes s l = none ∧ resets s l = none ∧ publishes s l = none := by
  cases l with
  | api => exact ⟨rfl, rfl, rfl⟩
  | _ => cases h

lemma report_eq (h : ending s l = some (t, vm, entry, outcome)) :
    report s l = outcomeReport vm entry outcome := by
  simp [report, h]

lemma subject_outcomeReport {r : Report Instance} (h : r ∈ outcomeReport vm entry outcome) :
    r.subject = vm := by
  unfold outcomeReport at h
  split at h <;> cases h <;> rfl

lemma Tallied.callbacks_top (h : Tallied reports s) {top : Frame}
    (hstack : s.stack t = top :: rest) (htop : isCallback top = true) :
    callbacks (s.stack t) = [top] ∧ callbacks rest = [] := by
  have hsingle := h.single t
  rw [hstack, callbacks_cons_of htop] at hsingle ⊢
  have hrest : callbacks rest = [] := List.eq_nil_of_length_eq_zero (by simpa using hsingle)
  exact ⟨by rw [hrest], hrest⟩

variable (h : Tallied reports s) (hstep : s.step l = some next)

include h hstep

lemma Tallied.tally_other (hpublishes : publishes s l = some (next.actors.serviceOf vm) →
      next.registry.services (next.actors.serviceOf vm) ≠ some vm)
    (hcount : s.registry.services (s.actors.serviceOf vm) = some vm →
      next.registry.errorCounts (s.actors.serviceOf vm) =
        s.registry.errorCounts (s.actors.serviceOf vm))
    (hphase : phaseAt next vm = phaseAt s vm) (hreport : ∀ r ∈ report s l, r.subject ≠ vm) :
    Tally next vm (phaseAt next vm) (reports ++ (report s l).toList) := by
  have hsame := (h.tally vm).same (live_same h.spawned hstep hpublishes hcount)
  rw [hphase]
  cases hr : report s l with
  | none =>
    rw [Option.toList_none, List.append_nil]
    exact hsame
  | some r => exact hsame.other (hreport r hr)

lemma Tallied.acting
    (hsingle : ∀ t, actingThread l = some t → (callbacks (next.stack t)).length ≤ 1)
    (hhome : ∀ t, actingThread l = some t →
      ∀ frame ∈ callbacks (next.stack t), ReportFits next.actors t frame)
    (hfailed : ∀ vm, report s l = some (.failed vm) → s.actors.ready vm = true)
    (htally : ∀ vm, Tally next vm (phaseAt next vm) (reports ++ (report s l).toList)) :
    Tallied (reports ++ (report s l).toList) next := by
  have hmoved := step_moved hstep
  refine ⟨spawned_moved h.spawned hmoved, ?_, ?_, ?_, htally⟩
  · intro t
    by_cases hl : actingThread l = some t
    · exact hsingle t hl
    · rw [hmoved.others t hl]
      exact h.single t
  · intro t frame hmem
    by_cases hl : actingThread l = some t
    · exact hhome t hl frame hmem
    · rw [hmoved.others t hl] at hmem
      exact (h.home t frame hmem).moved h.spawned hmoved (mem_callbacks hmem)
  · intro vm hready
    have hbefore : s.actors.ready vm = false := by
      cases hold : s.actors.ready vm with
      | false => rfl
      | true =>
        rw [hmoved.readyMono vm hold] at hready
        cases hready
    have hzero := h.fresh vm hbefore
    cases hr : report s l with
    | none => simpa using hzero
    | some r =>
      by_cases hsubject : r.subject = vm
      · cases r with
        | failed i =>
          have hi : i = vm := hsubject
          subst hi
          rw [hfailed i hr] at hbefore
          cases hbefore
        | succeeded i =>
          have hi : i = vm := hsubject
          subst hi
          exact streak_succeeded i reports
        | stopped i => exact (streak_stopped vm i reports).trans hzero
      · exact (streak_other hsubject reports).trans hzero

lemma Tallied.callbacks_quiet (hending : ending s l = none) (hinvokes : invokes s l = none)
    (hresets : resets s l = none) (hl : actingThread l = some t) : callbacks (next.stack t) = callbacks (s.stack t) ∨
      (Entered (next.stack t) ∧ phaseOf (callbacks (s.stack t)) = .quiet) := by
  have hpopped : ∀ {top rest}, s.stack t = top :: rest → isCallback top = false →
      ∀ s' : State V, callbacks ((s'.setStack t rest).stack t) = callbacks (s.stack t) := by
    intro top rest hstack htop s'
    rw [callbacks_setStack, hstack, callbacks_cons_of_not htop]
  cases step_case hstep with
  | coroutine t' vm co source rest op next hstack hcase =>
    cases hl
    rcases callbacks_coroutineCase hstack hcase with hsame | hrest
    · exact .inl hsame
    cases source with
    | dispatch =>
      obtain ⟨htop, hnil⟩ := h.callbacks_top hstack rfl
      rw [htop]
      exact .inr ⟨entered_of_eq_nil (hrest.trans hnil), rfl⟩
    | _ =>
      left
      rw [hrest, hstack, callbacks_cons_of_not rfl]
  | api t' vm entry rest op next hstack hcan hcase =>
    cases hl
    have hends : ¬ Ends t (.api t op) := by
      intro hends
      cases op with
      | ret | raise => simp [ending, hstack] at hending
      | _ => exact hends
    exact .inl (callbacks_apiCase hstack hcase hends)
  | cpp t' cont rest next hstack hcase =>
    cases hl
    have hcont : isCallback (.cpp cont) = false := by
      cases cont with
      | invokeErrorHook => simp [invokes, hstack] at hinvokes
      | resetErrorCount => simp [resets, hstack] at hresets
      | _ => rfl
    exact .inl (callbacks_cppCase hstack hcase hcont)
  | scope t' frame rest hstack | loadFails t' name rest hstack =>
    cases hl
    exact .inl (hpopped hstack rfl s)
  | receive i look mail mails next hready hstack hmailbox hcase =>
    cases hl
    rw [hstack]
    exact .inr ⟨mailCase_entered (s := taken s i mails) hstack hcase, rfl⟩
  | wake t' session rest hstack | giveUp t' session rest hstack =>
    cases hl
    exact .inl (hpopped hstack rfl _)
  | command n command next hstack hcase =>
    cases hl
    rw [hstack]
    exact .inl (callbacks_commandCase hstack hcase)
  | _ => cases hl

lemma Tallied.quiet
    (hquiet : ∀ t, actingThread l = some t → callbacks (next.stack t) = callbacks (s.stack t) ∨
      (Entered (next.stack t) ∧ phaseOf (callbacks (s.stack t)) = .quiet)) :
    (∀ t, actingThread l = some t → (callbacks (next.stack t)).length ≤ 1) ∧
      (∀ t, actingThread l = some t →
        ∀ frame ∈ callbacks (next.stack t), ReportFits next.actors t frame) ∧
      ∀ vm, phaseAt next vm = phaseAt s vm := by
  have hmoved := step_moved hstep
  refine ⟨?_, ?_, ?_⟩
  · intro t hl
    rcases hquiet t hl with hsame | ⟨hentered, -⟩
    · rw [hsame]
      exact h.single t
    · exact hentered.single
  · intro t hl frame hmem
    rcases hquiet t hl with hsame | ⟨hentered, -⟩
    · rw [hsame] at hmem
      exact (h.home t frame hmem).moved h.spawned hmoved (mem_callbacks hmem)
    · exact hentered.fits _ t frame hmem
  · intro vm
    unfold phaseAt
    by_cases hl : actingThread l = some (.actor vm)
    · rcases hquiet _ hl with hsame | ⟨hentered, hphase⟩
      · rw [hsame]
      · rw [hentered.phase, hphase]
    · rw [hmoved.others _ hl]

lemma Tallied.publish (hpublishes : publishes s l = some id)
    (hzero : s.registry.errorCounts id = 0) : Tallied (reports ++ (report s l).toList) next := by
  obtain ⟨t, vm, exitAfterInit, rest, rfl, hstack, hfree⟩ := publishes_eq_some hpublishes
  have hmoved := step_moved hstep
  have hinvokes : invokes s (.cont t) = none := by simp [invokes, hstack]
  have hresets : resets s (.cont t) = none := by simp [resets, hstack]
  have hcounts := errorCounts_moved (step_registry hstep) hinvokes hresets
  obtain ⟨hsingle, hhome, hphase⟩ :=
    h.quiet hstep fun _ => h.callbacks_quiet hstep rfl hinvokes hresets
  have hnamed : Named s.actors vm id := h.spawned.top hstack
  have hname : next.actors.serviceOf vm = id := (hmoved.named vm id hnamed).serviceOf
  have hservice : next.registry.services id = some vm := by
    cases step_cpp hstack hstep with
    | conflict vm id exitAfterInit htaken => simp [hfree] at htaken
    | publish => exact Function.update_self _ _ _
  refine h.acting hstep hsingle hhome (by simp [report, ending]) ?_
  intro vm'
  by_cases hvm : vm' = vm
  · subst hvm
    have hready := h.spawned.spawning t vm' (mem_tokens_top hstack rfl)
    have hquiet : phaseAt s vm' = .quiet := by
      unfold phaseAt
      rw [h.spawned.idle vm' hready]
      rfl
    have htally := h.tally vm'
    rw [hquiet] at htally
    unfold Tally
    rw [hphase, hquiet, hname, hcounts, hzero, append_report_cont]
    exact htally.start (h.fresh vm' hready)
  · apply h.tally_other hstep _ _ (hphase vm') (by simp [report, ending])
    · intro hpublished
      rw [hpublishes] at hpublished
      rw [← Option.some.inj hpublished, hservice]
      simpa using Ne.symm hvm
    · intro _
      rw [hcounts]

lemma Tallied.at_actor (hl : actingThread l = some (.actor vm)) (hpublishes : publishes s l = none)
    (hnext : callbacks (next.stack (.actor vm)) = frames) (hsingle : frames.length ≤ 1)
    (hhome : ∀ frame ∈ frames, ReportFits next.actors (.actor vm) frame)
    (hcount : ∀ vm', vm' ≠ vm → s.registry.services (s.actors.serviceOf vm') = some vm' →
      next.registry.errorCounts (s.actors.serviceOf vm') =
        s.registry.errorCounts (s.actors.serviceOf vm'))
    (hreport : ∀ r ∈ report s l, r.subject = vm) (hnonempty : s.stack (.actor vm) ≠ [])
    (htally : Tally next vm (phaseOf frames) (reports ++ (report s l).toList)) :
    Tallied (reports ++ (report s l).toList) next := by
  subst hnext
  refine h.acting hstep ?_ ?_ ?_ ?_
  · intro t ht
    cases hl.symm.trans ht
    exact hsingle
  · intro t ht
    cases hl.symm.trans ht
    exact hhome
  · intro vm' hfailed
    have hvm : vm' = vm := hreport (.failed vm') hfailed
    obtain ⟨frame, hmem⟩ := List.exists_mem_of_ne_nil _ hnonempty
    exact hvm ▸ ready_of_mem h.spawned hmem
  · intro vm'
    by_cases hvm : vm' = vm
    · exact hvm ▸ htally
    refine h.tally_other hstep (by simp [hpublishes]) (hcount vm' hvm) ?_ ?_
    · unfold phaseAt
      rw [(step_moved hstep).others _ (by simpa [hl] using Ne.symm hvm)]
    · intro r hr
      rw [hreport r hr]
      exact Ne.symm hvm

lemma Tallied.invoke (hinvokes : invokes s l = some id)
    (hgood : (s.registry.services id).map .actor = actingThread l) :
    Tallied (reports ++ (report s l).toList) next := by
  obtain ⟨t, rest, rfl, hstack⟩ := invokes_eq_some hinvokes
  obtain ⟨vm, hservice, ht⟩ := Option.map_eq_some_iff.mp hgood
  subst ht
  have hname := (h.spawned.services id vm hservice).serviceOf
  obtain ⟨hcallback, hrest⟩ := h.callbacks_top hstack rfl
  obtain ⟨hactors, hcounts, hnext⟩ : next.actors = s.actors ∧
      next.registry.errorCounts =
        Function.update s.registry.errorCounts id (s.registry.errorCounts id + 1) ∧
      callbacks (next.stack (.actor vm)) = [.lua vm (.onError id)] := by
    cases step_cpp hstack hstep with
    | noErrorHook id hnone => simp [hnone] at hservice
    | invokeErrorHook id vm' hservice' =>
      cases hservice.symm.trans hservice'
      refine ⟨rfl, rfl, ?_⟩
      rw [callbacks_setStack, callbacks_cons_of rfl, hrest]
  refine h.at_actor hstep rfl (by simp [publishes, hstack]) hnext (le_refl 1) ?_ ?_
    (by simp [report, ending]) (by simp [hstack]) ?_
  · intro frame hmem
    rw [List.mem_singleton.mp hmem]
    exact ⟨rfl, hactors ▸ hname⟩
  · intro vm' hvm hlive
    have hid : s.actors.serviceOf vm' ≠ id := by
      intro hid
      rw [hid, hservice] at hlive
      exact hvm (Option.some.inj hlive).symm
    rw [hcounts, Function.update_of_ne hid]
  · have htally := h.tally vm
    rw [phaseAt_eq hcallback] at htally
    rw [append_report_cont]
    apply htally.count_failure
    intro _
    rw [hactors, hcounts, hname, Function.update_self]
    exact ⟨hservice, rfl⟩

lemma Tallied.reset (hresets : resets s l = some id)
    (hgood : ∀ vm ∈ s.registry.services id, actingThread l = some (.actor vm)) :
    Tallied (reports ++ (report s l).toList) next := by
  obtain ⟨t, rest, rfl, hstack⟩ := resets_eq_some hresets
  obtain ⟨hcallback, hrest⟩ := h.callbacks_top hstack rfl
  obtain ⟨vm, rfl, hname⟩ : ∃ vm, t = .actor vm ∧ s.actors.serviceOf vm = id :=
    h.home t (.cpp (.resetErrorCount id)) (by simp [hcallback])
  obtain ⟨hactors, hservices, hcounts, hnext⟩ : next.actors = s.actors ∧
      next.registry.services = s.registry.services ∧
      next.registry.errorCounts = Function.update s.registry.errorCounts id 0 ∧
      callbacks (next.stack (.actor vm)) = [] := by
    cases step_cpp hstack hstep
    refine ⟨rfl, rfl, rfl, ?_⟩
    rw [callbacks_setStack, hrest]
  refine h.at_actor hstep rfl (by simp [publishes, hstack]) hnext (Nat.zero_le 1) (by simp) ?_
    (by simp [report, ending]) (by simp [hstack]) ?_
  · intro vm' hvm hlive
    have hid : s.actors.serviceOf vm' ≠ id := by
      intro hid
      rw [hid] at hlive
      have hsame := hgood vm' hlive
      simp only [actingThread, Option.some.injEq, Thread.actor.injEq] at hsame
      exact hvm hsame.symm
    rw [hcounts, Function.update_of_ne hid]
  · have htally := h.tally vm
    rw [phaseAt_eq hcallback] at htally
    rw [append_report_cont]
    apply htally.reset
    rw [hactors, hcounts, hservices, hname, Function.update_self]
    exact fun hlive => ⟨hlive, rfl⟩

lemma Tallied.ended_same (hending : ending s l = some (t, vm, entry, outcome)) (vm' : Instance) :
    next.registry.services (next.actors.serviceOf vm') = some vm' →
      s.registry.services (s.actors.serviceOf vm') = some vm' ∧
        next.registry.errorCounts (next.actors.serviceOf vm') =
          s.registry.errorCounts (s.actors.serviceOf vm') := by
  obtain ⟨hinvokes, hresets, hpublishes⟩ := ending_api hending
  have hcounts := errorCounts_moved (step_registry hstep) hinvokes hresets
  exact live_same h.spawned hstep (by simp [hpublishes]) fun _ => by rw [hcounts]

lemma Tallied.ended_own (hending : ending s l = some (.actor vm, vm, entry, outcome))
    (htop : isCallback (.lua vm entry) = true)
    (hhome : ∀ frame ∈ followUp s vm entry outcome, ReportFits s.actors (.actor vm) frame)
    (htally : Tally s vm (phaseOf [.lua vm entry]) reports →
      Tally next vm (phaseOf (followUp s vm entry outcome))
        (reports ++ (outcomeReport vm entry outcome).toList)) :
    Tallied (reports ++ (report s l).toList) next := by
  obtain ⟨hl, rest, late, hstack, hnext⟩ := ending_eq_some hending hstep
  obtain ⟨hinvokes, hresets, hpublishes⟩ := ending_api hending
  have hcounts := errorCounts_moved (step_registry hstep) hinvokes hresets
  obtain ⟨hcallback, hrest⟩ := h.callbacks_top hstack htop
  have hfollows : callbacks (next.stack (.actor vm)) = followUp s vm entry outcome := by
    rw [hnext, callbacks_afterLua, hrest, List.append_nil]
  have hmem : .lua vm entry ∈ s.stack (.actor vm) := hstack ▸ List.mem_cons_self
  refine h.at_actor hstep hl hpublishes hfollows
    (by fun_cases followUp s vm entry outcome <;> simp) ?_
    (fun vm' _ _ => by rw [hcounts]) ?_ (by simp [hstack]) ?_
  · intro frame hframe
    apply (hhome frame hframe).mono
    rintro vm' ⟨⟩
    exact serviceOf_of_mem h.spawned (step_moved hstep) hmem
  · rw [report_eq hending]
    exact fun r hr => subject_outcomeReport hr
  · rw [report_eq hending]
    exact htally (phaseAt_eq hcallback ▸ h.tally vm)

lemma Tallied.ended_failed (hending : ending s l = some (t, vm, entry, outcome))
    (htold : t = .actor vm ∧ s.actors.serviceOf vm = id)
    (hreport : outcomeReport vm entry outcome = some (.failed vm))
    (hfollow : followUp s vm entry outcome = [.cpp (.invokeErrorHook id)])
    (htop : isCallback (.lua vm entry) = true) (hphase : phaseOf [.lua vm entry] = .quiet) :
    Tallied (reports ++ (report s l).toList) next := by
  obtain ⟨rfl, hname⟩ := htold
  apply h.ended_own hstep hending htop
  · rw [hfollow]
    intro frame hmem
    rw [List.mem_singleton.mp hmem]
    exact ⟨vm, rfl, hname⟩
  · rw [hfollow, hreport, hphase]
    exact fun htally => htally.fail (h.ended_same hstep hending vm)

lemma Tallied.ended_succeeded {co : Nat} {values : List V}
    (hending : ending s l = some (t, vm, .handler co (.dispatch id), .returned values))
    (htold : t = .actor vm ∧ s.actors.serviceOf vm = id) :
    Tallied (reports ++ (report s l).toList) next := by
  obtain ⟨rfl, hname⟩ := htold
  apply h.ended_own hstep hending rfl
  · intro frame hmem
    rw [List.mem_singleton.mp hmem]
    exact ⟨vm, rfl, hname⟩
  · exact fun htally => htally.succeed maxErrorsBeforePanic_pos

lemma Tallied.ended_onError (hending : ending s l = some (t, vm, .onError id, outcome))
    (hservice : s.registry.services id = some vm) :
    Tallied (reports ++ (report s l).toList) next := by
  obtain ⟨-, rest, late, hstack, -⟩ := ending_eq_some hending hstep
  obtain ⟨hcallback, -⟩ := h.callbacks_top hstack rfl
  obtain ⟨rfl, hname⟩ : t = .actor vm ∧ s.actors.serviceOf vm = id :=
    h.home t (.lua vm (.onError id)) (by simp [hcallback])
  have hlive : s.registry.services (s.actors.serviceOf vm) = some vm := hname ▸ hservice
  have hsame := h.ended_same hstep hending vm
  have hreport : outcomeReport vm (.onError id) outcome = none := by cases outcome <;> rfl
  by_cases hlimit : maxErrorsBeforePanic ≤ s.registry.errorCounts id
  · have hpanics : followUp s vm (.onError id) outcome = [.lua vm (.onPanic id)] := by
      cases outcome <;> simp [followUp, hlimit]
    apply h.ended_own hstep hending rfl
    · rw [hpanics]
      intro frame hmem
      rw [List.mem_singleton.mp hmem]
      rfl
    · rw [hpanics, hreport, Option.toList_none, List.append_nil]
      exact fun htally => (htally.giveUp hlive (hname ▸ hlimit)).same hsame
  · have hpasses : followUp s vm (.onError id) outcome = [] := by
      cases outcome <;> simp [followUp, hlimit]
    apply h.ended_own hstep hending rfl
    · rw [hpasses]
      simp
    · rw [hpasses, hreport, Option.toList_none, List.append_nil]
      exact fun htally => (htally.pass hlive (hname ▸ not_le.mp hlimit)).same hsame

lemma Tallied.ended_onPanic (hending : ending s l = some (t, vm, .onPanic id, outcome)) :
    Tallied (reports ++ (report s l).toList) next := by
  obtain ⟨-, rest, late, hstack, -⟩ := ending_eq_some hending hstep
  obtain ⟨hcallback, -⟩ := h.callbacks_top hstack rfl
  obtain rfl : t = .actor vm := h.home t (.lua vm (.onPanic id)) (by simp [hcallback])
  have hfollow : followUp s vm (.onPanic id) outcome = [] := by cases outcome <;> rfl
  have hreport : outcomeReport vm (.onPanic id) outcome = some (.stopped vm) := by
    cases outcome <;> rfl
  apply h.ended_own hstep hending rfl
  · rw [hfollow]
    simp
  · rw [hfollow, hreport]
    exact fun htally => htally.stop.same (h.ended_same hstep hending vm)

lemma Tallied.ended_untold (hending : ending s l = some (t, vm, entry, outcome))
    (hfollow : followUp s vm entry outcome = [])
    (hphase : isCallback (.lua vm entry) = true → phaseOf [.lua vm entry] = .quiet)
    (hreport : outcomeReport vm entry outcome = none ∨
      (outcomeReport vm entry outcome = some (.succeeded vm) ∧ Clean s vm)) :
    Tallied (reports ++ (report s l).toList) next := by
  obtain ⟨hl, rest, late, hstack, hnext⟩ := ending_eq_some hending hstep
  have hcallbacks : callbacks (next.stack t) = callbacks rest := by
    rw [hnext, callbacks_afterLua, hfollow, List.nil_append]
  have hquiet : callbacks (next.stack t) = callbacks (s.stack t) ∨
      (Entered (next.stack t) ∧ phaseOf (callbacks (s.stack t)) = .quiet) := by
    cases htop : isCallback (.lua vm entry) with
    | false =>
      left
      rw [hcallbacks, hstack, callbacks_cons_of_not htop]
    | true =>
      obtain ⟨hcallback, hrest⟩ := h.callbacks_top hstack htop
      exact .inr ⟨entered_of_eq_nil (hcallbacks.trans hrest), hcallback ▸ hphase htop⟩
  obtain ⟨hsingle, hhome, hphases⟩ := h.quiet hstep fun t' ht' => by
    cases hl.symm.trans ht'
    exact hquiet
  have hsame := h.ended_same hstep hending
  refine h.acting hstep hsingle hhome ?_ ?_
  · intro vm' hfailed
    rw [report_eq hending] at hfailed
    rcases hreport with hnone | ⟨hsucceeded, -⟩
    · rw [hnone] at hfailed
      cases hfailed
    · rw [hsucceeded] at hfailed
      cases hfailed
  · intro vm'
    rw [report_eq hending, hphases vm']
    have htally := (h.tally vm').same (hsame vm')
    rcases hreport with hnone | ⟨hsucceeded, hclean⟩
    · rw [hnone, Option.toList_none, List.append_nil]
      exact htally
    rw [hsucceeded]
    by_cases hvm : vm' = vm
    · subst hvm
      exact ((h.tally vm').succeed_silently maxErrorsBeforePanic_pos hclean).same (hsame vm')
    · exact htally.other (Ne.symm hvm)

lemma Tallied.ended (hending : ending s l = some (t, vm, entry, outcome))
    (hgood : EndsReported s t vm entry outcome) :
    Tallied (reports ++ (report s l).toList) next := by
  obtain ⟨htold, huntold, hhook⟩ := hgood
  cases entry with
  | handler co source =>
    cases source with
    | dispatch id =>
      cases outcome with
      | returned => exact h.ended_succeeded hstep hending (htold id rfl)
      | raised => exact h.ended_failed hstep hending (htold id rfl) rfl rfl rfl rfl
    | _ =>
      cases outcome with
      | returned =>
        exact h.ended_untold hstep hending rfl (by simp [isCallback])
          (.inr ⟨rfl, (huntold rfl).2 rfl⟩)
      | raised => exact absurd rfl (huntold rfl).1
  | fallback =>
    cases outcome with
    | returned =>
      exact h.ended_untold hstep hending rfl (fun _ => rfl) (.inr ⟨rfl, (huntold rfl).2 rfl⟩)
    | raised => exact absurd rfl (huntold rfl).1
  | onInit | onExit =>
    exact h.ended_untold hstep hending (by cases outcome <;> rfl) (by simp [isCallback])
      (.inl (by cases outcome <;> rfl))
  | onError id => exact h.ended_onError hstep hending (hhook id rfl)
  | onPanic => exact h.ended_onPanic hstep hending
  | timer id | fork id =>
    cases outcome with
    | returned => exact h.ended_untold hstep hending rfl (fun _ => rfl) (.inl rfl)
    | raised => exact h.ended_failed hstep hending (htold id rfl) rfl rfl rfl rfl

lemma Tallied.step (hgood : Reported s l) : Tallied (reports ++ (report s l).toList) next := by
  obtain ⟨hends, hinvoked, hreset, hpublished⟩ := hgood
  cases hending : ending s l with
  | some e =>
    obtain ⟨t, vm, entry, outcome⟩ := e
    exact h.ended hstep hending (hends _ hending)
  | none =>
    cases hinvokes : invokes s l with
    | some id => exact h.invoke hstep hinvokes (hinvoked id hinvokes)
    | none =>
      cases hresets : resets s l with
      | some id => exact h.reset hstep hresets (hreset id hresets)
      | none =>
        cases hpublishes : publishes s l with
        | some id => exact h.publish hstep hpublishes (hpublished id hpublishes)
        | none =>
          have hcounts := errorCounts_moved (step_registry hstep) hinvokes hresets
          obtain ⟨hsingle, hhome, hphase⟩ :=
            h.quiet hstep fun _ => h.callbacks_quiet hstep hending hinvokes hresets
          have hreport : report s l = none := by simp [report, hending]
          refine h.acting hstep hsingle hhome (by simp [hreport]) ?_
          intro vm
          exact h.tally_other hstep (by simp [hpublishes]) (fun _ => by rw [hcounts]) (hphase vm)
            (by simp [hreport])

omit h hstep in
lemma tallied_init : Tallied [] ({} : State V) where
  spawned := spawned_init
  single := fun _ => Nat.zero_le 1
  home := by
    intro t frame hmem
    cases hmem
  fresh := fun _ _ => rfl
  tally := fun vm => .init maxErrorsBeforePanic_pos vm (by simp)

end

def HandlesError : Frame → Prop
  | .cpp (.invokeErrorHook _) | .lua _ (.onError _) | .lua _ (.onPanic _) => True
  | _ => False

lemma handlesError_of_phase {frames : List Frame}
    (h : phaseOf frames = .stopping ∨ phaseOf frames = .failing ∨ phaseOf frames = .counted) :
    ∃ frame ∈ frames, HandlesError frame := by
  unfold phaseOf at h
  split at h
  · exact ⟨_, List.mem_cons_self, trivial⟩
  · exact ⟨_, List.mem_cons_self, trivial⟩
  · exact ⟨_, List.mem_cons_self, trivial⟩
  · simp at h
  · simp at h

/-- As long as all steps are `Reported`, an instance is exited for a panic only if
`kDefaultMaxErrorsBeforePanic` of its callbacks have failed with no success of a handler of it in
between. If they have, it was exited for a panic or its actor is at it, so that the two are the same
whenever the actor is idle. -/
theorem panic_on_streak {labels : List (Label V)} {s : State V}
    (hgood : Admits State.step Reported {} labels) (hrun : run State.step {} labels = some s)
    (vm : Instance) :
    (.stopped vm ∈ observe State.step report {} labels →
        Peaked maxErrorsBeforePanic vm (observe State.step report {} labels)) ∧
      (Peaked maxErrorsBeforePanic vm (observe State.step report {} labels) →
        .stopped vm ∈ observe State.step report {} labels ∨
          ∃ frame ∈ s.stack (.actor vm), HandlesError frame) ∧
      (s.stack (.actor vm) = [] → (.stopped vm ∈ observe State.step report {} labels ↔
        Peaked maxErrorsBeforePanic vm (observe State.step report {} labels))) := by
  have htallied := observe_invariant State.step (fun _ _ _ _ h hgood hstep => h.step hstep hgood)
    tallied_init hgood hrun
  have htally := htallied.tally vm
  have howed : Peaked maxErrorsBeforePanic vm (observe State.step report {} labels) →
      .stopped vm ∈ observe State.step report {} labels ∨
        ∃ frame ∈ s.stack (.actor vm), HandlesError frame := by
    intro hpeaked
    have hhandles : ∀ {phase}, phaseAt s vm = phase →
        phase = .stopping ∨ phase = .failing ∨ phase = .counted →
        ∃ frame ∈ s.stack (.actor vm), HandlesError frame := by
      rintro phase rfl hphase
      obtain ⟨frame, hmem, hframe⟩ := handlesError_of_phase hphase
      exact ⟨frame, mem_callbacks hmem, hframe⟩
    rcases htally.owed hpeaked with hstopped | hphase | ⟨hphase, -⟩
    · exact .inl hstopped
    · exact .inr (hhandles rfl (.inl hphase))
    · exact .inr (hhandles rfl (.inr hphase))
  refine ⟨htally.stopped, howed, ?_⟩
  intro hidle
  refine ⟨htally.stopped, ?_⟩
  intro hpeaked
  rcases howed hpeaked with hstopped | ⟨frame, hmem, -⟩
  · exact hstopped
  · rw [hidle] at hmem
    cases hmem

def failingMessage (i : Instance) : List (Label Nat) :=
  [.command 0 (.send "a" (some [])), .receive i (.function (some 3)),
    .api (.actor i) (.raise false), .cont (.actor i), .api (.actor i) (.ret [])]

def failingMessages (i : Instance) (n : Nat) : List (Label Nat) :=
  (List.replicate n (failingMessage i ++ [.cont (.actor i), .cont (.actor i)])).flatten

def panicRun : List (Label Nat) :=
  spawning "a" ++ failingMessages 0 9 ++ failingMessage 0 ++ [.api (.actor 0) (.ret [])]

lemma run_reached {labels : List (Label Nat)} (h : (run State.step {} labels).isSome = true) :
    run State.step {} labels = some (reached labels) := by
  unfold reached
  obtain ⟨s, hs⟩ := Option.isSome_iff_exists.mp h
  rw [hs]
  rfl

theorem panic_on_streak_ten :
    Report.stopped 0 ∈ observe State.step report {} panicRun ∧
      Peaked maxErrorsBeforePanic 0 (observe State.step report {} panicRun) := by
  have hgood : Admits State.step Reported {} panicRun := by decide +kernel
  have hrun : run State.step {} panicRun = some (reached panicRun) :=
    run_reached (by decide +kernel)
  have hstopped : Report.stopped 0 ∈ observe State.step report {} panicRun := by decide +kernel
  exact ⟨hstopped, (panic_on_streak hgood hrun 0).1 hstopped⟩

def respawnRun : List (Label Nat) :=
  spawning "a" ++ failingMessages 0 9 ++
    [.command 0 (.exit "a"), .cont (.external 0), .api (.external 0) (.ret []),
      .cont (.external 0), .cont (.external 0), .cont (.external 0), .cont (.external 0)] ++
    spawning "a" ++ failingMessage 1 ++ [.api (.actor 1) (.ret [])]

def sleepingSuccessRun : List (Label Nat) :=
  spawning "a" ++ failingMessages 0 1 ++
    [.command 0 (.send "a" (some [])), .receive 0 (.function (some 3)),
      .coroutine (.actor 0) .sleep, .coroutine (.actor 0) .yield, .cont (.actor 0),
      .cont (.actor 0), .tick 1, .receive 0 .missing, .api (.actor 0) (.ret [])]

/-- The second instance is exited for a panic after one failure. A handler that was resumed has
succeeded, and the counter still stands at one. -/
theorem panic_for_earlier_instance :
    run State.step {} respawnRun = some (reached respawnRun) ∧
      Report.stopped 1 ∈ observe State.step report {} respawnRun ∧
      ¬ Peaked maxErrorsBeforePanic 1 (observe State.step report {} respawnRun) ∧
      observe State.step report {} sleepingSuccessRun = [.failed 0, .succeeded 0] ∧
      (reached sleepingSuccessRun).registry.errorCounts "a" = 1 := by
  have hbelow : ∀ before ∈ (observe State.step report {} respawnRun).inits,
      streak 1 before < maxErrorsBeforePanic := by decide +kernel
  refine ⟨run_reached (by decide +kernel), by decide +kernel, ?_, by decide +kernel,
    by decide +kernel⟩
  rintro ⟨before, hbefore, hlimit⟩
  exact absurd hlimit (not_le.mpr (hbelow before ((List.mem_inits _ _).mpr hbefore)))

end ShieldRuntime.Proofs
