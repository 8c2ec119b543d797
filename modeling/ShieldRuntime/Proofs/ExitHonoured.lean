import ShieldRuntime.Proofs.ExitRequests

/-!
# When a call of `shield.exit` is honoured

A request stays with its dispatch frame until the C++ code below looks for it, which then calls
`exit`.
-/

namespace ShieldRuntime.Proofs

open Library Lua

variable {V : Type}

variable {id : ServiceId} {owner : Frame} {t : Thread} {vm : Instance}

inductive LooksFor (a : Actors V) (id : ServiceId) : Frame → Prop where
  | endDispatch : LooksFor a id (.cpp (.endDispatch id))
  | onInit (vm : Instance) (hname : Named a vm id) : LooksFor a id (.lua vm .onInit)

variable {a : Actors V}

lemma LooksFor.mono {a' : Actors V} (h : LooksFor a id owner)
    (hnames : ∀ i name, Named a i name → Named a' i name) : LooksFor a' id owner := by
  cases h with
  | endDispatch => exact .endDispatch
  | onInit vm hname => exact .onInit vm (hnames vm id hname)

/-- Where an exit request stands, from its call to the exit hook. -/
inductive Stage (t : Thread) (id : ServiceId) (note : ExitNote) (below : List Frame)
    (seen : List ExitEvent) (s : ExitState V) : Prop
  | waiting (above) (owner : Frame) (frame)
    (hstack : s.manager.stack t = above ++ owner :: .scope frame :: below)
    (howner : LooksFor s.manager.actors id owner) (hid : frame.serviceId = id)
    (hrequested : frame.exitRequested = true) (hexit : frame.inExit = false)
    (hnote : s.notes t (depth below) = note)
  | passing (top rest) (hstack : s.manager.stack t = top :: rest) (htop : PassesTo id top)
    (hrest : below.length ≤ rest.length) (hheld : s.held t = note)
  | leaving (above frame rest) (hstack : s.manager.stack t = above ++ frame :: rest)
    (hframe : ExitFrame id frame) (hrest : below.length ≤ rest.length)
    (hhook : .hook t id note ∈ seen)
  | done (hhook : .hook t id note ∈ seen) (hleft : .left t id ∈ seen)
  | missed (hmissed : .missed t id ∈ seen)

section Below

variable {s next : State V} {l : Label V} {top : Frame} {above rest frames : List Frame}

lemma requestCurrentExit_append (above rest : List Frame) (howner : ∀ scope, owner ≠ .scope scope) :
    ∃ above', requestCurrentExit (above ++ owner :: rest) = above' ++ owner :: rest ∨
      requestCurrentExit (above ++ owner :: rest) = above' ++ owner :: requestCurrentExit rest := by
  induction above with
  | nil =>
    refine ⟨[], .inr ?_⟩
    cases owner with
    | scope scope => exact absurd rfl (howner scope)
    | lua | cpp => rfl
  | cons frame above ih =>
    obtain ⟨above', h⟩ := ih
    cases frame with
    | scope => exact ⟨_ :: above, .inl rfl⟩
    | lua vm entry =>
      refine ⟨.lua vm entry :: above', ?_⟩
      simpa [requestCurrentExit] using h
    | cpp cont =>
      refine ⟨.cpp cont :: above', ?_⟩
      simpa [requestCurrentExit] using h

lemma stackCase_below (howner : ∀ scope, owner ≠ .scope scope)
    (h : StackCase s next l t top (above ++ owner :: rest) frames) :
    ∃ above', frames = above' ++ owner :: rest ∨
      frames = above' ++ owner :: requestCurrentExit rest := by
  cases h with
  | keep => exact ⟨top :: above, .inl rfl⟩
  | push new => exact ⟨new ++ top :: above, .inl (by simp)⟩
  | request =>
    obtain ⟨above', h⟩ := requestCurrentExit_append above rest howner
    refine ⟨top :: above', ?_⟩
    simpa using h
  | replace new => exact ⟨new ++ above, .inl (by simp)⟩
  | hook | create => exact ⟨_ :: _ :: above, .inl rfl⟩
  | init vm htop new =>
    cases above with
    | nil =>
      refine ⟨new, .inl ?_⟩
      cases owner with
      | scope scope => exact absurd rfl (howner scope)
      | lua | cpp => rfl
    | cons frame above =>
      cases frame with
      | scope => exact ⟨new ++ above, .inl (by simp [State.popScope])⟩
      | lua vm' entry => exact ⟨new ++ .lua vm' entry :: above, .inl (by simp [State.popScope])⟩
      | cpp cont => exact ⟨new ++ .cpp cont :: above, .inl (by simp [State.popScope])⟩

variable {frame : DispatchFrame} {below : List Frame}

lemma requested_any (hid : frame.serviceId = id) (hrequested : frame.exitRequested = true)
    (below : List Frame) :
    (currentScope (.scope frame :: below)).any
      (fun frame => frame.exitRequested && frame.serviceId == id) = true := by
  simp [currentScope, hrequested, hid]

lemma endDispatch_step (hstack : s.stack t = .cpp (.endDispatch id) :: .scope frame :: below)
    (hid : frame.serviceId = id) (hrequested : frame.exitRequested = true)
    (h : s.step l = some next) (hl : actingThread l = some t) :
    l = .cont t ∧ next.stack t = .cpp (.exit id) :: .scope frame :: below := by
  obtain ⟨hcont, hcase⟩ := cpp_step h hl hstack (by simp) (by simp)
  refine ⟨hcont, ?_⟩
  cases hcase with
  | endDispatch id hgoesOn =>
    rw [requested_any hid hrequested below] at hgoesOn
    cases hgoesOn
  | endDispatchExit => simp

lemma onInit_returned (hname : s.actors.serviceOf vm = id) (hid : frame.serviceId = id)
    (hrequested : frame.exitRequested = true) (values : List V) (late : Bool) :
    (s.afterLua t vm .onInit (.scope frame :: below) (.returned values) late).stack t =
      .cpp (.spawnPublish vm id true) :: below := by
  simp [State.afterLua, State.afterInit, State.setStack, hname, requested_any hid hrequested below,
    State.popScope]

end Below

section Stages

variable {s next : ExitState V} {l : ExitLabel V} {note : ExitNote} {below : List Frame}
  {seen : List ExitEvent} {above rest : List Frame} {frame : DispatchFrame}

section

variable (hstep : s.step l = some next) (hkept : ¬ Replaces t (depth below + 1) s l)
  (hstack : s.manager.stack t = above ++ owner :: .scope frame :: below)
  (howner : LooksFor s.manager.actors id owner) (hid : frame.serviceId = id)
  (hrequested : frame.exitRequested = true) (hexit : frame.inExit = false)
  (hnote : s.notes t (depth below) = note)
include hstep hkept hstack howner hid hrequested hexit hnote

lemma waiting_above
    (hnext : ∃ above', next.manager.stack t = above' ++ owner :: .scope frame :: below ∨
      next.manager.stack t = above' ++ owner :: requestCurrentExit (.scope frame :: below)) :
    Stage t id note below seen next := by
  have hsuffix : .scope frame :: below <:+ s.manager.stack t := by
    rw [hstack]
    exact (List.suffix_cons _ _).trans (List.suffix_append _ _)
  have hnote' : next.notes t (depth below) = note := by
    rw [notes_kept hstep (depth_of_suffix hsuffix) hkept, hnote]
  have howner' := howner.mono (step_moved (exit_step hstep).1).named
  obtain ⟨above', heq | heq⟩ := hnext
  · exact .waiting above' owner frame heq howner' hid hrequested hexit hnote'
  · refine .waiting above' owner { frame with exitRequested := true } ?_ howner' hid rfl hexit hnote'
    rw [heq]
    simp [requestCurrentExit, hexit]

lemma requested_step : Stage t id note below (seen ++ (exitEvent s l).toList) next := by
  have hmanager := (exit_step hstep).1
  by_cases hl : actingThread l.label = some t
  · cases above with
    | cons =>
      have hbelow := stackCase_below (by cases howner <;> simp) (stack_case hmanager hl hstack)
      exact waiting_above hstep hkept hstack howner hid hrequested hexit hnote hbelow
    | nil =>
      have hinnermost : s.innermost t = note := by
        rw [ExitState.innermost, hstack]
        cases howner <;> simpa using hnote
      cases howner with
      | endDispatch =>
        obtain ⟨hcont, hnext⟩ := endDispatch_step hstack hid hrequested hmanager hl
        refine .passing _ _ hnext rfl (by simp) ?_
        rw [held_cont hstep hcont, ExitState.heldByCpp, hstack]
        exact hinnermost
      | onInit vm hname =>
        rcases luaTop_cases hmanager hl hstack (by simp) with
          ⟨outcome, late, hends, hnext⟩ | ⟨hcall, -⟩ | ⟨above, hnext⟩
        · cases outcome with
          | returned values =>
            refine .passing (.cpp (.spawnPublish vm id true)) below ?_ rfl le_rfl ?_
            · rw [hnext]
              exact onInit_returned hname.serviceOf hid hrequested values late
            · rw [held_luaEnd hstep hends, ExitState.heldAfterLua, hstack]
              exact hinnermost
          | raised =>
            refine .missed (List.mem_append_right _ ?_)
            simp [exitEvent, hends, luaEnd, hstack, hname.serviceOf]
        · refine absurd ⟨hcall, ?_, ?_⟩ hkept
          · simp [hstack]
          · simpa [hstack, isInExit, currentScope] using hexit
        · have howner : LooksFor s.manager.actors id (.lua vm .onInit) := .onInit vm hname
          exact waiting_above hstep hkept hstack howner hid hrequested hexit hnote ⟨above, .inl hnext⟩
  · have hsame := (step_moved hmanager).others t hl
    exact waiting_above hstep hkept hstack howner hid hrequested hexit hnote
      ⟨above, .inl (hsame.trans hstack)⟩

end

variable (hstep : s.step l = some next)
include hstep

lemma passing_step {top : Frame}
    (hstack : s.manager.stack t = top :: rest) (htop : PassesTo id top)
    (hrest : below.length ≤ rest.length) (hheld : s.held t = note) :
    Stage t id note below (seen ++ (exitEvent s l).toList) next := by
  have hmanager := (exit_step hstep).1
  by_cases hl : actingThread l.label = some t
  · obtain ⟨hcont, hpass⟩ := pass_step hstack htop hmanager hl
    have hheld' : next.held t = note := by
      rw [held_cont hstep hcont, heldByCpp_passing hstack htop, hheld]
    cases hpass with
    | missing hnone =>
      refine .missed (List.mem_append_right _ ?_)
      simp [exitEvent, hcont, hstack, hnone]
    | hook vm hservice hnext =>
      refine .leaving [] _ _ hnext rfl (by simp; omega) (List.mem_append_right _ ?_)
      simp [exitEvent, hcont, hstack, hservice, hheld]
    | taken i htaken =>
      refine .missed (List.mem_append_right _ ?_)
      simp [exitEvent, hcont, hstack, htaken]
    | publish i hfree hnext | ready i hnext => exact .passing _ _ hnext rfl hrest hheld'
  · have hsame := (step_moved hmanager).others t hl
    exact .passing top rest (hsame.trans hstack) htop hrest ((held_others hstep hl).trans hheld)

lemma leaving_step {frame : Frame}
    (hstack : s.manager.stack t = above ++ frame :: rest) (hframe : ExitFrame id frame)
    (hrest : below.length ≤ rest.length) (hhook : .hook t id note ∈ seen) :
    Stage t id note below (seen ++ (exitEvent s l).toList) next := by
  have hmanager := (exit_step hstep).1
  have hhook' : .hook t id note ∈ seen ++ (exitEvent s l).toList := List.mem_append_left _ hhook
  have hscope : ∀ scope, frame ≠ .scope scope := by
    rintro scope rfl
    exact hframe
  by_cases hl : actingThread l.label = some t
  · cases above with
    | cons =>
      obtain ⟨above', hnext | hnext⟩ := stackCase_below hscope (stack_case hmanager hl hstack)
      · exact .leaving above' frame rest hnext hframe hrest hhook'
      · refine .leaving above' frame _ hnext hframe ?_ hhook'
        rwa [length_requestCurrentExit]
    | nil =>
      rcases exitFrame_step hmanager hl hstack hframe with
        ⟨hcont, rfl⟩ | ⟨above, frame', rest', hnext, hframe', hlength⟩
      · refine .done hhook' (List.mem_append_right _ ?_)
        simp [exitEvent, hcont, hstack]
      · exact .leaving above frame' rest' hnext hframe' (hlength ▸ hrest) hhook'
  · have hsame := (step_moved hmanager).others t hl
    exact .leaving above frame rest (hsame.trans hstack) hframe hrest hhook'

theorem stage_step (hkept : ¬ Replaces t (depth below + 1) s l)
    (h : Stage t id note below seen s) :
    Stage t id note below (seen ++ (exitEvent s l).toList) next := by
  cases h with
  | waiting above owner frame hstack howner hid hrequested hexit hnote =>
    exact requested_step hstep hkept hstack howner hid hrequested hexit hnote
  | passing top rest hstack htop hrest hheld => exact passing_step hstep hstack htop hrest hheld
  | leaving above frame rest hstack hframe hrest hhook =>
    exact leaving_step hstep hstack hframe hrest hhook
  | done hhook hleft =>
    exact .done (List.mem_append_left _ hhook) (List.mem_append_left _ hleft)
  | missed hmissed => exact .missed (List.mem_append_left _ hmissed)

end Stages

def outside : Entry → List Frame → List Frame
  | .onInit, rest => rest.drop 1
  | _, rest => rest.drop 2

section

variable {s mid : ExitState V} {entry : Entry} {rest : List Frame}

lemma stage_called (h : Noted s) (hstack : s.manager.stack t = .lua vm entry :: rest)
    (hentry : entry = .onInit ∨ FirstRun entry) {reason : Option String}
    (hcall : s.step ⟨.api t .exit, reason⟩ = some mid) :
    Stage t (s.manager.actors.serviceOf vm) (requestNote s vm rest reason) (outside entry rest) []
        mid ∧
      depth rest = depth (outside entry rest) + 1 ∧
      currentServiceId rest = s.manager.actors.serviceOf vm := by
  obtain ⟨hnext, hactors⟩ := requestExit_step hstack (exit_step hcall).1
  have hshaped := h.ordered.shaped t
  rw [hstack, wellShaped_cons] at hshaped
  obtain ⟨name, hname⟩ := h.spawned.top hstack
  rcases hentry with rfl | hentry
  · obtain ⟨frame, below, rfl, hid, hexit⟩ := hshaped.1
    have hnote := notes_requested hstack hcall (depth_scope frame below) hexit
    refine ⟨.waiting [] _ { frame with exitRequested := true } ?_ (.onInit vm ?_) hid rfl hexit hnote,
      depth_scope frame below, ?_⟩
    · rw [hnext]
      simp [requestCurrentExit, hexit, outside]
    · rw [hactors]
      exact hname.serviceOf ▸ hname
    · simp [currentServiceId, currentScope, hid]
  · have houtside : outside entry rest = rest.drop 2 := by
      cases entry with
      | onInit => exact hentry.elim
      | _ => rfl
    obtain ⟨_, rfl⟩ := (shaped_firstRun hentry).mp hshaped.1
    obtain ⟨frame, below, rfl, hid, hexit⟩ := (wellShaped_cons.mp hshaped.2).1
    rw [houtside]
    have hnote := notes_requested hstack hcall (depth_scope frame below) hexit
    refine ⟨.waiting [.lua vm entry] _ { frame with exitRequested := true } ?_ .endDispatch hid rfl
      hexit hnote, depth_scope frame below, ?_⟩
    · rw [hnext]
      simp [requestCurrentExit, hexit]
    · simp [currentServiceId, currentScope, hid]

lemma left_services {last : ExitState V} {labels : List (ExitLabel V)}
    (hrun : run ExitState.step s labels = some last)
    (h : .left t id ∈ observe ExitState.step exitEvent s labels) :
    ∃ first second out, labels = first ++ second ∧ run ExitState.step s first = some out ∧
      out.manager.registry.services id = none := by
  obtain ⟨first, l, second, before, out, rfl, hfirst, hstep, hevent⟩ := mem_observe _ hrun h
  refine ⟨first ++ [l], second, out, by simp, ?_, ?_⟩
  · refine run_append _ hfirst ?_
    rw [run, hstep]
    rfl
  · have hmanager := (exit_step hstep).1
    revert hevent
    fun_cases exitEvent before l <;> rintro ⟨⟩
    rw [‹l.label = _›] at hmanager
    rw [exitErase_registry ‹_› hmanager]
    simp [Registry.eraseService]

end

/-- A call of `shield.exit` in `on_init` or in the first run of a handler, the last one there, whose
service is found: when the callback is over, `on_exit` of the service has run with the reason, the
service is out of the registry, and no other service has been exited for this call. -/
theorem exit_request_honoured (before after : List (ExitLabel V)) (s mid last : ExitState V)
    (t : Thread) (vm : Instance) (entry : Entry) (rest : List Frame) (reason : Option String)
    (hbefore : run ExitState.step {} before = some s)
    (hstack : s.manager.stack t = .lua vm entry :: rest) (hentry : entry = .onInit ∨ FirstRun entry)
    (hcall : s.step ⟨.api t .exit, reason⟩ = some mid)
    (hafter : run ExitState.step mid after = some last)
    (hkept : Admits ExitState.step (fun s l => ¬ Replaces t (depth rest) s l) mid after)
    (hfound : .missed t (s.manager.actors.serviceOf vm) ∉
      observe ExitState.step exitEvent mid after)
    (hended : (last.manager.stack t).length ≤ (outside entry rest).length) :
    ∃ q : ExitRequest, q.number = s.asked ∧ q.caller = s.manager.actors.serviceOf vm ∧
      .hook t (s.manager.actors.serviceOf vm)
          { reason := ExitState.reasonText reason, request := some q } ∈
        observe ExitState.step exitEvent mid after ∧
      (∃ first second out, after = first ++ second ∧
        run ExitState.step mid first = some out ∧
          out.manager.registry.services (s.manager.actors.serviceOf vm) = none) ∧
      ∀ t' id note,
        .hook t' id note ∈
          observe ExitState.step exitEvent {} (before ++ ⟨.api t .exit, reason⟩ :: after) →
        note.request = some q → id = s.manager.actors.serviceOf vm := by
  have hnoted : Noted s :=
    reachable_invariant _ (fun _ _ _ h hstep => noted_step h hstep) noted_init hbefore
  obtain ⟨hstage, hdepth, hscope⟩ := stage_called hnoted hstack hentry hcall
  refine ⟨⟨s.asked, s.manager.actors.serviceOf vm, currentServiceId rest⟩, rfl, rfl, ?_⟩
  rw [hdepth] at hkept
  have hlast := observe_invariant _ (fun _ _ _ _ h hkept hstep => stage_step hstep hkept h) hstage
    hkept hafter
  have hothers : ∀ t' id note,
      .hook t' id note ∈
        observe ExitState.step exitEvent {} (before ++ ⟨.api t .exit, reason⟩ :: after) →
      note.request = some ⟨s.asked, s.manager.actors.serviceOf vm, currentServiceId rest⟩ →
      id = s.manager.actors.serviceOf vm := by
    intro t' id note hmem hrequest
    have hrun : run ExitState.step {} (before ++ ⟨.api t .exit, reason⟩ :: after) = some last := by
      refine run_append _ hbefore ?_
      rw [run, hcall]
      exact hafter
    rw [← hooks_of_requests hrun hmem _ hrequest]
    exact hscope
  cases hlast with
  | done hhook hleft => exact ⟨hhook, left_services hafter hleft, hothers⟩
  | missed hmissed => exact absurd hmissed hfound
  | waiting above owner frame hstack =>
    rw [hstack] at hended
    simp at hended
    omega
  | passing top rest hstack =>
    rw [hstack, List.length_cons] at hended
    omega
  | leaving above frame rest hstack =>
    rw [hstack, List.length_append, List.length_cons] at hended
    omega

instance (t : Thread) (place : Nat) (s : ExitState Nat) (l : ExitLabel Nat) :
    Decidable (Replaces t place s l) :=
  inferInstanceAs (Decidable (_ ∧ _ ∧ _))

def silent (labels : List (Label Nat)) : List (ExitLabel Nat) := labels.map fun label => { label }

def noted (labels : List (ExitLabel Nat)) : ExitState Nat :=
  (run ExitState.step {} labels).getD {}

def goesOn (t : Thread) (count : Nat) : List (Label Nat) := List.replicate count (.cont t)

def handlerRun : List (ExitLabel Nat) :=
  silent ((spawning "a").append
    [.command 0 (.send "a" (some [])), .receive 0 (.function (some 3))])

def handlerEnds : List (ExitLabel Nat) :=
  silent ((Label.api (.actor 0) (.ret []) :: goesOn (.actor 0) 3).append
    (.api (.actor 0) (.ret []) :: goesOn (.actor 0) 5))

theorem exit_request_honoured_handler :
    ∃ q : ExitRequest, q.caller = "a" ∧
      .hook (.actor 0) "a" { reason := "done", request := some q } ∈
        observe ExitState.step exitEvent (noted (handlerRun.append [⟨.api (.actor 0) .exit, "done"⟩]))
          handlerEnds := by
  obtain ⟨q, -, hcaller, hhook, -⟩ := exit_request_honoured handlerRun handlerEnds
    (noted handlerRun) _ _ (.actor 0) 0 (.handler 3 (.dispatch "a"))
    [.cpp (.endDispatch "a"), .scope { serviceId := "a" }] (some "done")
    rfl rfl (.inr trivial) rfl rfl (by decide) (by decide) (by decide)
  exact ⟨q, hcaller, hhook⟩

def timerExitRun : List (ExitLabel Nat) :=
  (silent ([.command 0 (.spawn "a"), .cont (.external 0), .api (.external 0) (.timer false),
    .api (.external 0) (.ret []), .cont (.external 0), .cont (.external 0), .tick 1,
    .receive 0 .missing])).append
  (⟨.api (.actor 0) .exit, "done"⟩ :: silent [.api (.actor 0) (.ret []), .cont (.actor 0)])

def forkExitRun : List (ExitLabel Nat) :=
  (silent ([.command 0 (.spawn "a"), .cont (.external 0), .api (.external 0) .fork,
    .api (.external 0) (.ret []), .cont (.external 0), .cont (.external 0), .receive 0 .missing])).append
  (⟨.api (.actor 0) .exit, "done"⟩ :: silent [.api (.actor 0) (.ret []), .cont (.actor 0)])

def sleepExitRun : List (ExitLabel Nat) :=
  (handlerRun.append (silent [.coroutine (.actor 0) .sleep, .coroutine (.actor 0) .yield,
    .cont (.actor 0), .cont (.actor 0), .tick 1, .receive 0 .missing])).append
  (⟨.api (.actor 0) .exit, "done"⟩ :: silent [.api (.actor 0) (.ret [])])

def callExitRun : List (ExitLabel Nat) :=
  (silent (((spawning "a").append (spawning "b")).append
    [.command 0 (.send "a" (some [])), .receive 0 (.function (some 3)),
      .coroutine (.actor 0) (.call "b"), .coroutine (.actor 0) (.post []),
      .coroutine (.actor 0) .yield, .cont (.actor 0), .cont (.actor 0),
      .receive 1 (.function (some 4)), .api (.actor 1) (.ret [9])])).append
  (⟨.api (.actor 1) .exit, "done"⟩ ::
    silent ((Label.api (.actor 1) (.ret []) :: goesOn (.actor 1) 3).append
      (.api (.actor 1) (.ret []) :: goesOn (.actor 1) 5)))

/-- The request of a timer callback, of a forked task and of a handler after a sleep is lost. That
of a handler after a call exits the service that has answered. -/
theorem exit_request_lost :
    (∀ labels ∈ [timerExitRun, forkExitRun, sleepExitRun],
      run ExitState.step {} labels = some (noted labels) ∧ (noted labels).asked = 1 ∧
        (noted labels).manager.stack (.actor 0) = [] ∧
        (noted labels).manager.registry.services "a" = some 0 ∧
        observe ExitState.step exitEvent {} labels = []) ∧
    run ExitState.step {} callExitRun = some (noted callExitRun) ∧
      (noted callExitRun).manager.stack (.actor 1) = [] ∧
      (noted callExitRun).manager.registry.services "a" = some 0 ∧
      (noted callExitRun).manager.registry.services "b" = none ∧
      observe ExitState.step exitEvent {} callExitRun =
        [.hook (.actor 1) "b"
            { reason := "done", request := some { number := 0, caller := "a", scope := "b" } },
          .left (.actor 1) "b"] := by
  refine ⟨?_, rfl, rfl, rfl, rfl, by decide⟩
  simp only [List.forall_mem_cons]
  exact ⟨⟨rfl, rfl, rfl, rfl, by decide⟩, ⟨rfl, rfl, rfl, rfl, by decide⟩,
    ⟨rfl, rfl, rfl, rfl, by decide⟩, by simp⟩

end ShieldRuntime.Proofs
