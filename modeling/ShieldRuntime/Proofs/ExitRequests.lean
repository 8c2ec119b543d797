import ShieldRuntime.Proofs.RegistryLiveness

/-!
# What becomes of a call of `shield.exit`

The call marks the innermost dispatch frame, which stands right below what it was made for.
-/

namespace ShieldRuntime.Proofs
open Library Lua

section

variable {V : Type}

variable {s next : State V} {l : Label V} {t : Thread}

/-- The first run of a handler, where `shield.exit` is seen. -/
def FirstRun : Entry → Prop
  | .handler _ (.dispatch _) => True
  | .fallback _ => True
  | _ => False

inductive IdleCase (r : Registry) : List Frame → Prop where
  | plain (new) (hnew : Pushable new) : IdleCase r new
  | task (vm entry id) (hloose : Loose (.lua vm entry)) :
    IdleCase r [.lua vm entry, .scope { serviceId := id }]
  | rejected (id) : IdleCase r [.cpp (.endDispatch id), .scope { serviceId := id }]
  | dispatched (vm entry id) (hentry : FirstRun entry) (hservice : r.services id = some vm) :
    IdleCase r [.lua vm entry, .cpp (.endDispatch id), .scope { serviceId := id }]

theorem idle_case (h : s.step l = some next)
    (hl : actingThread l = some t) (hidle : s.stack t = []) :
    IdleCase s.registry (next.stack t) := by
  have hmove := (step_moved h).stack t hl
  have hleft : ∀ {conts rest}, Left s l t conts rest → rest = [] := by
    intro conts rest hleft
    exact List.suffix_nil.mp (hidle ▸ hleft.suffix)
  generalize next.stack t = frames at hmove
  cases hmove with
  | code frames hcode =>
    cases hcode with
    | shrink conts rest hrest hconts htail =>
      rw [hleft hrest, List.append_nil]
      exact .plain _ (pushable_conts hconts htail)
    | rejected i id => exact .rejected id
    | fallback i vm request _ _ _ hservice => exact .dispatched vm _ _ trivial hservice
    | fired | forked => exact .task _ _ _ trivial
    -- the other moves need a frame on the stack
    | requestExit _ _ _ hstack | report _ _ _ _ hstack | errorHook _ _ _ hstack | panic _ _ _ hstack
    | exit _ _ _ hstack | exitStage _ _ _ _ hstack | initialised _ _ _ hstack
    | published _ _ _ _ hstack => cases hidle.symm.trans hstack
  | create _ _ hstack => cases hidle.symm.trans hstack
  | answer _ _ _ _ _ _ _ _ _ hsource hrest _ hconts =>
    rw [hleft hrest, List.append_nil]
    exact .plain _ (pushable_handler hsource hconts)
  | wake => exact .plain [_] (pushable_singleton trivial)
  | dispatched i vm co _ _ _ hservice => exact .dispatched vm _ _ trivial hservice

def OpensScope (id : ServiceId) (frames : List Frame) : Prop :=
  ∃ frame below, frames = .scope frame :: below ∧ frame.serviceId = id ∧ frame.inExit = false

def OnDispatch (id : ServiceId) (frames : List Frame) : Prop :=
  ∃ below, frames = .cpp (.endDispatch id) :: below

/-- What must lie below a frame that looks for exit requests. -/
def Shaped (a : Actors V) : Frame → List Frame → Prop
  | .cpp (.endDispatch id), rest => OpensScope id rest
  | .lua vm .onInit, rest => OpensScope (a.serviceOf vm) rest
  | .lua vm (.fallback _), rest => OnDispatch (a.serviceOf vm) rest
  | .lua vm (.handler _ (.dispatch _)), rest => OnDispatch (a.serviceOf vm) rest
  | _, _ => True

def WellShaped (a : Actors V) (frames : List Frame) : Prop :=
  ∀ frame rest, frame :: rest <:+ frames → Shaped a frame rest

/-- Continuations stand where they can be reached. -/
structure Ordered (s : State V) : Prop where
  shaped : ∀ t, WellShaped s.actors (s.stack t)
  passing : ∀ t, ∀ frame ∈ (s.stack t).tail, ¬ Passing frame

section

variable {a a' : Actors V} {frame : Frame} {frames rest new : List Frame}

lemma wellShaped_nil : WellShaped a [] := by
  intro frame rest h
  simp at h

lemma wellShaped_cons : WellShaped a (frame :: rest) ↔ Shaped a frame rest ∧ WellShaped a rest :=
  forall_suffix_cons

lemma WellShaped.suffix (h : WellShaped a frames) (hsuffix : rest <:+ frames) : WellShaped a rest :=
  fun frame' rest' hsuffix' => h frame' rest' (hsuffix'.trans hsuffix)

lemma shaped_of_loose (h : Loose frame) : Shaped a frame rest := by
  unfold Loose at h
  split at h
  · exact h.elim
  · exact h.elim
  · exact h.elim
  · exact h.elim
  · exact h.elim
  · rename_i hend hinit hfallback hhandler
    unfold Shaped
    split
    · exact absurd rfl (hend _)
    · exact absurd rfl (hinit _)
    · exact absurd rfl (hfallback _ _)
    · exact absurd rfl (hhandler _ _ _)
    · trivial

lemma WellShaped.push (h : WellShaped a rest) (hnew : ∀ frame ∈ new, Loose frame) :
    WellShaped a (new ++ rest) := by
  induction new with
  | nil => exact h
  | cons frame new ih =>
    rw [List.forall_mem_cons] at hnew
    exact wellShaped_cons.mpr ⟨shaped_of_loose hnew.1, ih hnew.2⟩

lemma shaped_firstRun {vm : Instance} {entry : Entry} (h : FirstRun entry) :
    Shaped a (.lua vm entry) rest ↔ OnDispatch (a.serviceOf vm) rest := by
  unfold FirstRun at h
  split at h
  · rfl
  · rfl
  · exact h.elim

lemma Shaped.requestCurrentExit (h : Shaped a frame rest) :
    Shaped a frame (requestCurrentExit rest) := by
  have hopens : ∀ {id}, OpensScope id rest → OpensScope id (Lua.requestCurrentExit rest) := by
    rintro id ⟨scope, below, rfl, hid, hexit⟩
    refine ⟨{ scope with exitRequested := true }, below, ?_, hid, hexit⟩
    simp [Lua.requestCurrentExit, hexit]
  have hdispatch : ∀ {id}, OnDispatch id rest → OnDispatch id (Lua.requestCurrentExit rest) := by
    rintro id ⟨below, rfl⟩
    exact ⟨_, rfl⟩
  unfold Shaped at h ⊢
  split
  · exact hopens h
  · exact hopens h
  · exact hdispatch h
  · exact hdispatch h
  · trivial

lemma WellShaped.requestCurrentExit (h : WellShaped a frames) :
    WellShaped a (requestCurrentExit frames) := by
  induction frames with
  | nil => exact h
  | cons frame frames ih =>
    obtain ⟨hframe, hrest⟩ := wellShaped_cons.mp h
    cases frame with
    | scope => exact wellShaped_cons.mpr ⟨trivial, hrest⟩
    | lua | cpp => exact wellShaped_cons.mpr ⟨hframe.requestCurrentExit, ih hrest⟩

lemma WellShaped.mono (h : WellShaped a frames)
    (hnames : ∀ vm entry, .lua vm entry ∈ frames → a'.serviceOf vm = a.serviceOf vm) :
    WellShaped a' frames := by
  intro frame rest hsuffix
  have hframe := h frame rest hsuffix
  have hmem : frame ∈ frames := hsuffix.mem List.mem_cons_self
  unfold Shaped at hframe ⊢
  split
  · exact hframe
  · exact hnames _ _ hmem ▸ hframe
  · exact hnames _ _ hmem ▸ hframe
  · exact hnames _ _ hmem ▸ hframe
  · trivial

variable {top : Frame}

lemma wellShaped_stackCase (h : WellShaped next.actors (top :: rest))
    (hcase : StackCase s next l t top rest frames) : WellShaped next.actors frames := by
  have hrest := (wellShaped_cons.mp h).2
  cases hcase with
  | keep => exact h
  | push new hnew => exact h.push hnew.loose
  | request =>
    have htopShaped := (wellShaped_cons.mp h).1
    exact wellShaped_cons.mpr ⟨htopShaped.requestCurrentExit, hrest.requestCurrentExit⟩
  | replace new hnew => exact hrest.push hnew.loose
  | hook =>
    exact wellShaped_cons.mpr ⟨trivial, wellShaped_cons.mpr ⟨trivial, hrest⟩⟩
  | create name htop hends hname =>
    exact wellShaped_cons.mpr ⟨⟨_, _, rfl, hname.symm, rfl⟩, wellShaped_cons.mpr ⟨trivial, hrest⟩⟩
  | init vm htop new hnew => exact (hrest.suffix (popScope_suffix rest)).push hnew.loose

variable {r : Registry}

lemma wellShaped_idleCase (hservices : ∀ id vm, r.services id = some vm → a.serviceOf vm = id)
    (hcase : IdleCase r frames) : WellShaped a frames := by
  have hscope : ∀ id : ServiceId, WellShaped a [.scope { serviceId := id }] :=
    fun id => wellShaped_cons.mpr ⟨trivial, wellShaped_nil⟩
  have hdispatch : ∀ id : ServiceId,
      WellShaped a [.cpp (.endDispatch id), .scope { serviceId := id }] :=
    fun id => wellShaped_cons.mpr ⟨⟨_, _, rfl, rfl, rfl⟩, hscope id⟩
  cases hcase with
  | plain new hnew => simpa using wellShaped_nil.push (a := a) hnew.loose
  | task vm entry id hloose => exact wellShaped_cons.mpr ⟨shaped_of_loose hloose, hscope id⟩
  | rejected id => exact hdispatch id
  | dispatched vm entry id hentry hservice =>
    refine wellShaped_cons.mpr ⟨(shaped_firstRun hentry).mpr ?_, hdispatch id⟩
    rw [hservices id vm hservice]
    exact ⟨_, rfl⟩

lemma not_passing_requestCurrentExit (h : ∀ frame ∈ frames, ¬ Passing frame) :
    ∀ frame ∈ requestCurrentExit frames, ¬ Passing frame := by
  intro frame hmem hpassing
  have hscope : ∀ scope, frame ≠ .scope scope := by
    rintro scope rfl
    exact hpassing
  exact h frame ((mem_requestCurrentExit hscope).mp hmem) hpassing

lemma not_passing_push (hrest : ∀ frame ∈ rest, ¬ Passing frame) (hnew : Pushable new) :
    ∀ frame ∈ (new ++ rest).tail, ¬ Passing frame := by
  cases new with
  | nil => exact fun frame h => hrest frame (List.mem_of_mem_tail h)
  | cons =>
    intro frame h
    rcases List.mem_append.mp h with h | h
    · exact hnew.passing frame h
    · exact hrest frame h

lemma not_passing_stackCase (h : ∀ frame ∈ rest, ¬ Passing frame)
    (hcase : StackCase s next l t top rest frames) : ∀ frame ∈ frames.tail, ¬ Passing frame := by
  cases hcase with
  | keep => exact h
  | push new hnew hlua =>
    obtain ⟨vm, entry, rfl⟩ := hlua
    exact not_passing_push (List.forall_mem_cons.mpr ⟨id, h⟩) hnew
  | request => exact not_passing_requestCurrentExit h
  | replace new hnew => exact not_passing_push h hnew
  | hook | create => exact List.forall_mem_cons.mpr ⟨id, h⟩
  | init vm htop new hnew =>
    exact not_passing_push (fun frame hmem => h frame ((popScope_suffix rest).mem hmem)) hnew

lemma not_passing_idleCase (hcase : IdleCase r frames) :
    ∀ frame ∈ frames.tail, ¬ Passing frame := by
  cases hcase with
  | plain new hnew => exact hnew.passing
  | _ => simp [Passing]

end

theorem ordered_step (hspawned : Spawned s) (h : Ordered s) (hstep : s.step l = some next) :
    Ordered next := by
  have hmoved := step_moved hstep
  have hkept : ∀ t, WellShaped next.actors (s.stack t) := by
    intro t
    refine (h.shaped t).mono fun vm entry hmem => ?_
    obtain ⟨name, hname⟩ := hspawned.frames t _ hmem
    exact hmoved.serviceOf_eq hname
  have hservices : ∀ id vm, s.registry.services id = some vm → next.actors.serviceOf vm = id := by
    intro id vm hservice
    exact (hmoved.named vm id (hspawned.services id vm hservice)).serviceOf
  have hthread : ∀ t, WellShaped next.actors (next.stack t) ∧
      ∀ frame ∈ (next.stack t).tail, ¬ Passing frame := by
    intro t
    by_cases hl : actingThread l = some t
    · cases hstack : s.stack t with
      | nil =>
        have hcase := idle_case hstep hl hstack
        exact ⟨wellShaped_idleCase hservices hcase, not_passing_idleCase hcase⟩
      | cons =>
        have hcase := stack_case hstep hl hstack
        have hrest := h.passing t
        rw [hstack] at hrest
        exact ⟨wellShaped_stackCase (hstack ▸ hkept t) hcase, not_passing_stackCase hrest hcase⟩
    · rw [hmoved.others t hl]
      exact ⟨hkept t, h.passing t⟩
  exact ⟨fun t => (hthread t).1, fun t => (hthread t).2⟩

end

variable {V : Type}

section Steps

variable {s next : ExitState V} {l : ExitLabel V} {t : Thread}

lemma exit_step (h : s.step l = some next) :
    s.manager.step l.label = some next.manager ∧
      (next.notes = (s.moved next.manager).notes ∨
        ∃ t vm entry rest, l.label = .api t .exit ∧ s.manager.stack t = .lua vm entry :: rest ∧
          next = (s.moved next.manager).requestCurrentExit t vm rest l.reason) := by
  obtain ⟨m, hm, rfl⟩ := Option.map_eq_some_iff.mp h
  split
  · rename_i t hl
    split
    · rename_i vm entry rest hstack
      exact ⟨hm, .inr ⟨t, vm, entry, rest, hl, hstack, rfl⟩⟩
    · exact ⟨hm, .inl rfl⟩
  all_goals exact ⟨hm, .inl rfl⟩

/-- The reasons stand beside the manager: without them, a run is a run of the manager. -/
theorem run_manager {labels : List (ExitLabel V)} (h : run ExitState.step s labels = some next) :
    run State.step s.manager (labels.map ExitLabel.label) = some next.manager := by
  induction labels generalizing s with
  | nil => cases h; rfl
  | cons l labels ih =>
    obtain ⟨mid, hstep, hrest⟩ := run_cons _ h
    rw [List.map_cons, run, (exit_step hstep).1]
    exact ih hrest

@[simp] lemma depth_lua (vm : Instance) (entry : Entry) (rest : List Frame) :
    depth (.lua vm entry :: rest) = depth rest := rfl

@[simp] lemma depth_cpp (cont : Cont) (rest : List Frame) :
    depth (.cpp cont :: rest) = depth rest := rfl

@[simp] lemma depth_scope (frame : DispatchFrame) (rest : List Frame) :
    depth (.scope frame :: rest) = depth rest + 1 := List.countP_cons_of_pos rfl

@[simp] lemma depth_append (frames rest : List Frame) :
    depth (frames ++ rest) = depth frames + depth rest := List.countP_append

/-- A later `shield.exit` in the same dispatch. -/
def Replaces (t : Thread) (place : Nat) (s : ExitState V) (l : ExitLabel V) : Prop :=
  l.label = .api t .exit ∧ depth (s.manager.stack t) = place ∧
    isInExit (s.manager.stack t) = false

variable {i : Nat} {vm : Instance} {entry : Entry} {rest : List Frame}

lemma requestCurrentExit_notes (s : ExitState V) (t' : Thread) (vm : Instance) (rest : List Frame)
    (reason : Option String) (h : ¬(t' = t ∧ depth rest = i + 1 ∧ isInExit rest = false)) :
    (s.requestCurrentExit t' vm rest reason).notes t i = s.notes t i := by
  simp only [ExitState.requestCurrentExit]
  split
  · rfl
  rename_i hframe
  rw [not_or, Bool.not_eq_true] at hframe
  by_cases ht : t = t'
  · subst ht
    have hi : i ≠ depth rest - 1 := by
      rintro rfl
      exact h ⟨rfl, by omega, hframe.2⟩
    rw [Function.update_self, Function.update_of_ne hi]
  · rw [Function.update_of_ne ht]

lemma notes_kept (h : s.step l = some next) (hold : i < depth (s.manager.stack t))
    (hkept : ¬Replaces t (i + 1) s l) : next.notes t i = s.notes t i := by
  have hmoved : (s.moved next.manager).notes t i = s.notes t i :=
    if_neg fun hnew => absurd hnew.1 (Nat.not_le.mpr hold)
  rcases (exit_step h).2 with hnotes | ⟨t', vm, entry, rest, hl, hstack, hnext⟩
  · rw [hnotes, hmoved]
  rw [hnext, requestCurrentExit_notes, hmoved]
  rintro ⟨rfl, hdepth, hexit⟩
  refine hkept ⟨hl, ?_, ?_⟩
  · rw [hstack, depth_lua, hdepth]
  · rw [hstack]
    exact hexit

lemma notes_fresh (h : s.step l = some next) (hnew : depth (s.manager.stack t) ≤ i)
    (hi : i < depth (next.manager.stack t)) : next.notes t i = {} := by
  have hmoved : (s.moved next.manager).notes t i = {} := if_pos ⟨hnew, hi⟩
  rcases (exit_step h).2 with hnotes | ⟨t', vm, entry, rest, hl, hstack, hnext⟩
  · rw [hnotes, hmoved]
  rw [hnext, requestCurrentExit_notes, hmoved]
  rintro ⟨rfl, hdepth, -⟩
  rw [hstack, depth_lua] at hnew
  omega

def requestNote (s : ExitState V) (vm : Instance) (rest : List Frame) (reason : Option String) :
    ExitNote where
  reason := ExitState.reasonText reason
  request := some {
    number := s.asked
    caller := s.manager.actors.serviceOf vm
    scope := currentServiceId rest }

lemma requestExit_step {s next : State V} (hstack : s.stack t = .lua vm entry :: rest)
    (h : s.step (.api t .exit) = some next) :
    next.stack t = .lua vm entry :: requestCurrentExit rest ∧ next.actors = s.actors := by
  cases step_api hstack h
  exact ⟨by simp, rfl⟩

lemma notes_requested {reason : Option String} (hstack : s.manager.stack t = .lua vm entry :: rest)
    (h : s.step ⟨.api t .exit, reason⟩ = some next) {place : Nat} (hdepth : depth rest = place + 1)
    (hexit : isInExit rest = false) : next.notes t place = requestNote s vm rest reason := by
  have hactors := (requestExit_step hstack (exit_step h).1).2
  have hnext : next = (s.moved next.manager).requestCurrentExit t vm rest reason := by
    obtain ⟨m, hm, rfl⟩ := Option.map_eq_some_iff.mp h
    simp only [hstack]
    rfl
  have hframe : ¬(depth rest = 0 ∨ isInExit rest = true) := by simp [hdepth, hexit]
  have hplace : depth rest - 1 = place := by omega
  rw [hnext]
  simp only [ExitState.requestCurrentExit, if_neg hframe, hplace, Function.update_self,
    ExitState.moved, hactors]
  rfl

section

variable (h : s.step l = some next)
include h

lemma held_others (hl : actingThread l.label ≠ some t) : next.held t = s.held t := by
  have hset : ∀ {t' : Thread} {note : ExitNote} {s' : ExitState V}, s'.held = s.held →
      actingThread l.label = some t' → (s'.setHeld t' note).held t = s.held t := by
    intro t' note s' hheld hl'
    have hne : t ≠ t' := by
      rintro rfl
      exact hl hl'
    simp only [ExitState.setHeld, Function.update_of_ne hne, hheld]
  obtain ⟨m, hm, rfl⟩ := Option.map_eq_some_iff.mp h
  split
  · split <;> rfl
  · rename_i t' values hlabel
    exact hset rfl (by rw [hlabel]; rfl)
  · rename_i t' late hlabel
    exact hset rfl (by rw [hlabel]; rfl)
  · rename_i t' hlabel
    exact hset rfl (by rw [hlabel]; rfl)
  · rename_i n id hlabel
    exact hset rfl (by rw [hlabel]; rfl)
  · rfl
  · rfl

lemma held_cont (hl : l.label = .cont t) : next.held t = s.heldByCpp t := by
  obtain ⟨m, hm, rfl⟩ := Option.map_eq_some_iff.mp h
  simp [hl, ExitState.setHeld]

lemma held_luaEnd {outcome : Outcome V} {late : Bool} (hl : l.label = luaEnd t outcome late) :
    next.held t = s.heldAfterLua t (outcome matches .returned _) := by
  obtain ⟨m, hm, rfl⟩ := Option.map_eq_some_iff.mp h
  cases outcome <;> simp [hl, luaEnd, ExitState.setHeld]

lemma held_command {n : Nat} {id : ServiceId} (hl : l.label = .command n (.exit id)) :
    next.held (.external n) = { reason := l.reason.getD "normal" } := by
  obtain ⟨m, hm, rfl⟩ := Option.map_eq_some_iff.mp h
  simp [hl, ExitState.setHeld]

end

end Steps

inductive ExitEvent where
  | hook (t : Thread) (id : ServiceId) (note : ExitNote)
  | left (t : Thread) (id : ServiceId)
  | missed (t : Thread) (id : ServiceId)
  deriving DecidableEq, Repr

def exitEvent (s : ExitState V) (l : ExitLabel V) : Option ExitEvent :=
  match l.label with
  | .cont t =>
    match s.manager.stack t with
    | .cpp (.exit id) :: _ =>
      if (s.manager.registry.services id).isSome then some (.hook t id (s.held t))
      else some (.missed t id)
    | .cpp (.exitErase id) :: _ => some (.left t id)
    | .cpp (.spawnPublish _ name _) :: _ =>
      if s.manager.registry.contains name then some (.missed t name) else none
    | _ => none
  | .api t (.raise _) =>
    match s.manager.stack t with
    | .lua vm .onInit :: _ => some (.missed t (s.manager.actors.serviceOf vm))
    | _ => none
  | _ => none

lemma PassesTo.passing {id : ServiceId} {frame : Frame} (h : PassesTo id frame) : Passing frame := by
  unfold PassesTo at h
  split at h
  · trivial
  · trivial
  · trivial
  · exact h.elim

section Passing

variable {s next : State V} {l : Label V} {t : Thread} {id : ServiceId} {top : Frame}
  {below : List Frame}

def PassesNext (id : ServiceId) (frames : List Frame) : Prop :=
  ∃ top rest, frames = top :: rest ∧ PassesTo id top

lemma not_passesNext (h : ∀ frame ∈ below, ¬ Passing frame) : ¬ PassesNext id below := by
  rintro ⟨top, rest, rfl, htop⟩
  exact h top List.mem_cons_self htop.passing

lemma passesNext_cons {rest : List Frame} : PassesNext id (top :: rest) ↔ PassesTo id top := by
  constructor
  · rintro ⟨_, _, heq, htop⟩
    cases heq
    exact htop
  · intro htop
    exact ⟨top, rest, rfl, htop⟩

section

variable (s next : State V) (t : Thread) (id : ServiceId) (rest : List Frame)

inductive PassStep : Frame → Prop where
  | missing (hnone : s.registry.services id = none) : PassStep (.cpp (.exit id))
  | hook (vm : Instance) (hservice : s.registry.services id = some vm)
    (hnext : next.stack t =
      .lua vm (.onExit id) :: .scope { serviceId := id, inExit := true } :: rest) :
    PassStep (.cpp (.exit id))
  | taken (i : Instance) (htaken : s.registry.contains id = true) :
    PassStep (.cpp (.spawnPublish i id true))
  | publish (i : Instance) (hfree : s.registry.contains id = false)
    (hnext : next.stack t = .cpp (.spawnReady i id true) :: rest) :
    PassStep (.cpp (.spawnPublish i id true))
  | ready (i : Instance) (hnext : next.stack t = .cpp (.exit id) :: rest) :
    PassStep (.cpp (.spawnReady i id true))

end

lemma pass_step {rest : List Frame} (hstack : s.stack t = top :: rest) (htop : PassesTo id top)
    (h : s.step l = some next) (hl : actingThread l = some t) :
    l = .cont t ∧ PassStep s next t id rest top := by
  unfold PassesTo at htop
  split at htop
  · subst htop
    obtain ⟨hcont, hcase⟩ := cpp_step h hl hstack (by simp) (by simp)
    refine ⟨hcont, ?_⟩
    cases hcase with
    | noExit id hnone => exact .missing hnone
    | exit id vm hservice => exact .hook vm hservice (by simp)
  · subst htop
    rename_i i id
    obtain ⟨hcont, hcase⟩ := cpp_step h hl hstack (by simp) (by simp)
    refine ⟨hcont, ?_⟩
    cases hcase with
    | conflict _ _ _ htaken => exact .taken i htaken
    | publish _ _ _ hfree => exact .publish i hfree (by simp)
  · subst htop
    rename_i i id
    obtain ⟨hcont, hcase⟩ := cpp_step h hl hstack (by simp) (by simp)
    refine ⟨hcont, ?_⟩
    cases hcase
    exact .ready i (by simp)
  · exact htop.elim

lemma passesTo_neutral {cont : Cont} (h : Neutral cont) (htop : PassesTo id (.cpp cont)) :
    cont = .exit id := by
  cases cont with
  | exit => exact congrArg Cont.exit htop
  | spawnPublish | spawnReady => exact h.elim
  | _ => exact htop.elim

theorem pass_source (hordered : Ordered s) (h : s.step l = some next)
    (hl : actingThread l = some t) (hnext : PassesNext id (next.stack t)) : PassSource s l t id := by
  have hpop : ∀ {frame below rest}, s.stack t = frame :: below → rest <:+ below →
      ¬ PassesNext id rest := by
    intro frame below rest hstack hrest
    refine not_passesNext fun frame hmem => hordered.passing t frame ?_
    rw [hstack]
    exact hrest.mem hmem
  have hmove := (step_moved h).stack t hl
  generalize next.stack t = frames at hmove hnext
  cases hmove with
  | code frames hcode =>
    cases hcode with
    | shrink conts rest hleft hconts htail hsource =>
      cases conts with
      | cons cont conts =>
        have htop := passesTo_neutral (hconts cont List.mem_cons_self) (passesNext_cons.mp hnext)
        exact hsource id (congrArg some htop)
      | nil =>
        cases hleft with
        | keep =>
          obtain ⟨top, rest, hstack, htop⟩ := hnext
          exact .passed top rest (pass_step hstack htop h hl).1 hstack htop
        | pop _ top rest hstack => exact absurd hnext (hpop hstack (List.suffix_refl _))
        | init vm rest hstack => exact absurd hnext (hpop hstack (popScope_suffix rest))
    | initialised i exitAfterInit rest hstack hends hsource =>
      cases exitAfterInit with
      | false => exact (passesNext_cons.mp hnext).elim
      | true => exact passesNext_cons.mp hnext ▸ hsource rfl
    | published i name exitAfterInit rest hstack =>
      cases exitAfterInit with
      | false => exact (passesNext_cons.mp hnext).elim
      | true =>
        have hname : name = id := passesNext_cons.mp hnext
        have htop : PassesTo id (.cpp (.spawnPublish i name true)) := hname
        exact .passed _ rest (pass_step hstack htop h hl).1 hstack htop
    | exitStage top cont other rest hstack hstage =>
      cases hstage <;> exact (passesNext_cons.mp hnext).elim
    -- the new top is no code that calls `exit`
    | _ => exact (passesNext_cons.mp hnext).elim
  | _ => exact (passesNext_cons.mp hnext).elim

end Passing

/-- The notes are about the frames that they are kept for. -/
structure Noted (s : ExitState V) : Prop where
  spawned : Spawned s.manager
  ordered : Ordered s.manager
  notes : ∀ t frame below, .scope frame :: below <:+ s.manager.stack t →
    ∀ q ∈ (s.notes t (depth below)).request, q.scope = frame.serviceId
  held : ∀ t id, PassesNext id (s.manager.stack t) → ∀ q ∈ (s.held t).request, q.scope = id

section Notes

variable {s next : ExitState V} {l : ExitLabel V} {t : Thread} {frame : DispatchFrame}
  {below rest frames : List Frame} {top : Frame} {id : ServiceId} {note : ExitNote}

lemma scope_suffix_push (new : List Frame) (hnew : ∀ frame ∈ new, Loose frame)
    (h : .scope frame :: below <:+ new ++ rest) : .scope frame :: below <:+ rest := by
  induction new with
  | nil => exact h
  | cons top new ih =>
    rw [List.forall_mem_cons] at hnew
    rcases List.suffix_cons_iff.mp h with heq | h
    · cases heq
      exact hnew.1.elim
    · exact ih hnew.2 h

lemma scope_suffix_requestCurrentExit (h : .scope frame :: below <:+ requestCurrentExit frames) :
    ∃ old, .scope old :: below <:+ frames ∧ old.serviceId = frame.serviceId := by
  have htop : ∀ top frames, requestCurrentExit (top :: frames) = top :: requestCurrentExit frames →
      (∀ scope, top ≠ .scope scope) →
      (.scope frame :: below <:+ requestCurrentExit frames →
        ∃ old, .scope old :: below <:+ frames ∧ old.serviceId = frame.serviceId) →
      .scope frame :: below <:+ requestCurrentExit (top :: frames) →
      ∃ old, .scope old :: below <:+ top :: frames ∧ old.serviceId = frame.serviceId := by
    intro top frames heq htop ih h
    rw [heq] at h
    rcases List.suffix_cons_iff.mp h with heq | h
    · cases heq
      exact absurd rfl (htop frame)
    · obtain ⟨old, hold, hid⟩ := ih h
      exact ⟨old, hold.trans (List.suffix_cons _ _), hid⟩
  induction frames with
  | nil => simp [requestCurrentExit] at h
  | cons top frames ih =>
    cases top with
    | scope old =>
      rcases List.suffix_cons_iff.mp h with heq | h
      · cases heq
        refine ⟨old, List.suffix_refl _, ?_⟩
        split <;> rfl
      · exact ⟨frame, h.trans (List.suffix_cons _ _), rfl⟩
    | lua | cpp => exact htop _ _ rfl (by simp) ih h

lemma scope_stackCase {s next : State V} {l : Label V} (h : StackCase s next l t top rest frames)
    (hsuffix : .scope frame :: below <:+ frames) :
    (∃ old, .scope old :: below <:+ top :: rest ∧ old.serviceId = frame.serviceId) ∨
      (below = rest ∧ depth (top :: rest) = depth rest) := by
  have hold : .scope frame :: below <:+ rest →
      ∃ old, .scope old :: below <:+ top :: rest ∧ old.serviceId = frame.serviceId :=
    fun h => ⟨frame, h.trans (List.suffix_cons _ _), rfl⟩
  cases h with
  | keep => exact .inl ⟨frame, hsuffix, rfl⟩
  | push new hnew => exact .inl ⟨frame, scope_suffix_push new hnew.loose hsuffix, rfl⟩
  | request vm entry htop =>
    subst htop
    rcases List.suffix_cons_iff.mp hsuffix with heq | hsuffix
    · cases heq
    · obtain ⟨old, hsuffix, hid⟩ := scope_suffix_requestCurrentExit hsuffix
      exact .inl ⟨old, hsuffix.trans (List.suffix_cons _ _), hid⟩
  | replace new hnew => exact .inl (hold (scope_suffix_push new hnew.loose hsuffix))
  | hook id vm htop | create name htop =>
    rcases List.suffix_cons_iff.mp hsuffix with heq | hsuffix
    · cases heq
    rcases List.suffix_cons_iff.mp hsuffix with heq | hsuffix
    · cases heq
      subst htop
      exact .inr ⟨rfl, rfl⟩
    · exact .inl (hold hsuffix)
  | init vm htop new hnew =>
    exact .inl (hold ((scope_suffix_push new hnew.loose hsuffix).trans (popScope_suffix rest)))

lemma depth_of_suffix (h : .scope frame :: below <:+ frames) : depth below < depth frames := by
  have hle : depth (.scope frame :: below) ≤ depth frames := h.sublist.countP_le
  rw [depth_scope] at hle
  omega

lemma currentScope_suffix (h : currentScope frames = some frame) :
    ∃ below, .scope frame :: below <:+ frames ∧ depth frames = depth below + 1 := by
  induction frames with
  | nil => cases h
  | cons top frames ih =>
    cases top with
    | scope =>
      cases h
      exact ⟨frames, List.suffix_refl _, depth_scope _ _⟩
    | lua | cpp =>
      obtain ⟨below, hsuffix, hdepth⟩ := ih h
      exact ⟨below, hsuffix.trans (List.suffix_cons _ _), hdepth⟩

lemma currentScope_of_depth (h : .scope frame :: below <:+ frames)
    (hdepth : depth frames = depth below + 1) : currentScope frames = some frame := by
  obtain ⟨above, rfl⟩ := h
  induction above with
  | nil => rfl
  | cons top above ih =>
    cases top with
    | scope =>
      simp only [List.cons_append, depth_scope, depth_append] at hdepth
      omega
    | lua | cpp => exact ih (by simpa using hdepth)

lemma Noted.note_kept (h : Noted s) (hstep : s.step l = some next) {old : DispatchFrame}
    (hsuffix : .scope old :: below <:+ s.manager.stack t) :
    ∀ q ∈ (next.notes t (depth below)).request, q.scope = old.serviceId := by
  intro q hq
  by_cases hreplaces : Replaces t (depth below + 1) s l
  · obtain ⟨hl, hdepth, hexit⟩ := hreplaces
    obtain ⟨label, reason⟩ := l
    cases hl
    have hscope := currentScope_of_depth hsuffix hdepth
    cases step_case (exit_step hstep).1 with
    | api t' vm entry rest op next' hstack =>
      rw [hstack] at hdepth hexit hscope
      rw [notes_requested hstack hstep hdepth hexit] at hq
      cases hq
      have hrest : currentScope rest = some old := hscope
      simp [currentServiceId, hrest]
  · rw [notes_kept hstep (depth_of_suffix hsuffix) hreplaces] at hq
    exact h.notes t old below hsuffix q hq

lemma Noted.notes_step (h : Noted s) (hstep : s.step l = some next) (frame : DispatchFrame)
    (below : List Frame) (hsuffix : .scope frame :: below <:+ next.manager.stack t) :
    ∀ q ∈ (next.notes t (depth below)).request, q.scope = frame.serviceId := by
  have hmanager := (exit_step hstep).1
  have hfresh : depth (s.manager.stack t) ≤ depth below →
      ∀ q ∈ (next.notes t (depth below)).request, q.scope = frame.serviceId := by
    intro hnew q hq
    rw [notes_fresh hstep hnew (depth_of_suffix hsuffix)] at hq
    cases hq
  by_cases hl : actingThread l.label = some t
  · cases hstack : s.manager.stack t with
    | nil => exact hfresh (by simp [hstack, depth])
    | cons =>
      rcases scope_stackCase (stack_case hmanager hl hstack) hsuffix with
        ⟨old, hold, hid⟩ | ⟨rfl, hdepth⟩
      · rw [← hstack] at hold
        rw [← hid]
        exact h.note_kept hstep hold
      · exact hfresh (by rw [hstack, hdepth])
  · rw [(step_moved hmanager).others t hl] at hsuffix
    exact h.note_kept hstep hsuffix

lemma heldByCpp_passing (hstack : s.manager.stack t = top :: rest) (htop : PassesTo id top) :
    s.heldByCpp t = s.held t := by
  rw [ExitState.heldByCpp, hstack]
  unfold PassesTo at htop
  split at htop
  · rfl
  · rfl
  · rfl
  · exact htop.elim

lemma Noted.innermost (h : Noted s) (hasked : AskedBy s.manager t id) :
    ∀ q ∈ (s.innermost t).request, q.scope = id := by
  obtain ⟨frame, hscope, rfl⟩ := hasked
  obtain ⟨below, hsuffix, hdepth⟩ := currentScope_suffix hscope
  have hplace : s.innermost t = s.notes t (depth below) := by
    rw [ExitState.innermost, hdepth, Nat.add_sub_cancel]
  rw [hplace]
  exact h.notes t frame below hsuffix

lemma Noted.held_step (h : Noted s) (hstep : s.step l = some next)
    (hnext : PassesNext id (next.manager.stack t)) : ∀ q ∈ (next.held t).request, q.scope = id := by
  have hmanager := (exit_step hstep).1
  have hnone : ∀ reason : String, next.held t = { reason } →
      ∀ q ∈ (next.held t).request, q.scope = id := by
    intro reason heq q hq
    rw [heq] at hq
    cases hq
  by_cases hl : actingThread l.label = some t
  · cases pass_source h.ordered hmanager hl hnext with
    | endDispatch other rest hcont hstack hasked =>
      rw [held_cont hstep hcont, ExitState.heldByCpp, hstack]
      exact h.innermost hasked
    | init vm rest values hret hstack hasked =>
      have hends : l.label = luaEnd t (.returned values) false := hret
      rw [held_luaEnd hstep hends, ExitState.heldAfterLua, hstack]
      exact h.innermost hasked
    | panic vm other rest outcome late hends hstack =>
      exact hnone "panic" (by rw [held_luaEnd hstep hends, ExitState.heldAfterLua, hstack])
    | passed top rest hcont hstack htop =>
      rw [held_cont hstep hcont, heldByCpp_passing hstack htop]
      exact h.held t id (hstack ▸ passesNext_cons.mpr htop)
    | shutdown order seen rest hcont hstack =>
      exact hnone _ (by rw [held_cont hstep hcont, ExitState.heldByCpp, hstack])
    | command n other ht hcommand =>
      subst ht
      exact hnone _ (held_command hstep hcommand)
  · rw [(step_moved hmanager).others t hl] at hnext
    rw [held_others hstep hl]
    exact h.held t id hnext

theorem noted_step (h : Noted s) (hstep : s.step l = some next) : Noted next where
  spawned := spawned_moved h.spawned (step_moved (exit_step hstep).1)
  ordered := ordered_step h.spawned h.ordered (exit_step hstep).1
  notes _ frame below hsuffix := h.notes_step hstep frame below hsuffix
  held _ _ hnext := h.held_step hstep hnext

lemma noted_init : Noted ({} : ExitState V) where
  spawned := spawned_init
  ordered := ⟨fun _ => wellShaped_nil, fun _ _ h => nomatch h⟩
  notes _ _ _ hsuffix := by simp at hsuffix
  held _ _ hnext := by
    obtain ⟨top, rest, heq, -⟩ := hnext
    cases heq

lemma Noted.hook_scope (h : Noted s) (hevent : exitEvent s l = some (.hook t id note)) :
    ∀ q ∈ note.request, q.scope = id := by
  revert hevent
  fun_cases exitEvent s l <;> rintro ⟨⟩
  exact h.held _ _ (‹s.manager.stack _ = _› ▸ passesNext_cons.mpr rfl)

theorem hooks_of_requests {labels : List (ExitLabel V)} {last : ExitState V}
    (hrun : run ExitState.step {} labels = some last)
    (hhook : .hook t id note ∈ observe ExitState.step exitEvent {} labels) :
    ∀ q ∈ note.request, q.scope = id := by
  have hstep : ∀ (seen : List ExitEvent) (s : ExitState V) (l : ExitLabel V) (next : ExitState V),
      (Noted s ∧ ∀ t id note, .hook t id note ∈ seen → ∀ q ∈ note.request, q.scope = id) → True →
      s.step l = some next →
      Noted next ∧ ∀ t id note, .hook t id note ∈ seen ++ (exitEvent s l).toList →
        ∀ q ∈ note.request, q.scope = id := by
    rintro seen s l next ⟨hnoted, hseen⟩ - hstep
    refine ⟨noted_step hnoted hstep, ?_⟩
    intro t id note hmem
    rcases List.mem_append.mp hmem with hmem | hmem
    · exact hseen t id note hmem
    · exact hnoted.hook_scope (Option.mem_toList.mp hmem)
  have hinit : Noted ({} : ExitState V) ∧
      ∀ t id note, .hook t id note ∈ ([] : List ExitEvent) → ∀ q ∈ note.request, q.scope = id :=
    ⟨noted_init, by simp⟩
  have hall : Admits ExitState.step (fun _ _ => True) ({} : ExitState V) labels :=
    admits_of_forall _ (fun _ _ _ => trivial) _
  exact (observe_invariant _ hstep hinit hall hrun).2 t id note (by simpa using hhook)

end Notes

end ShieldRuntime.Proofs
