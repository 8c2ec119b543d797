import ShieldRuntime.Library.FailureStreak
import ShieldRuntime.Proofs.ManagerMoves

/-!
# How long a frame stays on its stack

Only the top frame of a thread goes away in a step, and only in a step that ends it. An actor runs
one callback at a time: the handler of a message, a timer or a forked task.
-/

namespace ShieldRuntime.Proofs
open Lua Library

section

variable {V : Type} {s next : State V} {l : Label V} {t : Thread}

lemma Ends.acting (h : Ends t l) : actingThread l = some t := by
  revert h
  fun_cases Ends t l <;> simp [actingThread]

/-- The frame needs no particular frame below it. -/
def Loose : Frame → Prop
  | .scope _ | .cpp (.endDispatch _) | .lua _ .onInit | .lua _ (.fallback _)
  | .lua _ (.handler _ (.dispatch _)) => False
  | _ => True

/-- The frames can be pushed together. -/
structure Pushable (new : List Frame) : Prop where
  loose : ∀ frame ∈ new, Loose frame
  passing : ∀ frame ∈ new.tail, ¬ Passing frame

variable {top frame : Frame} {rest : List Frame} {vm : Instance} {entry : Entry} {cont : Cont}

lemma pushable_singleton (h : Loose frame) : Pushable [frame] :=
  ⟨by simpa using h, by simp⟩

lemma loose_neutral (h : Neutral cont) : Loose (.cpp cont) := by
  cases cont with
  | endDispatch => exact h.elim
  | _ => trivial

lemma pushable_conts {conts : List Cont} (hconts : ∀ cont ∈ conts, Neutral cont)
    (htail : ∀ cont ∈ conts.tail, ¬ Passing (.cpp cont)) : Pushable (conts.map .cpp) := by
  constructor
  · simpa using fun cont h => loose_neutral (hconts cont h)
  · simpa [← List.map_tail] using htail

lemma pushable_handler {conts : List Cont} {co : Nat} {source : Source}
    (hsource : source = .response ∨ source = .timeout)
    (hconts : ∀ cont ∈ conts, Neutral cont ∧ ¬ Passing (.cpp cont)) :
    Pushable (.lua vm (.handler co source) :: conts.map .cpp) := by
  constructor
  · rw [List.forall_mem_cons]
    refine ⟨?_, by simpa using fun cont h => loose_neutral (hconts cont h).1⟩
    rcases hsource with rfl | rfl <;> trivial
  · simpa using fun cont h => (hconts cont h).2

lemma mem_popScope (hframe : ∀ scope, frame ≠ .scope scope) (hmem : frame ∈ rest) :
    frame ∈ State.popScope rest := by
  unfold State.popScope
  split
  · simpa [hframe] using hmem
  · exact hmem

section

variable (s next : State V) (l : Label V) (t : Thread) (top : Frame) (rest : List Frame)

inductive StackCase : List Frame → Prop where
  | keep : StackCase (top :: rest)
  | push (new) (hnew : Pushable new) (hlua : ∃ vm entry, top = .lua vm entry) :
    StackCase (new ++ top :: rest)
  | request (vm : Instance) (entry : Entry) (htop : top = .lua vm entry) (hl : l = .api t .exit) :
    StackCase (top :: requestCurrentExit rest)
  | replace (new) (hnew : Pushable new) (hends : Ends t l) : StackCase (new ++ rest)
  | hook (id) (vm : Instance) (htop : top = .cpp (.exit id)) (hends : Ends t l) :
    StackCase
      (.lua vm (.onExit id) :: .scope { serviceId := id, inExit := true } :: rest)
  | create (name) (htop : top = .cpp (.spawnCreate name)) (hends : Ends t l)
    (hname : next.actors.serviceOf s.actors.nextInstance = name) :
    StackCase
      (.lua s.actors.nextInstance .onInit :: .scope { serviceId := name } :: rest)
  | init (vm : Instance) (htop : top = .lua vm .onInit) (new) (hnew : Pushable new)
    (hends : Ends t l) : StackCase (new ++ State.popScope rest)

end

section

variable (h : s.step l = some next)
include h

theorem stack_case (hl : actingThread l = some t) (hstack : s.stack t = top :: rest) :
    StackCase s next l t top rest (next.stack t) := by
  have hmove := (step_moved h).stack t hl
  have hsame : ∀ {frame below}, s.stack t = frame :: below → frame = top ∧ below = rest :=
    fun heq => List.cons.inj (heq.symm.trans hstack)
  have hlua : ∀ {starts}, Caller s t starts → ∃ vm entry, top = .lua vm entry := by
    rintro starts (⟨hempty, -⟩ | ⟨vm, entry, below, heq⟩)
    · cases hempty.symm.trans hstack
    · exact ⟨vm, entry, (hsame heq).1.symm⟩
  generalize hframes : next.stack t = frames at hmove
  cases hmove with
  | code frames hcode =>
    cases hcode with
    | shrink conts below hleft hconts htail =>
      have hnew := pushable_conts hconts htail
      cases hleft with
      | keep => exact hstack ▸ .keep
      | push cont hcaller => exact hstack ▸ .push _ hnew (hlua hcaller)
      | pop _ _ _ heq hends =>
        obtain ⟨rfl, rfl⟩ := hsame heq
        exact .replace _ hnew hends
      | init vm below heq hends =>
        obtain ⟨rfl, rfl⟩ := hsame heq
        exact .init vm rfl _ hnew hends
    | requestExit vm entry below heq hlabel =>
      obtain ⟨rfl, rfl⟩ := hsame heq
      exact .request vm entry rfl hlabel
    | report _ _ _ below heq _ hends | errorHook _ _ below heq _ hends | panic _ _ below heq hends
    | published _ _ _ below heq hends =>
      obtain ⟨rfl, rfl⟩ := hsame heq
      exact .replace [_] (pushable_singleton trivial) hends
    | exitStage _ cont _ below heq hstage hends =>
      obtain ⟨rfl, rfl⟩ := hsame heq
      refine .replace [.cpp cont] (pushable_singleton ?_) hends
      cases hstage <;> trivial
    | exit id vm below heq _ hcont =>
      obtain ⟨rfl, rfl⟩ := hsame heq
      exact .hook id vm rfl (hcont ▸ rfl)
    | initialised i _ below heq hends =>
      obtain ⟨rfl, rfl⟩ := hsame heq
      exact .init i rfl [_] (pushable_singleton trivial) hends
    | rejected _ _ _ _ hempty | fallback _ _ _ _ _ hempty | fired _ _ _ _ _ hempty
    | forked _ _ _ _ hempty => cases hempty.symm.trans hstack
  | create name below heq hcont =>
    obtain ⟨rfl, rfl⟩ := hsame heq
    subst hcont
    refine .create name rfl rfl ?_
    cases step_cpp hstack h
    simp [Actors.create]
  | answer _ _ co vm source conts below _ _ hsource hleft _ hconts hcaller =>
    have hnew : Pushable (.lua vm (.handler co source) :: conts.map .cpp) :=
      pushable_handler hsource hconts
    cases hleft with
    | keep | push => exact hstack ▸ .push _ hnew (hlua hcaller)
    | pop _ _ _ heq hends =>
      obtain ⟨rfl, rfl⟩ := hsame heq
      exact .replace _ hnew hends
    | init i below heq hends =>
      obtain ⟨rfl, rfl⟩ := hsame heq
      exact .init i rfl _ hnew hends
  | wake _ _ _ _ _ _ _ hempty | dispatched _ _ _ _ _ hempty => cases hempty.symm.trans hstack

/-- A frame stays on its stack until it is at the top and a step ends it. -/
theorem step_kept (hmem : frame ∈ s.stack t) (hframe : ∀ scope, frame ≠ .scope scope) :
    frame ∈ next.stack t ∨ (Ends t l ∧ ∃ rest, s.stack t = frame :: rest) := by
  by_cases hl : actingThread l = some t
  · cases hstack : s.stack t with
    | nil =>
      rw [hstack] at hmem
      cases hmem
    | cons top rest =>
      rw [hstack] at hmem
      have hpopped : Ends t l → (frame ∈ rest → frame ∈ next.stack t) →
          frame ∈ next.stack t ∨ (Ends t l ∧ ∃ rest', top :: rest = frame :: rest') := by
        intro hends hrest
        rcases List.mem_cons.mp hmem with rfl | hmem
        · exact .inr ⟨hends, rest, rfl⟩
        · exact .inl (hrest hmem)
      have hcase := stack_case h hl hstack
      generalize next.stack t = frames at hcase hpopped ⊢
      cases hcase with
      | keep => exact .inl hmem
      | push new => exact .inl (List.mem_append_right _ hmem)
      | request => exact .inl (by simpa [mem_requestCurrentExit hframe] using hmem)
      | replace new hnew hends => exact hpopped hends (List.mem_append_right _)
      | hook _ _ _ hends | create _ _ hends => exact hpopped hends fun hrest => by simp [hrest]
      | init vm htop new hnew hends =>
        exact hpopped hends fun hrest => List.mem_append_right _ (mem_popScope hframe hrest)
  · left
    rw [(step_moved h).others t hl]
    exact hmem

lemma ends_afterLua (hends : Ends t l) (hstack : s.stack t = .lua vm entry :: rest)
    (hentry : ∀ co source, entry ≠ .handler co source) :
    ∃ outcome late, l = luaEnd t outcome late ∧ next = s.afterLua t vm entry rest outcome late := by
  cases step_case h with
  | coroutine t' vm' co source rest' op next hstack' =>
    cases op with
    | yield =>
      cases hends
      cases hstack.symm.trans hstack'
      exact absurd rfl (hentry co source)
    | _ => exact hends.elim
  | api t' vm' entry' rest' op next hstack' hcan hcase =>
    cases hcase with
    | ret values =>
      cases hends
      cases hstack.symm.trans hstack'
      exact ⟨.returned values, false, rfl, rfl⟩
    | raise late =>
      cases hends
      cases hstack.symm.trans hstack'
      exact ⟨.raised, late, rfl, rfl⟩
    | _ => exact hends.elim
  -- the other steps that end something need other code at the top
  | cpp _ _ _ _ hstack' | scope _ _ _ hstack' | wake _ _ _ hstack' | giveUp _ _ _ hstack'
  | loadFails _ _ _ hstack' =>
    cases hends
    cases hstack.symm.trans hstack'
  | _ => exact hends.elim

variable (hl : actingThread l = some t)
include hl

lemma luaTop_cases (hstack : s.stack t = .lua vm entry :: rest)
    (hentry : ∀ co source, entry ≠ .handler co source) :
    (∃ outcome late, l = luaEnd t outcome late ∧
        next = s.afterLua t vm entry rest outcome late) ∨
      (l = .api t .exit ∧ next.stack t = .lua vm entry :: requestCurrentExit rest) ∨
      ∃ above, next.stack t = above ++ .lua vm entry :: rest := by
  have hcase := stack_case h hl hstack
  generalize hframes : next.stack t = frames at hcase
  cases hcase with
  | keep => exact .inr (.inr ⟨[], rfl⟩)
  | push new => exact .inr (.inr ⟨new, rfl⟩)
  | request vm entry htop hlabel => exact .inr (.inl ⟨hlabel, rfl⟩)
  | replace new hnew hends | init vm htop new hnew hends =>
    exact .inl (ends_afterLua h hends hstack hentry)
  | hook id vm htop | create name htop => cases htop

lemma cppTop_cases (hstack : s.stack t = .cpp cont :: rest) :
    (l = .cont t ∧ CppCase s t rest cont next) ∨
      (∃ session, cont = .syncWait session ∧
        next = { s with calls := s.calls.releaseSync session }.setStack t rest) ∨
      ∃ name, cont = .spawnCreate name := by
  have hsame : ∀ {t' frames}, s.stack t' = frames → t' = t → frames = .cpp cont :: rest := by
    rintro t' frames rfl rfl
    exact hstack
  cases step_case h with
  | coroutine t' vm co source rest' op next hstack'
  | receive i look mail mails next hready hstack' =>
    cases hsame hstack' (Option.some.inj hl)
  | api t' vm entry rest' op next hstack' | scope t' frame rest' hstack'
  | command n command next hstack' => cases hsame hstack' (Option.some.inj hl)
  | cpp t' cont' rest' next hstack' hcase =>
    cases hl
    cases hsame hstack' rfl
    exact .inl ⟨rfl, hcase⟩
  | wake t' session rest' hstack' | giveUp t' session rest' hstack' =>
    cases hl
    cases hsame hstack' rfl
    exact .inr (.inl ⟨session, rfl, rfl⟩)
  | loadFails t' name rest' hstack' =>
    cases hsame hstack' (Option.some.inj hl)
    exact .inr (.inr ⟨name, rfl⟩)
  | _ => cases hl

lemma cpp_step
    (hstack : s.stack t = .cpp cont :: rest) (hwait : ∀ session, cont ≠ .syncWait session)
    (hcreate : ∀ name, cont ≠ .spawnCreate name) : l = .cont t ∧ CppCase s t rest cont next := by
  rcases cppTop_cases h hl hstack with hcase | ⟨session, heq, -⟩ | ⟨name, heq⟩
  · exact hcase
  · exact absurd heq (hwait session)
  · exact absurd heq (hcreate name)

end

end

variable {V : Type}

def isCallback : Frame → Bool
  | .lua _ (.handler _ (.dispatch _)) | .lua _ (.fallback _) | .lua _ (.timer _)
  | .lua _ (.fork _) | .lua _ (.onError _) | .lua _ (.onPanic _) | .cpp (.resetErrorCount _)
  | .cpp (.invokeErrorHook _) => true
  | _ => false

def callbacks (frames : List Frame) : List Frame := frames.filter isCallback

def phaseOf : List Frame → Phase
  | [.cpp (.invokeErrorHook _)] => .failing
  | [.lua _ (.onError _)] => .counted
  | [.lua _ (.onPanic _)] => .stopping
  | [.cpp (.resetErrorCount _)] => .succeeding
  | _ => .quiet

def phaseAt (s : State V) (vm : Instance) : Phase := phaseOf (callbacks (s.stack (.actor vm)))

def followUp (s : State V) (vm : Instance) : Entry → Outcome V → List Frame
  | .handler _ (.dispatch id), .returned _ => [.cpp (.resetErrorCount id)]
  | .handler _ (.dispatch id), .raised => [.cpp (.invokeErrorHook id)]
  | .timer id, .raised => [.cpp (.invokeErrorHook id)]
  | .fork id, .raised => [.cpp (.invokeErrorHook id)]
  | .onError id, _ =>
    if maxErrorsBeforePanic ≤ s.registry.errorCounts id then [.lua vm (.onPanic id)] else []
  | _, _ => []

section

variable {s next : State V} {l : Label V} {t : Thread} {vm : Instance} {entry : Entry}
  {rest : List Frame} {frame : Frame} {source : Source} {frames : List Frame}

lemma callbacks_cons_of_not (h : isCallback frame = false) (frames : List Frame) :
    callbacks (frame :: frames) = callbacks frames := by
  simp [callbacks, h]

lemma callbacks_cons_of (h : isCallback frame = true) (frames : List Frame) :
    callbacks (frame :: frames) = frame :: callbacks frames := by
  simp [callbacks, h]

@[simp] lemma callbacks_popScope (frames : List Frame) :
    callbacks (State.popScope frames) = callbacks frames := by
  unfold State.popScope
  split
  · exact (callbacks_cons_of_not rfl _).symm
  · rfl

@[simp] lemma callbacks_requestCurrentExit (frames : List Frame) :
    callbacks (requestCurrentExit frames) = callbacks frames := by
  induction frames with
  | nil => rfl
  | cons frame frames ih =>
    cases frame with
    | scope => simp [requestCurrentExit, callbacks, isCallback]
    | lua | cpp =>
      simp only [callbacks] at ih
      simp [requestCurrentExit, callbacks, List.filter_cons, ih]

lemma callbacks_setStack (frames : List Frame) :
    callbacks ((s.setStack t frames).stack t) = callbacks frames := by
  simp

lemma callbacks_resumed (frames : List Frame) (hsource : ∀ id, source ≠ .dispatch id)
    (out : CallState V × Option (Nat × Instance)) :
    callbacks ((s.resumed t frames source out).stack t) = callbacks frames := by
  unfold State.resumed
  rw [callbacks_setStack]
  split
  · apply callbacks_cons_of_not
    cases source with
    | dispatch id => exact absurd rfl (hsource id)
    | _ => rfl
  · rfl

lemma callbacks_coroutineCase {co : Nat} {op : CoroutineOp V}
    (hstack : s.stack t = .lua vm (.handler co source) :: rest)
    (h : CoroutineCase s t vm co source rest op next) :
    callbacks (next.stack t) = callbacks (s.stack t) ∨
      callbacks (next.stack t) = callbacks rest := by
  cases h with
  | postFails =>
    left
    rw [callbacks_resumed _ (by simp), ← hstack]
  | yieldCall | yieldSleep => exact .inr (callbacks_setStack rest)
  | _ => exact .inl rfl

lemma callbacks_afterLua (outcome : Outcome V) (late : Bool) :
    callbacks ((s.afterLua t vm entry rest outcome late).stack t) =
      followUp s vm entry outcome ++ callbacks rest := by
  cases entry with
  | handler co source =>
    simp only [State.afterLua]
    rw [callbacks_resumed _ (by simp)]
    cases source with
    | dispatch =>
      cases outcome with
      | returned | raised => exact callbacks_cons_of rfl rest
    | _ => cases outcome <;> rfl
  | fallback => exact callbacks_setStack rest
  | onInit =>
    cases outcome with
    | returned =>
      simp only [State.afterLua, State.afterInit]
      rw [callbacks_setStack, callbacks_cons_of_not rfl, callbacks_popScope]
      rfl
    | raised =>
      cases late with
      | true | false =>
        simp only [State.afterLua, State.afterInit]
        rw [callbacks_setStack, callbacks_popScope]
        rfl
  | onExit | onPanic =>
    simp only [State.afterLua]
    rw [callbacks_setStack, callbacks_cons_of_not rfl]
    rfl
  | onError =>
    simp only [State.afterLua, followUp]
    split
    · rw [callbacks_setStack, callbacks_cons_of rfl]
      rfl
    · exact callbacks_setStack rest
  | timer | fork =>
    simp only [State.afterLua]
    rw [callbacks_setStack]
    cases outcome with
    | returned => rfl
    | raised => exact callbacks_cons_of rfl rest

lemma callbacks_apiCase {op : ApiOp V} (hstack : s.stack t = .lua vm entry :: rest)
    (h : ApiCase s t vm entry rest op next) (hends : ¬ Ends t (.api t op)) :
    callbacks (next.stack t) = callbacks (s.stack t) := by
  cases h with
  | syncCall | spawn =>
    rw [callbacks_setStack, callbacks_cons_of_not rfl, hstack]
  | exit =>
    have hrest := callbacks_requestCurrentExit (.lua vm entry :: rest)
    rw [callbacks_setStack, hstack]
    exact hrest
  | ret | raise => exact absurd rfl hends
  | _ => rfl

lemma callbacks_cppCase {cont : Cont} (hstack : s.stack t = .cpp cont :: rest)
    (h : CppCase s t rest cont next) (hcont : isCallback (.cpp cont) = false) :
    callbacks (next.stack t) = callbacks (s.stack t) := by
  rw [hstack, callbacks_cons_of_not hcont]
  have hpush : ∀ frame, isCallback frame = false → callbacks (frame :: rest) = callbacks rest :=
    fun _ hframe => callbacks_cons_of_not hframe rest
  cases h with
  | endDispatchExit | exitTimers | exitTimeouts | publish | shutdownSkip =>
    rw [callbacks_setStack, hpush _ rfl]
  | resetErrorCount | noErrorHook | invokeErrorHook => cases hcont
  | exit | create | shutdownExit =>
    rw [callbacks_setStack, callbacks_cons_of_not rfl, hpush _ rfl]
  | ready =>
    rw [callbacks_setStack]
    split
    · exact hpush _ rfl
    · rfl
  | _ => exact callbacks_setStack rest

lemma callbacks_commandCase {n : Nat} {command : Command V} (hstack : s.stack (.external n) = [])
    (h : CommandCase s n command next) : callbacks (next.stack (.external n)) = [] := by
  cases h with
  | send =>
    rw [hstack]
    rfl
  | _ => exact callbacks_setStack _

structure Entered (frames : List Frame) : Prop where
  single : (callbacks frames).length ≤ 1
  phase : phaseOf (callbacks frames) = .quiet

lemma entered_of_eq_nil (h : callbacks frames = []) : Entered frames := by
  refine ⟨?_, ?_⟩
  · simp [h]
  · simp [h, phaseOf]

lemma entered_setStack (h : Entered frames) : Entered ((s.setStack t frames).stack t) := by
  simpa using h

lemma mailCase_entered {i : Instance} {look : MethodLookup} {mail : Mail V}
    (hempty : s.stack (.actor i) = []) (h : MailCase s i look mail next) :
    Entered (next.stack (.actor i)) := by
  cases h with
  | dropped => exact entered_of_eq_nil (by rw [hempty]; rfl)
  | rejected =>
    exact entered_setStack (entered_of_eq_nil rfl)
  | wake =>
    exact entered_of_eq_nil (callbacks_resumed [] (by simp) _)
  | callTimeout => exact entered_of_eq_nil (callbacks_resumed [] (by simp) _)
  | _ => exact entered_setStack ⟨le_refl 1, rfl⟩

end

end ShieldRuntime.Proofs
