import ShieldRuntime.Proofs.CallMoves
import ShieldRuntime.Proofs.StepCases

/-!
# What a step does to the manager

`Moved` says what a step can do to each part of the state.
-/

namespace ShieldRuntime.Proofs

open Lua

variable {V : Type}

variable {s : State V} {l : Label V}

def actingThread : Label V → Option Thread
  | .coroutine t _ | .api t _ | .cont t => some t
  | .receive i _ => some (.actor i)
  | .wake t => some t
  | .giveUp t => some t
  | .command n _ => some (.external n)
  | .loadFails t => some t
  | _ => none

def wakes (s : State V) : Label V → Option Instance
  | .receive i _ =>
    match s.actors.mailbox i with
    | .timerFire id :: _ =>
      match s.calls.timers.find? fun timer => timer.id = id with
      | some timer =>
        match timer.callback with
        | .resume co => (s.calls.resumable co).map Prod.snd
        | .lua _ => none
      | none => none
    | _ => none
  | _ => none

lemma wakes_eq_some {vm : Instance} (h : wakes s l = some vm) :
    ∃ i look timerId mails timer co wait, l = .receive i look ∧
      s.actors.mailbox i = .timerFire timerId :: mails ∧
      s.calls.timers.find? (fun timer => timer.id = timerId) = some timer ∧
      timer.callback = .resume co ∧ s.calls.resumable co = some (wait, vm) := by
  revert h
  fun_cases wakes s l with
  | case1 i look timerId mails hmailbox timer hfind co hcallback =>
    intro h
    obtain ⟨⟨wait, _⟩, hwait, rfl⟩ := Option.map_eq_some_iff.mp h
    exact ⟨i, look, timerId, mails, timer, co, wait, rfl, hmailbox, hfind, hcallback, hwait⟩
  | _ => nofun

/-- The step ends what is at the top of the thread. -/
def Ends (t : Thread) : Label V → Prop
  | .coroutine t' .yield | .api t' (.ret _) | .api t' (.raise _) | .cont t' | .wake t'
  | .giveUp t' | .loadFails t' => t' = t
  | _ => False

def luaEnd (t : Thread) : Outcome V → Bool → Label V
  | .returned values, _ => .api t (.ret values)
  | .raised, late => .api t (.raise late)

lemma ends_luaEnd (t : Thread) (outcome : Outcome V) (late : Bool) :
    Ends t (luaEnd t outcome late) := by
  cases outcome <;> rfl

lemma acting_luaEnd (t : Thread) (outcome : Outcome V) (late : Bool) :
    actingThread (luaEnd t outcome late) = some t := by
  cases outcome <;> rfl

def Passing : Frame → Prop
  | .cpp (.exit _) | .cpp (.spawnPublish _ _ _) | .cpp (.spawnReady _ _ _) => True
  | _ => False

/-- The frame will run the exit of `id`. -/
def PassesTo (id : ServiceId) : Frame → Prop
  | .cpp (.exit id') | .cpp (.spawnPublish _ id' true) | .cpp (.spawnReady _ id' true) => id' = id
  | _ => False

def AskedBy (s : State V) (t : Thread) (id : ServiceId) : Prop :=
  ∃ frame, currentScope (s.stack t) = some frame ∧ frame.serviceId = id

inductive PassSource (s : State V) (l : Label V) (t : Thread) (id : ServiceId) : Prop
  | endDispatch (other rest) (hl : l = .cont t)
    (hstack : s.stack t = .cpp (.endDispatch other) :: rest) (hasked : AskedBy s t id)
  | init (vm rest values) (hl : l = .api t (.ret values))
    (hstack : s.stack t = .lua vm .onInit :: rest) (hasked : AskedBy s t id)
  | panic (vm other rest outcome late) (hl : l = luaEnd t outcome late)
    (hstack : s.stack t = .lua vm (.onPanic other) :: rest)
  | passed (top rest) (hl : l = .cont t) (hstack : s.stack t = top :: rest) (htop : PassesTo id top)
  | shutdown (order seen rest) (hl : l = .cont t)
    (hstack : s.stack t = .cpp (.shutdown order seen) :: rest)
  | command (n other) (ht : t = .external n) (hl : l = .command n (.exit other))

def Neutral : Cont → Prop
  | .spawnCreate name => name ≠ ""
  | .endDispatch _ | .invokeErrorHook _ | .spawnPublish _ _ _ | .spawnReady _ _ _
  | .exitTimers _ | .exitTimeouts _ | .exitErase _ => False
  | _ => True

inductive ExitStage : Frame → Cont → ServiceId → Prop where
  | timers (vm id) : ExitStage (.lua vm (.onExit id)) (.exitTimers id) id
  | timeouts (id) : ExitStage (.cpp (.exitTimers id)) (.exitTimeouts id) id
  | erase (id) : ExitStage (.cpp (.exitTimeouts id)) (.exitErase id) id

def Reports : Entry → ServiceId → Prop
  | .handler _ (.dispatch id), id' | .timer id, id' | .fork id, id' => id = id'
  | _, _ => False

/-- Lua code is at the top, or nothing on a thread that may start something. -/
def Caller (s : State V) (t : Thread) (starts : Prop) : Prop :=
  (s.stack t = [] ∧ starts) ∨ ∃ vm entry rest, s.stack t = .lua vm entry :: rest

/-- What a step leaves of a stack, below the code that it pushes. -/
inductive Left (s : State V) (l : Label V) (t : Thread) : List Cont → List Frame → Prop where
  | keep : Left s l t [] (s.stack t)
  | push (cont) (hcaller : Caller s t (∃ n, t = .external n)) : Left s l t [cont] (s.stack t)
  | pop (conts top rest) (hstack : s.stack t = top :: rest) (hends : Ends t l) :
    Left s l t conts rest
  | init (vm rest) (hstack : s.stack t = .lua vm .onInit :: rest) (hends : Ends t l) :
    Left s l t [] (State.popScope rest)

inductive CodeMove (s : State V) (l : Label V) (t : Thread) : List Frame → Prop where
  | shrink (conts rest) (hleft : Left s l t conts rest) (hconts : ∀ cont ∈ conts, Neutral cont)
    (htail : ∀ cont ∈ conts.tail, ¬ Passing (.cpp cont))
    (hsource : ∀ id, conts.head? = some (.exit id) → PassSource s l t id) :
    CodeMove s l t (conts.map .cpp ++ rest)
  | requestExit (vm entry rest) (hstack : s.stack t = .lua vm entry :: rest) (hl : l = .api t .exit) :
    CodeMove s l t (.lua vm entry :: requestCurrentExit rest)
  | report (vm entry id rest) (hstack : s.stack t = .lua vm entry :: rest)
    (hreports : Reports entry id) (hends : Ends t l) :
    CodeMove s l t (.cpp (.invokeErrorHook id) :: rest)
  | errorHook (id vm rest) (hstack : s.stack t = .cpp (.invokeErrorHook id) :: rest)
    (hservice : s.registry.services id = some vm) (hends : Ends t l) :
    CodeMove s l t (.lua vm (.onError id) :: rest)
  | panic (vm id rest) (hstack : s.stack t = .lua vm (.onError id) :: rest) (hends : Ends t l) :
    CodeMove s l t (.lua vm (.onPanic id) :: rest)
  | exit (id vm rest) (hstack : s.stack t = .cpp (.exit id) :: rest)
    (hservice : s.registry.services id = some vm) (hl : l = .cont t) :
    CodeMove s l t (.lua vm (.onExit id) :: .scope { serviceId := id, inExit := true } :: rest)
  | exitStage (top cont id rest) (hstack : s.stack t = top :: rest) (hstage : ExitStage top cont id)
    (hends : Ends t l) : CodeMove s l t (.cpp cont :: rest)
  | initialised (i exitAfterInit rest) (hstack : s.stack t = .lua i .onInit :: rest)
    (hends : Ends t l) (hsource : exitAfterInit = true → PassSource s l t (s.actors.serviceOf i)) :
    CodeMove s l t
      (.cpp (.spawnPublish i (s.actors.serviceOf i) exitAfterInit) :: State.popScope rest)
  | published (i name exitAfterInit rest)
    (hstack : s.stack t = .cpp (.spawnPublish i name exitAfterInit) :: rest) (hends : Ends t l) :
    CodeMove s l t (.cpp (.spawnReady i name exitAfterInit) :: rest)
  | rejected (i id) (ht : t = .actor i) (hready : Receives s.actors i) (hempty : s.stack t = []) :
    CodeMove s l t [.cpp (.endDispatch id), .scope { serviceId := id }]
  | fallback (i vm request) (ht : t = .actor i) (hready : Receives s.actors i)
    (hempty : s.stack t = []) (hservice : s.registry.services (s.actors.serviceOf i) = some vm) :
    CodeMove s l t [.lua vm (.fallback request), .cpp (.endDispatch (s.actors.serviceOf i)),
      .scope { serviceId := s.actors.serviceOf i }]
  | fired (i timer vm) (ht : t = .actor i) (hready : Receives s.actors i) (hempty : s.stack t = [])
    (htimer : timer ∈ s.calls.timers) (hmail : .timerFire timer.id ∈ s.actors.mailbox i)
    (hcallback : timer.callback = .lua vm) :
    CodeMove s l t [.lua vm (.timer (s.actors.serviceOf i)),
      .scope { serviceId := s.actors.serviceOf i }]
  | forked (i task) (ht : t = .actor i) (hready : Receives s.actors i) (hempty : s.stack t = [])
    (htask : task ∈ s.tasks) (hmail : .forkTask task.id ∈ s.actors.mailbox i) :
    CodeMove s l t [.lua task.vm (.fork task.serviceId), .scope { serviceId := task.serviceId }]

/-- Every way a step can change one stack. -/
inductive StackMove (s : State V) (l : Label V) (t : Thread) : List Frame → Prop where
  | code (frames) (h : CodeMove s l t frames) : StackMove s l t frames
  | create (name rest) (hstack : s.stack t = .cpp (.spawnCreate name) :: rest) (hl : l = .cont t) :
    StackMove s l t
      (.lua s.actors.nextInstance .onInit :: .scope { serviceId := name } :: rest)
  | answer (cause session co vm source conts rest) (hanswers : answers s l = some (cause, session))
    (hresumee : s.calls.resumee session = some (co, vm))
    (hsource : source = .response ∨ source = .timeout) (hleft : Left s l t conts rest)
    (hscope : currentServiceId rest = currentServiceId (s.stack t))
    (hconts : ∀ cont ∈ conts, Neutral cont ∧ ¬ Passing (.cpp cont))
    (hcaller : Caller s t (∃ i, t = .actor i ∧ Receives s.actors i)) :
    StackMove s l t (.lua vm (.handler co source) :: (conts.map .cpp ++ rest))
  | wake (i timer co wait vm) (ht : t = .actor i) (hready : Receives s.actors i)
    (hempty : s.stack t = []) (htimer : timer ∈ s.calls.timers)
    (hmail : .timerFire timer.id ∈ s.actors.mailbox i) (hcallback : timer.callback = .resume co)
    (hresumable : s.calls.resumable co = some (wait, vm)) (hwakes : wakes s l = some vm) :
    StackMove s l t [.lua vm (.handler co .sleepTimer)]
  | dispatched (i vm co) (ht : t = .actor i) (hready : Receives s.actors i)
    (hempty : s.stack t = []) (hservice : s.registry.services (s.actors.serviceOf i) = some vm)
    (hco : s.calls.coroutines co = none) :
    StackMove s l t [.lua vm (.handler co (.dispatch (s.actors.serviceOf i))),
      .cpp (.endDispatch (s.actors.serviceOf i)), .scope { serviceId := s.actors.serviceOf i }]

/-- The coroutine runs, or is on its way into or out of a call. -/
def Active (c : CallState V) (co : Nat) (vm : Instance) : Prop :=
  ∃ k, c.coroutines co = some k ∧ k.vm = vm ∧ ∀ wait, k.status ≠ .suspended wait

/-- What a step may put into a mailbox. -/
def NewMail (s next : State V) (i : Instance) : Mail V → Prop
  | .timerFire id => ∃ timer ∈ s.calls.timers, timer.id = id ∧ timer.target = i
  | .callTimeout session => s.calls.callTimeouts session = some i
  | .forkTask id => id = s.nextTaskId ∧ next.nextTaskId = s.nextTaskId + 1 ∧
      ∃ name, s.registry.serviceActors name = some i ∧
        ∀ task ∈ next.tasks, task ∈ s.tasks ∨ task.serviceId = name
  | _ => True

def NewEvent (s : State V) (l : Label V) : ApiEvent → Prop
  | .attributed vm id => ∃ entry, Executes s vm entry id
  | .slept co scheduled => ∃ t vm source rest,
      l = .coroutine t .sleep ∧ s.stack t = .lua vm (.handler co source) :: rest ∧
        scheduled = (s.actorOf (currentServiceId rest)).isSome

/-- What one step can do, part by part. -/
structure Moved (s : State V) (l : Label V) (next : State V) : Prop where
  others : ∀ t, actingThread l ≠ some t → next.stack t = s.stack t
  stack : ∀ t, actingThread l = some t → StackMove s l t (next.stack t)
  calls : CallMove s l next.calls
  released : ∀ co vm, Active s.calls co vm → Active next.calls co vm ∨
    ∃ t vm' source rest, actingThread l = some t ∧
      s.stack t = .lua vm' (.handler co source) :: rest ∧
        ∀ vm'' source', .lua vm'' (.handler co source') ∈ next.stack t →
          .lua vm'' (.handler co source') ∈ rest
  entered : ∀ t vm co source, .lua vm (.handler co source) ∈ next.stack t →
    .lua vm (.handler co source) ∈ s.stack t ∨ Active next.calls co vm
  created : ∀ t i, .lua i .onInit ∈ next.stack t →
    .lua i .onInit ∈ s.stack t ∨ i < next.actors.nextInstance
  services : ∀ id vm, next.registry.services id = some vm → s.registry.services id = some vm ∨
    ∃ t exitAfterInit rest, actingThread l = some t ∧
      s.stack t = .cpp (.spawnPublish vm id exitAfterInit) :: rest ∧
        next.stack t = .cpp (.spawnReady vm id exitAfterInit) :: rest
  serviceActors : ∀ id a, next.registry.serviceActors id = some a →
    s.registry.serviceActors id = some a ∨
      (a = s.actors.nextInstance ∧ next.actors.nextInstance = a + 1 ∧
        next.actors.serviceOf a = id ∧ ∃ t rest, s.stack t = .cpp (.spawnCreate id) :: rest)
  names : (next.actors.nextInstance = s.actors.nextInstance ∧
      next.actors.serviceOf = s.actors.serviceOf) ∨
    ∃ t name rest, l = .cont t ∧ s.stack t = .cpp (.spawnCreate name) :: rest ∧
      next.actors.nextInstance = s.actors.nextInstance + 1 ∧
      next.actors.serviceOf = Function.update s.actors.serviceOf s.actors.nextInstance name
  ready : ∀ i, next.actors.ready i = true → s.actors.ready i = true ∨
    ∃ t name exitAfterInit rest, actingThread l = some t ∧
      s.stack t = .cpp (.spawnReady i name exitAfterInit) :: rest ∧
        ∀ frame ∈ next.stack t, frame ∈ rest ∨ frame = .cpp (.exit name)
  readyMono : ∀ i, s.actors.ready i = true → next.actors.ready i = true
  stopped : ∀ i, next.actors.stopped i = true → s.actors.stopped i = true ∨
    (l = .terminate i ∧ s.actors.exiting i = true ∧ s.stack (.actor i) = []) ∨
      ∃ t top name rest, actingThread l = some t ∧ s.stack t = top :: rest ∧
        (top = .lua i .onInit ∧ name = s.actors.serviceOf i ∨
          ∃ exitAfterInit, top = .cpp (.spawnPublish i name exitAfterInit)) ∧
        next.stack t <:+ rest ∧ next.registry.serviceActors name = none
  stoppedMono : ∀ i, s.actors.stopped i = true → next.actors.stopped i = true
  exiting : ∀ i, next.actors.exiting i = true → s.actors.exiting i = true ∨
    ∃ t id rest, s.stack t = .cpp (.exitErase id) :: rest ∧
      s.registry.serviceActors id = some i ∧ next.registry.services id = none ∧
        next.registry.serviceActors id = none
  tasks : ∀ task ∈ next.tasks, task ∈ s.tasks ∨
    (task.id = s.nextTaskId ∧ next.nextTaskId = s.nextTaskId + 1 ∧ task.serviceId ≠ "" ∧
      makesTask s l = some (task.vm, task.serviceId) ∧ ∃ entry, Executes s task.vm entry task.serviceId)
  nextTaskId : s.nextTaskId ≤ next.nextTaskId
  mail : ∀ i, ∀ mail ∈ next.actors.mailbox i, mail ∈ s.actors.mailbox i ∨ NewMail s next i mail
  trace : ∀ event ∈ next.trace, event ∈ s.trace ∨ NewEvent s l event

variable {t : Thread} {rest frames : List Frame} {frame : Frame} {vm j : Instance} {c : CallState V}
  {name : ServiceId} {a : Actors V} {co co' : Nat} {status : CoStatus} {k : Coroutine}
  {source : Source} {outcome : Outcome V}

lemma keep_move : CodeMove s l t (s.stack t) := .shrink [] _ .keep (by simp) (by simp) (by simp)

lemma pop_move (hstack : s.stack t = frame :: rest) (hends : Ends t l) : CodeMove s l t rest :=
  .shrink [] rest (.pop [] frame rest hstack hends) (by simp) (by simp) (by simp)

lemma push_move (cont : Cont) (hcont : Neutral cont) (hexit : ∀ id, cont ≠ .exit id)
    (hcaller : Caller s t (∃ n, t = .external n)) : CodeMove s l t (.cpp cont :: s.stack t) :=
  .shrink [cont] _ (.push cont hcaller) (by simpa using hcont) (by simp) (by simp [hexit])

lemma moved_keep (s : State V) (l : Label V) : Moved s l s where
  others _ _ := rfl
  stack _ _ := .code _ keep_move
  calls := .quiet _ (.refl _)
  released _ _ h := .inl h
  entered _ _ _ _ h := .inl h
  created _ _ h := .inl h
  services _ _ h := .inl h
  serviceActors _ _ h := .inl h
  names := .inl ⟨rfl, rfl⟩
  ready _ h := .inl h
  readyMono _ h := h
  stopped _ h := .inl h
  stoppedMono _ h := h
  exiting _ h := .inl h
  tasks _ h := .inl h
  nextTaskId := le_rfl
  mail _ _ h := .inl h
  trace _ h := .inl h

variable {next : State V}

lemma popScope_suffix (rest : List Frame) : State.popScope rest <:+ rest := by
  cases rest with
  | nil => exact List.suffix_refl _
  | cons frame =>
    cases frame with
    | scope => exact List.suffix_cons _ _
    | lua | cpp => exact List.suffix_refl _

lemma Left.suffix {conts : List Cont} (h : Left s l t conts rest) : rest <:+ s.stack t := by
  cases h with
  | keep | push => exact List.suffix_refl _
  | pop _ top rest hstack => exact hstack ▸ List.suffix_cons _ _
  | init vm rest hstack => exact (popScope_suffix rest).trans (hstack ▸ List.suffix_cons _ _)

lemma askedBy_of_any (hscope : currentScope (s.stack t) = currentScope frames) {id : ServiceId}
    (h : (currentScope frames).any (fun frame => frame.exitRequested && frame.serviceId == id) = true) :
    AskedBy s t id := by
  cases hframe : currentScope frames with
  | none =>
    rw [hframe] at h
    cases h
  | some frame =>
    rw [hframe, Option.any_some, Bool.and_eq_true, beq_iff_eq] at h
    exact ⟨frame, hscope.trans hframe, h.2⟩

lemma mem_requestCurrentExit (h : ∀ scope, frame ≠ .scope scope) :
    frame ∈ requestCurrentExit rest ↔ frame ∈ rest := by
  induction rest with
  | nil => rfl
  | cons top rest ih =>
    cases top with
    | scope => simp [requestCurrentExit, h]
    | lua | cpp => simp [requestCurrentExit, ih]

def Tracked : Entry → Prop
  | .handler _ _ => True
  | .onInit => True
  | _ => False

inductive CodeFrame (s : State V) (l : Label V) (t : Thread) : Frame → Prop where
  | neutral (cont) (hcont : Neutral cont) : CodeFrame s l t (.cpp cont)
  | endDispatch (id) : CodeFrame s l t (.cpp (.endDispatch id))
  | scope (frame : DispatchFrame) : CodeFrame s l t (.scope frame)
  | report (vm : Instance) (entry id) (rest : List Frame)
    (hstack : s.stack t = .lua vm entry :: rest) (hreports : Reports entry id) :
    CodeFrame s l t (.cpp (.invokeErrorHook id))
  | errorHook (id) (vm : Instance) (rest : List Frame)
    (hstack : s.stack t = .cpp (.invokeErrorHook id) :: rest)
    (hservice : s.registry.services id = some vm) : CodeFrame s l t (.lua vm (.onError id))
  | panic (vm : Instance) (id) (rest : List Frame)
    (hstack : s.stack t = .lua vm (.onError id) :: rest) : CodeFrame s l t (.lua vm (.onPanic id))
  | exit (id) (vm : Instance) (rest : List Frame) (hstack : s.stack t = .cpp (.exit id) :: rest)
    (hservice : s.registry.services id = some vm) (hl : l = .cont t) :
    CodeFrame s l t (.lua vm (.onExit id))
  | exitStage (top cont id) (rest : List Frame) (hstack : s.stack t = top :: rest)
    (hstage : ExitStage top cont id) : CodeFrame s l t (.cpp cont)
  | initialised (i exitAfterInit) (rest : List Frame) (hstack : s.stack t = .lua i .onInit :: rest) :
    CodeFrame s l t (.cpp (.spawnPublish i (s.actors.serviceOf i) exitAfterInit))
  | published (i) (name : ServiceId) (exitAfterInit) (rest : List Frame)
    (hstack : s.stack t = .cpp (.spawnPublish i name exitAfterInit) :: rest) :
    CodeFrame s l t (.cpp (.spawnReady i name exitAfterInit))
  | fallback (i vm : Instance) (request) (ht : t = .actor i) (hready : Receives s.actors i)
    (hservice : s.registry.services (s.actors.serviceOf i) = some vm) :
    CodeFrame s l t (.lua vm (.fallback request))
  | fired (i timer) (vm : Instance) (ht : t = .actor i) (htimer : timer ∈ s.calls.timers)
    (hmail : .timerFire timer.id ∈ s.actors.mailbox i) (hcallback : timer.callback = .lua vm) :
    CodeFrame s l t (.lua vm (.timer (s.actors.serviceOf i)))
  | forked (i task) (ht : t = .actor i) (htask : task ∈ s.tasks)
    (hmail : .forkTask task.id ∈ s.actors.mailbox i) :
    CodeFrame s l t (.lua task.vm (.fork task.serviceId))

lemma CodeMove.mem (h : CodeMove s l t frames) (hmem : frame ∈ frames) :
    frame ∈ s.stack t ∨ CodeFrame s l t frame := by
  have hpush : ∀ {top pushed rest}, s.stack t = top :: rest → CodeFrame s l t pushed →
      frame ∈ pushed :: rest → frame ∈ s.stack t ∨ CodeFrame s l t frame := by
    intro top pushed rest hstack hpushed hmem
    rcases List.mem_cons.mp hmem with rfl | hmem
    · exact .inr hpushed
    · exact .inl (hstack ▸ List.mem_cons_of_mem _ hmem)
  -- what an actor runs for a message it runs on an empty stack
  have hsection : ∀ {pushed id}, CodeFrame s l t pushed →
      frame ∈ [pushed, .cpp (.endDispatch id), .scope { serviceId := id }] →
      CodeFrame s l t frame := by
    intro pushed id hpushed hmem
    simp only [List.mem_cons, List.not_mem_nil, or_false] at hmem
    rcases hmem with rfl | rfl | rfl
    · exact hpushed
    · exact .endDispatch _
    · exact .scope _
  cases h with
  | shrink conts rest hleft hconts =>
    rcases List.mem_append.mp hmem with hmem | hmem
    · obtain ⟨cont, hcont, rfl⟩ := List.mem_map.mp hmem
      exact .inr (.neutral cont (hconts cont hcont))
    · exact .inl (hleft.suffix.mem hmem)
  | requestExit vm entry rest hstack =>
    rw [hstack]
    cases frame with
    | scope frame => exact .inr (.scope frame)
    | lua | cpp => exact .inl (by simpa [mem_requestCurrentExit] using hmem)
  | report vm entry id rest hstack hreports =>
    exact hpush hstack (.report vm entry id rest hstack hreports) hmem
  | errorHook id vm rest hstack hservice =>
    exact hpush hstack (.errorHook id vm rest hstack hservice) hmem
  | panic vm id rest hstack => exact hpush hstack (.panic vm id rest hstack) hmem
  | exit id vm rest hstack hservice hl =>
    rcases List.mem_cons.mp hmem with rfl | hmem
    · exact .inr (.exit id vm rest hstack hservice hl)
    · exact hpush hstack (.scope _) hmem
  | exitStage top cont id rest hstack hstage =>
    exact hpush hstack (.exitStage top cont id rest hstack hstage) hmem
  | initialised i exitAfterInit rest hstack =>
    rcases List.mem_cons.mp hmem with rfl | hmem
    · exact .inr (.initialised i exitAfterInit rest hstack)
    · exact .inl (hstack ▸ List.mem_cons_of_mem _ ((popScope_suffix rest).mem hmem))
  | published i name exitAfterInit rest hstack =>
    exact hpush hstack (.published i name exitAfterInit rest hstack) hmem
  | rejected i id =>
    exact .inr (hsection (.endDispatch id) (List.mem_cons_of_mem _ hmem))
  | fallback i vm request ht hready hempty hservice =>
    exact .inr (hsection (.fallback i vm request ht hready hservice) hmem)
  | fired i timer vm ht hready hempty htimer hmail hcallback =>
    rcases List.mem_cons.mp hmem with rfl | hmem
    · exact .inr (.fired i timer vm ht htimer hmail hcallback)
    · rw [List.mem_singleton.mp hmem]
      exact .inr (.scope _)
  | forked i task ht hready hempty htask hmail =>
    rcases List.mem_cons.mp hmem with rfl | hmem
    · exact .inr (.forked i task ht htask hmail)
    · rw [List.mem_singleton.mp hmem]
      exact .inr (.scope _)

lemma CodeMove.tracked_mem {entry : Entry} (h : CodeMove s l t frames) (htracked : Tracked entry)
    (hmem : .lua vm entry ∈ frames) : .lua vm entry ∈ s.stack t := by
  rcases h.mem hmem with hold | hframe
  · exact hold
  · cases hframe with
    | _ => exact htracked.elim

inductive StackFrame (s : State V) (l : Label V) (t : Thread) : Frame → Prop where
  | code (frame : Frame) (hcode : CodeFrame s l t frame) : StackFrame s l t frame
  | create (name : ServiceId) (rest : List Frame)
    (hstack : s.stack t = .cpp (.spawnCreate name) :: rest) (hl : l = .cont t) :
    StackFrame s l t (.lua s.actors.nextInstance .onInit)
  | answer (cause) (session co : Nat) (vm : Instance) (source : Source)
    (hanswers : answers s l = some (cause, session))
    (hresumee : s.calls.resumee session = some (co, vm)) :
    StackFrame s l t (.lua vm (.handler co source))
  | wake (i timer) (co : Nat) (wait) (vm : Instance) (ht : t = .actor i)
    (htimer : timer ∈ s.calls.timers) (hmail : .timerFire timer.id ∈ s.actors.mailbox i)
    (hcallback : timer.callback = .resume co) (hresumable : s.calls.resumable co = some (wait, vm)) :
    StackFrame s l t (.lua vm (.handler co .sleepTimer))
  | dispatched (i vm : Instance) (co : Nat) (ht : t = .actor i) (hready : Receives s.actors i)
    (hservice : s.registry.services (s.actors.serviceOf i) = some vm) :
    StackFrame s l t (.lua vm (.handler co (.dispatch (s.actors.serviceOf i))))

lemma StackMove.mem (h : StackMove s l t frames) (hmem : frame ∈ frames) :
    frame ∈ s.stack t ∨ StackFrame s l t frame := by
  cases h with
  | code frames hcode => exact (hcode.mem hmem).imp_right (.code frame)
  | create name rest hstack hl =>
    simp only [List.mem_cons] at hmem
    rcases hmem with rfl | rfl | hmem
    · exact .inr (.create name rest hstack hl)
    · exact .inr (.code _ (.scope _))
    · exact .inl (hstack ▸ List.mem_cons_of_mem _ hmem)
  | answer cause session co vm source conts rest hanswers hresumee hsource hleft hscope hconts =>
    simp only [List.mem_cons, List.mem_append, List.mem_map] at hmem
    rcases hmem with rfl | ⟨cont, hcont, rfl⟩ | hmem
    · exact .inr (.answer cause session co vm source hanswers hresumee)
    · exact .inr (.code _ (.neutral cont (hconts cont hcont).1))
    · exact .inl (hleft.suffix.mem hmem)
  | wake i timer co wait vm ht hready hempty htimer hmail hcallback hresumable =>
    rw [List.mem_singleton.mp hmem]
    exact .inr (.wake i timer co wait vm ht htimer hmail hcallback hresumable)
  | dispatched i vm co ht hready hempty hservice =>
    simp only [List.mem_cons, List.not_mem_nil, or_false] at hmem
    rcases hmem with rfl | rfl | rfl
    · exact .inr (.dispatched i vm co ht hready hservice)
    · exact .inr (.code _ (.endDispatch _))
    · exact .inr (.code _ (.scope _))

lemma setStack_others (frames : List Frame) (hl : actingThread l = some t) :
    ∀ t', actingThread l ≠ some t' → (s.setStack t frames).stack t' = s.stack t' := by
  intro t' ht'
  have hne : t' ≠ t := by
    rintro rfl
    exact ht' hl
  exact Function.update_of_ne hne _ _

lemma setStack_stack (hl : actingThread l = some t) (h : StackMove s l t frames) :
    ∀ t', actingThread l = some t' → StackMove s l t' ((s.setStack t frames).stack t') := by
  intro t' ht'
  rw [hl] at ht'
  cases ht'
  simpa using h

lemma setStack_entered (h : ∀ vm co source, .lua vm (.handler co source) ∈ frames →
      .lua vm (.handler co source) ∈ s.stack t ∨ Active c co vm) :
    ∀ t' vm co source, .lua vm (.handler co source) ∈ (s.setStack t frames).stack t' →
      .lua vm (.handler co source) ∈ s.stack t' ∨ Active c co vm := by
  intro t' vm co source hmem
  by_cases ht : t' = t
  · subst ht
    exact h vm co source (by simpa using hmem)
  · exact .inl (by simpa [ht] using hmem)

lemma setStack_created {n : Nat}
    (h : ∀ i, .lua i .onInit ∈ frames → .lua i .onInit ∈ s.stack t ∨ i < n) :
    ∀ t' i, .lua i .onInit ∈ (s.setStack t frames).stack t' → .lua i .onInit ∈ s.stack t' ∨ i < n := by
  intro t' i hmem
  by_cases ht : t' = t
  · subst ht
    exact h i (by simpa using hmem)
  · exact .inl (by simpa [ht] using hmem)

lemma moved_setStack (hl : actingThread l = some t) (h : CodeMove s l t frames) :
    Moved s l (s.setStack t frames) :=
  { moved_keep s l with
    others := setStack_others frames hl
    stack := setStack_stack hl (.code _ h)
    released := fun _ _ h => .inl h
    entered := setStack_entered (fun _ _ _ hmem => .inl (h.tracked_mem trivial hmem))
    created := setStack_created (fun _ hmem => .inl (h.tracked_mem trivial hmem))
    services := fun _ _ h => .inl h
    ready := fun _ h => .inl h
    stopped := fun _ h => .inl h }

lemma spawn_moved (hl : actingThread l = some t) (hframes : frames = s.stack t)
    (hcaller : Caller s t (∃ n, t = .external n)) (hspawn : MaySpawn s name) :
    Moved s l (s.setStack t (.cpp (.spawnCreate name) :: frames)) := by
  subst hframes
  refine moved_setStack hl (push_move _ ?_ (by simp) hcaller)
  rintro rfl
  cases hspawn.valid

lemma eraseActor_serviceActors {r : Registry} {id : ServiceId} {a : Instance}
    (h : (r.eraseActor name).serviceActors id = some a) : r.serviceActors id = some a := by
  by_cases hid : id = name
  · simp [Registry.eraseActor, hid] at h
  · simpa [Registry.eraseActor, hid] using h

lemma stop_stopped (i : Instance) (h : a.stopped j = true) : (a.stop i).stopped j = true := by
  by_cases hji : j = i
  · simp [Actors.stop, hji]
  · simpa [Actors.stop, hji] using h

lemma mem_post {i : Instance} {mail other : Mail V} (h : other ∈ (a.post i mail).mailbox j) :
    other ∈ a.mailbox j ∨ (j = i ∧ other = mail) := by
  by_cases hj : j = i
  · subst hj
    simpa [Actors.post] using h
  · exact .inl (by simpa [Actors.post, hj] using h)

lemma send_moved (a : Instance) (args : Option (List V)) (session : Nat) :
    Moved s l { s with actors := s.actors.post a (.service args session) } := by
  refine { moved_keep s l with mail := ?_ }
  intro i mail hmail
  rcases mem_post hmail with hmail | ⟨-, rfl⟩
  · exact .inl hmail
  · exact .inr trivial

lemma call_moved (args : Option (List V)) (a : Instance) (hl : actingThread l = some t)
    (hframes : frames = s.stack t) (hcaller : Caller s t (∃ n, t = .external n)) :
    Moved s l ({ s with
      calls := s.calls.registerSync
      actors := s.actors.post a (.syncCall args s.calls.nextSyncCallSession) }.setStack t
        (.cpp (.syncWait s.calls.nextSyncCallSession) :: frames)) := by
  subst hframes
  have hstack := push_move (l := l) (.syncWait s.calls.nextSyncCallSession) trivial (by simp) hcaller
  refine { moved_setStack hl hstack with calls := ?_, mail := ?_ }
  · exact .quiet _ { Quiet.refl s.calls with }
  · intro i mail hmail
    rcases mem_post hmail with hmail | ⟨-, rfl⟩
    · exact .inl hmail
    · exact .inr trivial

lemma active_setStatus (h : Active c co' vm)
    (hstatus : co' = co → ∀ wait, status ≠ .suspended wait) :
    Active (c.setStatus co status) co' vm := by
  obtain ⟨k, hk, hvm, hactive⟩ := h
  by_cases hne : co' = co
  · subst hne
    exact ⟨{ k with status }, by simp [CallState.setStatus, hk], hvm, hstatus rfl⟩
  · exact ⟨k, by simp [CallState.setStatus, hne, hk], hvm, hactive⟩

lemma active_resumeCaller (h : Active c co vm) (cause : Cause) (session : Nat) (ok : Bool)
    (values : List V) : Active (c.resumeCaller cause session ok values).1 co vm := by
  obtain ⟨_, _, _, heq, -⟩ := CallState.resumeCaller_fst c cause session ok values
  rw [heq]
  cases c.resumee session with
  | none => exact h
  | some => exact active_setStatus h (by simp)

lemma active_setStatus_resumable {wait : Wait} (h : c.resumable co = some (wait, vm)) :
    Active (c.setStatus co .running) co vm := by
  obtain ⟨k, hk, -, hvm⟩ := CallState.resumable_eq_some.mp h
  exact ⟨{ k with status := .running }, by simp [CallState.setStatus, hk], hvm, by simp⟩

lemma active_resumee {session : Nat} (h : c.resumee session = some (co, vm)) (cause : Cause)
    (ok : Bool) (values : List V) : Active (c.resumeCaller cause session ok values).1 co vm := by
  obtain ⟨-, pending, -, -, wait, hresumable⟩ := CallState.resumee_eq_some h
  obtain ⟨_, _, _, heq, -⟩ := CallState.resumeCaller_fst c cause session ok values
  rw [heq, h]
  exact active_setStatus_resumable hresumable

lemma resumee_congr (c c' : CallState V) (hsync : c'.pendingSyncCalls = c.pendingSyncCalls)
    (hpending : c'.pendingCalls = c.pendingCalls)
    (hresumable : ∀ co, c'.resumable co = c.resumable co) (session : Nat) :
    c'.resumee session = c.resumee session := by
  simp only [CallState.resumee, hsync, hpending, hresumable]

lemma resumable_eq_none (hk : c.coroutines co = some k) (h : ∀ wait, k.status ≠ .suspended wait) :
    c.resumable co = none := by
  unfold CallState.resumable
  rw [hk]
  dsimp only
  split
  · rename_i wait hwait
    exact absurd hwait (h wait)
  · rfl

lemma resumable_setStatus {before : CoStatus} (hco : c.statusOf co = some before)
    (hbefore : ∀ wait, before ≠ .suspended wait) (hstatus : ∀ wait, status ≠ .suspended wait)
    (co' : Nat) : (c.setStatus co status).resumable co' = c.resumable co' := by
  obtain ⟨k, hk, rfl⟩ := Option.map_eq_some_iff.mp hco
  by_cases hne : co' = co
  · subst hne
    have hk' : (c.setStatus co' status).coroutines co' = some { k with status } := by
      simp [CallState.setStatus, hk]
    rw [resumable_eq_none hk hbefore, resumable_eq_none hk' hstatus]
  · simp [CallState.resumable, CallState.setStatus, hne]

lemma resumable_ended (source : Source) (outcome : Outcome V) (hk : c.coroutines co = some k)
    (hstatus : k.status = .running) (co' : Nat) :
    (ended c co k source outcome).resumable co' = c.resumable co' := by
  by_cases hne : co' = co
  · subst hne
    simp [CallState.resumable, ended, hk, hstatus]
  · simp [CallState.resumable, ended, hne]

lemma finish_snd {vm' : Instance} (hco : c.statusOf co = some .running)
    (h : (c.finish co source outcome).2 = some (co', vm')) :
    ∃ values cause session, outcome = .returned values ∧
      completes c co source = some (cause, session) ∧ c.resumee session = some (co', vm') := by
  obtain ⟨k, hk, hstatus⟩ := Option.map_eq_some_iff.mp hco
  rcases finish_cases hk source outcome with
    ⟨values, cause, session, rfl, hcompletes, hfinish⟩ | ⟨-, hfinish⟩
  · refine ⟨values, cause, session, rfl, hcompletes, ?_⟩
    rw [hfinish, CallState.resumeCaller_snd] at h
    have hsame : (untagged (ended c co k source (.returned values)) co).resumee session =
        c.resumee session := by
      apply resumee_congr
      · rfl
      · rfl
      · exact resumable_ended source (.returned values) hk hstatus
    rw [← hsame, h]
  · rw [hfinish] at h
    cases h

lemma active_finish (source : Source) (outcome : Outcome V) (hco : c.statusOf co = some .running)
    (hne : co' ≠ co) (h : Active c co' vm) : Active (c.finish co source outcome).1 co' vm := by
  refine finish_rule (P := (Active · co' vm)) source outcome hco (fun k outcome => ?_) ?_
  · obtain ⟨k', hk', hvm, hactive⟩ := h
    exact ⟨k', by simp [ended, hne, hk'], hvm, hactive⟩
  · intro d cause session values hd
    have huntagged : Active (untagged d co) co' vm := hd
    exact active_resumeCaller huntagged _ _ _ _

lemma active_finish_resumed (hco : c.statusOf co = some .running)
    (h : (c.finish co source outcome).2 = some (co', vm)) :
    Active (c.finish co source outcome).1 co' vm := by
  obtain ⟨k, hk, -⟩ := Option.map_eq_some_iff.mp hco
  rcases finish_cases hk source outcome with
    ⟨values, cause, session, rfl, -, hfinish⟩ | ⟨-, hfinish⟩
  · rw [hfinish] at h ⊢
    rw [CallState.resumeCaller_snd] at h
    exact active_resumee h _ _ _
  · rw [hfinish] at h
    cases h

lemma moved_resumed {out : CallState V × Option (Nat × Instance)} (hl : actingThread l = some t)
    (hsome : ∀ co vm, out.2 = some (co, vm) →
      StackMove s l t (.lua vm (.handler co source) :: rest) ∧ Active out.1 co vm)
    (hnone : CodeMove s l t rest) (hcalls : CallMove s l out.1)
    (hreleased : ∀ co vm, Active s.calls co vm → Active out.1 co vm ∨
      ∃ vm' source' rest', s.stack t = .lua vm' (.handler co source') :: rest' ∧
        (∀ vm, out.2 ≠ some (co, vm)) ∧
          ∀ vm source, .lua vm (.handler co source) ∈ rest → .lua vm (.handler co source) ∈ rest') :
    Moved s l (s.resumed t rest source out) := by
  obtain ⟨calls, target⟩ := out
  cases target with
  | none =>
    refine { moved_setStack (s := s) hl hnone with
      calls := hcalls, released := ?_, entered := ?_ }
    · intro co vm hactive
      rcases hreleased co vm hactive with hkept | ⟨vm', source', rest', hstack, -, hrest⟩
      · exact .inl hkept
      · refine .inr ⟨t, vm', source', rest', hl, hstack, ?_⟩
        simpa [State.resumed] using hrest
    · exact setStack_entered (fun _ _ _ hmem => .inl (hnone.tracked_mem trivial hmem))
  | some target =>
    obtain ⟨co, vm⟩ := target
    obtain ⟨hstack, hactive⟩ := hsome co vm rfl
    refine { moved_setStack (s := s) hl hnone with
      others := setStack_others _ hl, stack := setStack_stack hl hstack, calls := hcalls,
      released := ?_, entered := ?_, created := ?_, services := fun _ _ h => .inl h,
      ready := fun _ h => .inl h, stopped := fun _ h => .inl h }
    · intro co' vm' hactive'
      rcases hreleased co' vm' hactive' with hkept | ⟨vm'', source', rest', hstack', hne, hrest⟩
      · exact .inl hkept
      refine .inr ⟨t, vm'', source', rest', hl, hstack', ?_⟩
      have hco : co ≠ co' := by
        rintro rfl
        exact hne vm rfl
      simpa [State.resumed, hco.symm] using hrest
    · apply setStack_entered
      intro vm' co' source' hmem
      rcases List.mem_cons.mp hmem with heq | hmem
      · cases heq
        exact .inr hactive
      · exact .inl (hnone.tracked_mem trivial hmem)
    · apply setStack_created
      intro i hmem
      exact .inl (hnone.tracked_mem trivial (by simpa using hmem))

end ShieldRuntime.Proofs
