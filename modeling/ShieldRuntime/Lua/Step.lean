import ShieldRuntime.Library.Machine
import ShieldRuntime.Lua.Manager

/-!
# The steps of the service manager

A step is one critical section, one API call of running Lua code, or one delivery. Its label says
who moves, and resolves what the manager does not decide: what the Lua code does next, what the
service table holds under a method name, and when timers and messages arrive. `step` gives `none`
where the move is not possible or changes nothing.

`shield.exit` leaves a reason in the innermost dispatch frame, and `exit` hands one to `on_exit`. The
steps do without the reasons; `ExitState` lets them go along, each of them together with the call of
`shield.exit` that it comes from.
-/

namespace ShieldRuntime.Lua

section

/-- A move of a handler coroutine inside `shield.call` or `shield.sleep`: the two parts of
`_coro_call`, `_resume_after`, and the `coroutine.yield` that follows either. -/
inductive CoroutineOp (V : Type) where
  | call (target : String)
  | post (args : List V)
  | sleep
  | yield
  deriving DecidableEq, Repr

/-- Another API call of running Lua code, or the end of that code. A failure of `on_init` is
`late` if it comes after the spawn timeout. -/
inductive ApiOp (V : Type) where
  | syncCall (target : String) (args : Option (List V))
  | send (target : String) (args : Option (List V))
  | spawn (name : ServiceId)
  | exit
  | register (name : String)
  | unregister (name : String)
  | timer (repeating : Bool)
  | cancelTimer (id : Nat)
  | fork
  | ret (values : List V)
  | raise (late : Bool)
  deriving DecidableEq, Repr

/-- What a service table holds under a method name. The factory of coroutines gives the address of
a new one, or fails. -/
inductive MethodLookup where
  | notLoaded
  | missing
  | notFunction
  | function (co : Option Nat)
  deriving DecidableEq, Repr

inductive Command (V : Type) where
  | spawn (name : ServiceId)
  | exit (serviceId : ServiceId)
  | shutdownAll
  | call (target : String) (args : Option (List V))
  | send (target : String) (args : Option (List V))
  deriving DecidableEq, Repr

inductive Label (V : Type) where
  | coroutine (t : Thread) (op : CoroutineOp V)
  | api (t : Thread) (op : ApiOp V)
  | cont (t : Thread)
  | receive (i : Instance) (look : MethodLookup)
  | tick (timerId : Nat)
  | tickTimeout (session : Nat)
  | wake (t : Thread)
  | giveUp (t : Thread)
  | command (n : Nat) (command : Command V)
  | terminate (i : Instance)
  | collect (co : Nat)
  | loadFails (t : Thread)
  deriving DecidableEq, Repr

namespace State

variable {V : Type} (s : State V) (t : Thread)

def setStack (frames : List Frame) : State V :=
  { s with stack := Function.update s.stack t frames }

section
variable (frames : List Frame)

@[simp] lemma stack_setStack : (s.setStack t frames).stack t = frames := Function.update_self ..

@[simp] lemma stack_setStack_of_ne {t' : Thread} (h : t' ≠ t) :
    (s.setStack t frames).stack t' = s.stack t' :=
  Function.update_of_ne h ..

@[simp] lemma registry_setStack : (s.setStack t frames).registry = s.registry := rfl

@[simp] lemma actors_setStack : (s.setStack t frames).actors = s.actors := rfl

@[simp] lemma calls_setStack : (s.setStack t frames).calls = s.calls := rfl

end

def attributed (vm : Instance) (id : ServiceId) : State V :=
  { s with trace := .attributed vm id :: s.trace }

/-- The tables after a resume, with the resumed coroutine on top of the thread. -/
def resumed (rest : List Frame) (source : Source)
    (out : CallState V × Option (Nat × Instance)) : State V :=
  { s with calls := out.1 }.setStack t
    (match out.2 with
    | some (co, vm) => .lua vm (.handler co source) :: rest
    | none => rest)

/-- The actor of the service that an API call is attributed to. -/
def actorOf (id : ServiceId) : Option Instance :=
  if id = "" then none else s.registry.serviceActors id

/-- `spawn` up to the creation of the VM. -/
def spawn (frames : List Frame) (name : ServiceId) : Option (State V) :=
  if s.registry.stopping || s.registry.contains name || !validName name then none
  else some (s.setStack t (.cpp (.spawnCreate name) :: frames))

def send (target : String) (args : Option (List V)) : Option (State V) :=
  if s.registry.stopping then none
  else
    match s.registry.targetActor target with
    | some a => some { s with actors := s.actors.post a (.service args 0) }
    | none => none

/-- `call` up to the wait on the condition variable. -/
def call (frames : List Frame) (target : String) (args : Option (List V)) : Option (State V) :=
  let id := s.registry.queryService target
  if s.registry.stopping || (s.registry.services id).isNone || currentServiceId frames == id then
    none
  else
    match s.registry.serviceActors id with
    | some a =>
      let session := s.calls.nextSyncCallSession
      some ({ s with
        calls := s.calls.registerSync
        actors := s.actors.post a (.syncCall args session) }.setStack t
          (.cpp (.syncWait session) :: frames))
    | none => none

/-- Lua code at the top of a thread may act: a coroutine only outside `shield.call` and
`shield.sleep`. -/
def canAct : Entry → Bool
  | .handler co _ => decide (s.calls.statusOf co = some .running)
  | _ => true

/-- The second part of `_coro_call`. If the request cannot be sent, the pending call is resumed
with an error while its coroutine runs. -/
def postCall (frames : List Frame) (co session : Nat)
    (target : ServiceId) (args : List V) : State V :=
  match s.registry.targetActor target with
  | some a =>
    { s with
      actors := s.actors.post a (.service (some args) session)
      calls := s.calls.setStatus co (.posted session) }
  | none =>
    s.resumed t frames .response
      ((s.calls.setStatus co .running).resumeCaller (.sendFailure session) session false [])

def fork (vm : Instance) (id : ServiceId) : State V :=
  if id = "" then s
  else
    match s.registry.serviceActors id with
    | some a =>
      { s with
        tasks := { id := s.nextTaskId, serviceId := id, vm } :: s.tasks
        nextTaskId := s.nextTaskId + 1
        actors := s.actors.post a (.forkTask s.nextTaskId) }
    | none => { s with nextTaskId := s.nextTaskId + 1 }

/-- `shield.call` and `shield.sleep` in the handler coroutine at `co`, for the stack
`.lua vm (.handler co source) :: rest`. -/
def coroutineOp (vm : Instance) (co : Nat) (source : Source)
    (rest : List Frame) : CoroutineOp V → Option (State V)
  | .call target =>
    let id := currentServiceId rest
    let callee := s.registry.queryService target
    if s.calls.statusOf co = some .running ∧ isInExit rest = false ∧ callee ≠ "" then
      some ({ s with
        calls := s.calls.suspendForCall co id callee (s.actorOf id) }.attributed vm id)
    else none
  | .post args =>
    match s.calls.statusOf co with
    | some (.registered session target) =>
      some (s.postCall t (.lua vm (.handler co source) :: rest) co session target args)
    | _ => none
  | .sleep =>
    let id := currentServiceId rest
    if s.calls.statusOf co = some .running then
      some { s with
        calls := s.calls.armSleep co id (s.actorOf id)
        trace := .slept co (s.actorOf id).isSome :: .attributed vm id :: s.trace }
    else none
  | .yield =>
    match s.calls.statusOf co with
    | some (.posted session) =>
      some ({ s with calls := s.calls.setStatus co (.suspended (.call session)) }.setStack t rest)
    | some .armed =>
      some ({ s with calls := s.calls.setStatus co (.suspended .sleep) }.setStack t rest)
    | _ => none

def popScope : List Frame → List Frame
  | .scope _ :: rest => rest
  | frames => frames

/-- `on_init` of instance `i` has ended: the service is published next, or what the spawn has done
is undone. Past the spawn timeout nothing is undone. -/
def afterInit (i : Instance) (rest : List Frame) (outcome : Outcome V) (late : Bool) : State V :=
  let name := s.actors.serviceOf i
  match outcome, late with
  | .returned _, _ =>
    let exitAfterInit :=
      (currentScope rest).any fun frame => frame.exitRequested && frame.serviceId == name
    s.setStack t (.cpp (.spawnPublish i name exitAfterInit) :: popScope rest)
  | .raised, false =>
    { s with
      registry := (s.registry.dropNames name).eraseActor name
      actors := s.actors.stop i }.setStack t (popScope rest)
  | .raised, true => s.setStack t (popScope rest)

/-- The C++ code that dispatched a handler looks at how it ended. -/
def afterHandler (source : Source) (outcome : Outcome V) (rest : List Frame) : List Frame :=
  match source, outcome with
  | .dispatch id, .returned _ => .cpp (.resetErrorCount id) :: rest
  | .dispatch id, .raised => .cpp (.invokeErrorHook id) :: rest
  | _, _ => rest

/-- A timer callback or a forked task that fails is reported to the error hook. -/
def afterTask (id : ServiceId) (outcome : Outcome V) (rest : List Frame) : List Frame :=
  match outcome with
  | .returned _ => rest
  | .raised => .cpp (.invokeErrorHook id) :: rest

/-- Lua code ends, and the C++ code that called it goes on. -/
def afterLua (vm : Instance) (entry : Entry) (rest : List Frame)
    (outcome : Outcome V) (late : Bool) : State V :=
  match entry with
  | .handler co source =>
    s.resumed t (afterHandler source outcome rest) .response (s.calls.finish co source outcome)
  | .fallback request =>
    { s with calls := s.calls.reject request (.fallback outcome) }.setStack t rest
  | .onInit => s.afterInit t vm rest outcome late
  | .onExit id =>
    { s with tasks := s.tasks.filter fun task => task.serviceId ≠ id }.setStack t
      (.cpp (.exitTimers id) :: rest)
  | .onError id =>
    if maxErrorsBeforePanic ≤ s.registry.errorCounts id then
      s.setStack t (.lua vm (.onPanic id) :: rest)
    else s.setStack t rest
  | .onPanic id => s.setStack t (.cpp (.exit id) :: rest)
  | .timer id => s.setStack t (afterTask id outcome rest)
  | .fork id => s.setStack t (afterTask id outcome rest)

/-- The other API calls, which any Lua code may make, for the stack `.lua vm entry :: rest`. -/
def apiOp (vm : Instance) (entry : Entry) (rest : List Frame) : ApiOp V → Option (State V)
  | .syncCall target args =>
    if isInExit rest then none else s.call t (.lua vm entry :: rest) target args
  | .send target args => s.send target args
  | .spawn name => s.spawn t (.lua vm entry :: rest) name
  | .exit =>
    some ((s.attributed vm (currentServiceId rest)).setStack t
      (.lua vm entry :: requestCurrentExit rest))
  | .register name =>
    let owner := currentServiceId rest
    if owner = "" ∨ !validName name ∨
        (s.registry.publishedNames name).any (fun other => other != owner) then none
    else some ({ s with registry := s.registry.registerName owner name }.attributed vm owner)
  | .unregister name =>
    let owner := currentServiceId rest
    if owner = "" ∨ s.registry.publishedNames name ≠ some owner then none
    else some ({ s with registry := s.registry.unregisterName owner name }.attributed vm owner)
  | .timer repeating =>
    -- both sections of the scheduling; `Timers` has them apart
    let id := currentServiceId rest
    if timerLimit ≤ s.calls.timers.length then none
    else
      match s.actorOf id with
      | some a =>
        some ({ s with calls := s.calls.addTimer id a (.lua vm) repeating }.attributed vm id)
      | none => some (s.attributed vm id)
  | .cancelTimer id => some { s with calls := s.calls.removeTimer id }
  | .fork =>
    let id := currentServiceId rest
    if forkLimit ≤ s.tasks.countP (fun task => task.serviceId = id) then none
    else some ((s.fork vm id).attributed vm id)
  | .ret values => some (s.afterLua t vm entry rest (.returned values) false)
  | .raise late => some (s.afterLua t vm entry rest .raised late)

def coroutineStep (op : CoroutineOp V) : Option (State V) :=
  match s.stack t with
  | .lua vm (.handler co source) :: rest => s.coroutineOp t vm co source rest op
  | _ => none

def apiStep (op : ApiOp V) : Option (State V) :=
  match s.stack t with
  | .lua vm entry :: rest => if s.canAct entry then s.apiOp t vm entry rest op else none
  | _ => none

/-- One step of C++ code at the top of a thread. -/
def runCpp (cont : Cont) (rest : List Frame) : Option (State V) :=
  match cont with
  | .endDispatch id =>
    if (currentScope rest).any fun frame => frame.exitRequested && frame.serviceId == id then
      some (s.setStack t (.cpp (.exit id) :: rest))
    else some (s.setStack t rest)
  | .resetErrorCount id =>
    some ({ s with registry := s.registry.setErrorCount id 0 }.setStack t rest)
  | .invokeErrorHook id =>
    match s.registry.services id with
    | none => some (s.setStack t rest)
    | some vm =>
      some ({ s with
        registry := s.registry.setErrorCount id (s.registry.errorCounts id + 1) }.setStack t
          (.lua vm (.onError id) :: rest))
  | .exit id =>
    match s.registry.services id with
    | none => some (s.setStack t rest)
    | some vm =>
      some (s.setStack t
        (.lua vm (.onExit id) :: .scope { serviceId := id, inExit := true } :: rest))
  | .exitTimers id =>
    -- the listing and all cancellings; `Timers` has them apart
    some ({ s with
      calls := { s.calls with
        timers := s.calls.timers.filter fun timer => timer.serviceId ≠ id } }.setStack t
          (.cpp (.exitTimeouts id) :: rest))
  | .exitTimeouts id =>
    some ({ s with
      calls := { s.calls with
        callTimeouts := fun session =>
          if (s.calls.pendingCalls session).any
              (fun pending : PendingCall => pending.callerService = id) then none
          else s.calls.callTimeouts session } }.setStack t (.cpp (.exitErase id) :: rest))
  | .exitErase id =>
    some ({ s with
      registry := s.registry.eraseService id
      actors :=
        match s.registry.serviceActors id with
        | some a => s.actors.askExit a
        | none => s.actors }.setStack t rest)
  | .spawnCreate name =>
    let i := s.actors.nextInstance
    some ({ s with
      actors := s.actors.create name
      registry := s.registry.emplaceActor name i }.setStack t
        (.lua i .onInit :: .scope { serviceId := name } :: rest))
  | .spawnPublish i name exitAfterInit =>
    if s.registry.contains name then
      some ({ s with registry := s.registry.eraseActor name, actors := s.actors.stop i }.setStack t
        rest)
    else
      some ({ s with registry := s.registry.publish name i }.setStack t
        (.cpp (.spawnReady i name exitAfterInit) :: rest))
  | .spawnReady i name exitAfterInit =>
    some ({ s with actors := s.actors.setReady i }.setStack t
      (if exitAfterInit then .cpp (.exit name) :: rest else rest))
  | .shutdown [] _ =>
    some ({ s with registry := { s.registry with serviceOrder := [] } }.setStack t rest)
  | .shutdown (id :: order) seen =>
    if id ∉ seen ∧ (s.registry.services id).isSome then
      some (s.setStack t (.cpp (.exit id) :: .cpp (.shutdown order (id :: seen)) :: rest))
    else some (s.setStack t (.cpp (.shutdown order (id :: seen)) :: rest))
  | .syncWait _ => none

def contStep : Option (State V) :=
  match s.stack t with
  | .cpp cont :: rest => s.runCpp t cont rest
  | .scope _ :: rest => some (s.setStack t rest)
  | _ => none

/-- `dispatch_message` with `call_service_method_coroutine`, up to the first `lua_resume`. -/
def dispatchMessage (i : Instance) (request : Request) (args : Option (List V))
    (look : MethodLookup) : Option (State V) :=
  let id := s.actors.serviceOf i
  let base : List Frame := [.cpp (.endDispatch id), .scope { serviceId := id }]
  let rejected (how : Completion V) : Option (State V) :=
    some ({ s with calls := s.calls.reject request how }.setStack (.actor i) base)
  match s.registry.services id with
  | none => some s
  | some vm =>
    match look, args with
    | .notLoaded, _ => rejected .notLoaded
    | .missing, _ => rejected .methodMissing
    | .notFunction, _ => rejected .notFunction
    | .function _, none => rejected .argsNotArray
    | .function none, some _ =>
      some (s.setStack (.actor i) (.lua vm (.fallback request) :: base))
    | .function (some co), some _ =>
      if (s.calls.coroutines co).isSome then none
      else
        some ({ s with calls := s.calls.start co vm request }.setStack (.actor i)
          (.lua vm (.handler co (.dispatch id)) :: base))

/-- A message with the session zero is not a call. -/
def serviceRequest (session : Nat) : Request :=
  if session = 0 then .send else .coroCall session

def syncRequest (session : Nat) : Request :=
  if session = 0 then .send else .syncCall session

/-- `fire_actor_timer`. A sleeping coroutine is resumed without a dispatch frame. -/
def fireActorTimer (i : Instance) (timerId : Nat) : State V :=
  match s.calls.timers.find? fun timer => timer.id = timerId with
  | none => s
  | some timer =>
    let calls := if timer.repeating then s.calls else s.calls.removeTimer timerId
    match timer.callback with
    | .resume co => s.resumed (.actor i) [] .sleepTimer (calls.resumeSleeper co)
    | .lua vm =>
      let id := s.actors.serviceOf i
      { s with calls }.setStack (.actor i) [.lua vm (.timer id), .scope { serviceId := id }]

def runReadyForkTask (i : Instance) (taskId : Nat) : State V :=
  match s.tasks.find? fun task => task.id = taskId with
  | none => s
  | some task =>
    { s with tasks := s.tasks.filter fun other => other.id ≠ taskId }.setStack (.actor i)
      [.lua task.vm (.fork task.serviceId), .scope { serviceId := task.serviceId }]

/-- The `call_timeout_atom` handler. -/
def callTimeout (i : Instance) (session : Nat) : State V :=
  s.resumed (.actor i) [] .timeout
    ({ s.calls with
      callTimeouts := Function.update s.calls.callTimeouts session none }.resumeCaller
        (.timeout session) session false [])

/-- The behavior of a service actor after `on_init`, for the first message of its mailbox. -/
def receive (i : Instance) (look : MethodLookup) : Option (State V) :=
  if s.actors.ready i ∧ s.actors.stopped i = false ∧ (s.stack (.actor i)).isEmpty then
    match s.actors.mailbox i with
    | [] => none
    | mail :: rest =>
      let s : State V :=
        { s with actors := { s.actors with mailbox := Function.update s.actors.mailbox i rest } }
      match mail with
      | .service args session => s.dispatchMessage i (serviceRequest session) args look
      | .syncCall args session => s.dispatchMessage i (syncRequest session) args look
      | .timerFire timerId => some (s.fireActorTimer i timerId)
      | .callTimeout session => some (s.callTimeout i session)
      | .forkTask taskId => some (s.runReadyForkTask i taskId)
  else none

/-- A thread outside the actor system calls the manager. -/
def commandStep (n : Nat) (command : Command V) : Option (State V) :=
  if (s.stack (.external n)).isEmpty then
    match command with
    | .spawn name => s.spawn (.external n) [] name
    | .exit id => some (s.setStack (.external n) [.cpp (.exit id)])
    | .shutdownAll =>
      some ({ s with registry := { s.registry with stopping := true } }.setStack (.external n)
        [.cpp (.shutdown s.registry.serviceOrder.reverse [])])
    | .call target args => s.call (.external n) [] target args
    | .send target args => s.send target args
  else none

/-- A thread blocked in `call` goes on, because its call was completed or took too long. -/
def endWait (completed : Bool) : Option (State V) :=
  match s.stack t with
  | .cpp (.syncWait session) :: rest =>
    if (s.calls.syncResults session).isSome = completed then
      some ({ s with calls := s.calls.releaseSync session }.setStack t rest)
    else none
  | _ => none

/-- The drivers of timers and timeouts send to the actor they were made for. -/
def tick (timerId : Nat) : Option (State V) :=
  match s.calls.timers.find? fun timer => timer.id = timerId with
  | some timer => some { s with actors := s.actors.post timer.target (.timerFire timerId) }
  | none => none

def tickTimeout (session : Nat) : Option (State V) :=
  match s.calls.callTimeouts session with
  | some a =>
    some { s with
      actors := s.actors.post a (.callTimeout session)
      calls := { s.calls with
        callTimeouts := Function.update s.calls.callTimeouts session none } }
  | none => none

def terminate (i : Instance) : Option (State V) :=
  if s.actors.exiting i ∧ (s.stack (.actor i)).isEmpty then
    some { s with actors := s.actors.stop i }
  else none

/-- A suspended coroutine is freed together with its VM, after the service has exited. -/
def collect (co : Nat) : Option (State V) :=
  match s.calls.coroutines co with
  | some k =>
    match k.status with
    | .suspended _ =>
      if s.registry.services (s.actors.serviceOf k.vm) ≠ some k.vm then
        some { s with
          calls := { s.calls with coroutines := Function.update s.calls.coroutines co none } }
      else none
    | _ => none
  | none => none

/-- `spawn` gives up before there is an actor, because of its options, the VM or the module. What
the script of a module does while it is loaded is left out. -/
def loadFails : Option (State V) :=
  match s.stack t with
  | .cpp (.spawnCreate _) :: rest => some (s.setStack t rest)
  | _ => none

def step : Label V → Option (State V)
  | .coroutine t op => s.coroutineStep t op
  | .api t op => s.apiStep t op
  | .cont t => s.contStep t
  | .receive i look => s.receive i look
  | .tick timerId => s.tick timerId
  | .tickTimeout session => s.tickTimeout session
  | .wake t => s.endWait t true
  | .giveUp t => s.endWait t false
  | .command n command => s.commandStep n command
  | .terminate i => s.terminate i
  | .collect co => s.collect co
  | .loadFails t => s.loadFails t

end State

variable {V : Type}

/-- The name of a new service; `hash` is `std::hash<std::string_view>`. -/
def spawnName (hash : String → Nat) (module name : String) : ServiceId :=
  if name = "" then module ++ ":" ++ toString (hash module) else name

/-- What `enqueue_forked_task` returns. -/
def State.forkedId (s : State V) (id : ServiceId) : Nat :=
  if id = "" then 0
  else
    match s.registry.serviceActors id with
    | some _ => s.nextTaskId
    | none => 0

/-- What the compiler says of the code in a REPL. -/
inductive Compiled where
  | complete
  | incomplete
  | invalid
  deriving DecidableEq, Repr

inductive ConsoleCommand where
  | attach (args : List String)
  | eval (args : List String)
  | luaLine (code : Compiled)
  | status
  | services
  | service (args : List String)
  deriving DecidableEq, Repr

/-- The ids that a command passes to `enqueue_forked_task`. -/
def ConsoleCommand.delegates : ConsoleCommand → List ServiceId
  | .attach args | .eval args | .service args => if args.isEmpty then [] else [""]
  | .luaLine code => if code = .complete then [""] else []
  | .status | .services => [""]

end

/-- A call of `shield.exit`: its number among all such calls, the service whose code made it, and
the service of the dispatch frame in which it was made. -/
structure ExitRequest where
  number : Nat
  caller : ServiceId
  scope : ServiceId
  deriving DecidableEq, Repr

/-- `exit_reason`, and the call that has set it. -/
structure ExitNote where
  reason : String := "normal"
  request : Option ExitRequest := none
  deriving DecidableEq, Repr

/-- A step, with the reason that `shield.exit`, `exit` or `shutdown_all` is called with. -/
structure ExitLabel (V : Type) where
  label : Label V
  reason : Option String := none
  deriving DecidableEq, Repr

def isScope : Frame → Bool
  | .scope _ => true
  | _ => false

def depth (frames : List Frame) : Nat := frames.countP isScope

/-- The manager together with the reasons of its exits. -/
structure ExitState (V : Type) where
  manager : State V := {}
  -- `exit_reason` of the entries of `tls_dispatch_stack`
  notes : Thread → Nat → ExitNote := fun _ _ => {}
  -- the reason with which the C++ code at the top of the thread calls `exit`
  held : Thread → ExitNote := fun _ => {}
  shutdownReason : Thread → String := fun _ => "stopping"
  asked : Nat := 0

namespace ExitState

variable {V : Type}

variable (s : ExitState V)

def innermost (t : Thread) : ExitNote :=
  s.notes t (depth (s.manager.stack t) - 1)

/-- The manager has moved; a new dispatch frame has the default reason. -/
def moved (next : State V) : ExitState V :=
  { s with
    manager := next
    notes := fun t i =>
      if depth (s.manager.stack t) ≤ i ∧ i < depth (next.stack t) then {} else s.notes t i }

def setHeld (t : Thread) (note : ExitNote) : ExitState V :=
  { s with held := Function.update s.held t note }

/-- The reason that `request_current_exit` stores. -/
def reasonText (reason : Option String) : String :=
  if reason.getD "normal" = "" then "normal" else reason.getD "normal"

/-- `request_current_exit` for code of the VM, in the dispatch frames of `rest`. -/
def requestCurrentExit (t : Thread) (vm : Instance) (rest : List Frame)
    (reason : Option String) : ExitState V :=
  let note : ExitNote := {
    reason := reasonText reason
    request := some {
      number := s.asked
      caller := s.manager.actors.serviceOf vm
      scope := currentServiceId rest } }
  { s with
    asked := s.asked + 1
    notes :=
      if depth rest = 0 ∨ isInExit rest then s.notes
      else Function.update s.notes t (Function.update (s.notes t) (depth rest - 1) note) }

/-- The reason that the C++ code at the top of the thread holds after its next step. -/
def heldByCpp (t : Thread) : ExitNote :=
  match s.manager.stack t with
  | .cpp (.endDispatch _) :: _ => s.innermost t
  | .cpp (.shutdown _ _) :: _ => { reason := s.shutdownReason t }
  | _ => s.held t

/-- The reason that the caller of Lua code holds after that code. -/
def heldAfterLua (t : Thread) (returned : Bool) : ExitNote :=
  match s.manager.stack t with
  | .lua _ .onInit :: _ => if returned then s.innermost t else s.held t
  | .lua _ (.onPanic _) :: _ => { reason := "panic" }
  | _ => s.held t

def step (s : ExitState V) (l : ExitLabel V) : Option (ExitState V) :=
  (s.manager.step l.label).map fun next =>
    match l.label with
    | .api t .exit =>
      match s.manager.stack t with
      | .lua vm _ :: rest => (s.moved next).requestCurrentExit t vm rest l.reason
      | _ => s.moved next
    | .api t (.ret _) => (s.moved next).setHeld t (s.heldAfterLua t true)
    | .api t (.raise _) => (s.moved next).setHeld t (s.heldAfterLua t false)
    | .cont t => (s.moved next).setHeld t (s.heldByCpp t)
    | .command n (.exit _) => (s.moved next).setHeld (.external n) { reason := l.reason.getD "normal" }
    | .command n .shutdownAll =>
      { s.moved next with
        shutdownReason :=
          Function.update s.shutdownReason (.external n) (l.reason.getD "stopping") }
    | _ => s.moved next

end ExitState

end ShieldRuntime.Lua
