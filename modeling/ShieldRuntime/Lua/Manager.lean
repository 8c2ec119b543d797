import Mathlib.Logic.Function.Basic
import Mathlib.Tactic

/-!
# The service manager

The tables of `LuaServiceManager` that connect callers and handlers: the pending calls, the
pending synchronous calls, the session tags of handler coroutines and the timers, together with
the coroutines themselves. A Lua coroutine is known by the address of its `lua_State`, which is
free for reuse once the coroutine is gone. `V` is the type of the JSON values that are passed.

The rest of the state: the registry of services and names, the actors with
their mailboxes, the forked tasks, and the call stack of every thread. The frames of a stack are
the entries of the thread-local dispatch stack, the Lua code that runs, and the C++ code that goes
on when what is above it is done. The last senders, trace ids, deadlines and texts of errors are
left out, and so are the arguments of hooks.
-/

namespace ShieldRuntime.Lua

abbrev ServiceId := String

/-- One spawned service: the number stands for its VM and for the actor that serves it. -/
abbrev Instance := Nat

/-- What a handler serves: a plain message, or the request of a call. -/
inductive Request where
  | send
  | coroCall (session : Nat)
  | syncCall (session : Nat)
  deriving DecidableEq, Repr

/-- The `call_session` of the message. -/
def Request.session : Request → Nat
  | send => 0
  | coroCall session => session
  | syncCall session => session

/-- Why a coroutine is suspended. -/
inductive Wait where
  | sleep
  | call (session : Nat)
  deriving DecidableEq, Repr

/-- Where a coroutine stands. Inside `shield.call` it has registered its pending call and then
posted the request before it yields; inside `shield.sleep` it has armed its timer. -/
inductive CoStatus where
  | running
  | registered (session : Nat) (target : ServiceId)
  | posted (session : Nat)
  | armed
  | suspended (wait : Wait)
  deriving DecidableEq, Repr

/-- A handler coroutine; `invocation` numbers the handlers of the run. -/
structure Coroutine where
  vm : Instance
  request : Request
  invocation : Nat
  status : CoStatus := .running
  deriving DecidableEq, Repr

/-- The coroutine that waits for an answer. -/
structure PendingCall where
  callerCo : Nat
  callerService : ServiceId
  deriving DecidableEq, Repr

/-- The callback of a timer: resuming a sleeping coroutine, or a Lua function of a VM. -/
inductive TimerCallback where
  | resume (co : Nat)
  | lua (vm : Instance)
  deriving DecidableEq, Repr

/-- A timer, with the actor that its fires go to. -/
structure ActorTimer where
  id : Nat
  serviceId : ServiceId
  target : Instance
  callback : TimerCallback
  repeating : Bool := false
  deriving DecidableEq, Repr

/-- Which code called `lua_resume` last. -/
inductive Source where
  | dispatch (serviceId : ServiceId)
  | sleepTimer
  | response
  | timeout
  deriving DecidableEq, Repr

inductive Outcome (V : Type) where
  | returned (values : List V)
  | raised
  deriving DecidableEq, Repr

/-- How the handler of a request terminated. -/
inductive Completion (V : Type) where
  | notLoaded
  | methodMissing
  | notFunction
  | argsNotArray
  | fallback (outcome : Outcome V)
  | coroutine (source : Source) (outcome : Outcome V)
  deriving DecidableEq, Repr

inductive Cause where
  | handler (invocation : Nat) (request : Request)
  | timeout (session : Nat)
  | sendFailure (session : Nat)
  deriving DecidableEq, Repr

/-- Who got the values of a `resume_caller`: a synchronous caller, a coroutine suspended for the
given reason, nobody because the coroutine was not suspended, or nobody because nothing waits. -/
inductive Recipient where
  | syncCaller (session : Nat)
  | coroutine (wait : Wait)
  | notSuspended
  | nobody
  deriving DecidableEq, Repr

/-- What the run records: the terminations of handlers, with whether the caller was still waiting
for this answer, and the invocations of `resume_caller`. -/
inductive CallEvent (V : Type) where
  | completed (invocation : Nat) (request : Request) (how : Completion V) (waiting : Bool)
  | resumeCaller (cause : Cause) (session : Nat) (ok : Bool) (values : List V)
    (recipient : Recipient)
  deriving DecidableEq, Repr

/-- The tables of calls and timers. The counters are `uint64_t` in the source and unbounded here. -/
structure CallState (V : Type) where
  coroutines : Nat → Option Coroutine := fun _ => none
  handlerCallSession : Nat → Option Nat := fun _ => none
  pendingCalls : Nat → Option PendingCall := fun _ => none
  nextCallSession : Nat := 1
  callTimeouts : Nat → Option Instance := fun _ => none
  pendingSyncCalls : Nat → Bool := fun _ => false
  syncResults : Nat → Option (Bool × List V) := fun _ => none
  nextSyncCallSession : Nat := 1
  timers : List ActorTimer := []
  nextTimerId : Nat := 1
  nextInvocation : Nat := 0
  log : List (CallEvent V) := []

namespace CallState

variable {V : Type} (c : CallState V)

def record (event : CallEvent V) : CallState V :=
  { c with log := event :: c.log }

def setStatus (co : Nat) (status : CoStatus) : CallState V :=
  { c with
    coroutines := Function.update c.coroutines co
      ((c.coroutines co).map fun k => { k with status }) }

def statusOf (co : Nat) : Option CoStatus :=
  (c.coroutines co).map Coroutine.status

/-- What the coroutine at `co` is for, whatever its status. -/
def handlerOf (co : Nat) : Option (Instance × Request × Nat) :=
  (c.coroutines co).map fun k => (k.vm, k.request, k.invocation)

@[simp] lemma handlerOf_setStatus (co : Nat) (status : CoStatus) :
    (c.setStatus co status).handlerOf = c.handlerOf := by
  funext other
  by_cases h : other = co
  · subst h
    simp [handlerOf, setStatus, Function.comp_def]
  · simp [handlerOf, setStatus, h]

variable {co : Nat} {vm : Instance}

variable {c} in
lemma statusOf_setStatus_self {before : CoStatus} (status : CoStatus)
    (h : c.statusOf co = some before) : (c.setStatus co status).statusOf co = some status := by
  obtain ⟨k, hk, -⟩ := Option.map_eq_some_iff.mp h
  simp [setStatus, statusOf, hk]

lemma statusOf_setStatus_ne {other : Nat} (status : CoStatus) (h : other ≠ co) :
    (c.setStatus co status).statusOf other = c.statusOf other := by
  simp [setStatus, statusOf, h]

/-- The handler of a request starts in a fresh coroutine at address `co`, which
`set_handler_call_session` tags with the session of a call. -/
def start (co : Nat) (vm : Instance) (request : Request) : CallState V :=
  { c with
    coroutines := Function.update c.coroutines co
      (some { vm, request, invocation := c.nextInvocation })
    handlerCallSession :=
      if request.session ≠ 0 then
        Function.update c.handlerCallSession co (some request.session)
      else c.handlerCallSession
    nextInvocation := c.nextInvocation + 1 }

/-- `suspend_for_call`. The driver of the timeout sends to the actor of the caller's service. -/
def suspendForCall (co : Nat) (callerService target : ServiceId)
    (driver : Option Instance) : CallState V :=
  let session := c.nextCallSession
  { c.setStatus co (.registered session target) with
    pendingCalls := Function.update c.pendingCalls session
      (some { callerCo := co, callerService })
    nextCallSession := session + 1
    callTimeouts := Function.update c.callTimeouts session driver }

def addTimer (serviceId : ServiceId) (target : Instance)
    (callback : TimerCallback) (repeating : Bool) : CallState V :=
  { c with
    timers := { id := c.nextTimerId, serviceId, target, callback, repeating } :: c.timers
    nextTimerId := c.nextTimerId + 1 }

def removeTimer (id : Nat) : CallState V :=
  { c with timers := c.timers.filter fun timer => timer.id ≠ id }

/-- `_resume_after`: without an actor to fire it, no timer is made. -/
def armSleep (co : Nat) (serviceId : ServiceId) (target : Option Instance) : CallState V :=
  match target with
  | some target => (c.addTimer serviceId target (.resume co) false).setStatus co .armed
  | none => c.setStatus co .armed

/-- `lua_resume` on the coroutine at `co`: what it was waiting for and its VM. It fails without
running anything unless the coroutine is suspended. -/
def resumable (co : Nat) : Option (Wait × Instance) :=
  match c.coroutines co with
  | some k =>
    match k.status with
    | .suspended wait => some (wait, k.vm)
    | _ => none
  | none => none

variable {c} in
lemma resumable_eq_some {wait : Wait} : c.resumable co = some (wait, vm) ↔
      ∃ k, c.coroutines co = some k ∧ k.status = .suspended wait ∧ k.vm = vm := by
  unfold resumable
  cases c.coroutines co with
  | none => simp
  | some k => cases hstatus : k.status <;> simp [hstatus]

/-- `resume_caller`: the tables after it, and the coroutine and VM it runs on this thread. -/
def resumeCaller (cause : Cause) (session : Nat) (ok : Bool)
    (values : List V) : CallState V × Option (Nat × Instance) :=
  if c.pendingSyncCalls session then
    ({ c with
        pendingSyncCalls := Function.update c.pendingSyncCalls session false
        syncResults := Function.update c.syncResults session (some (ok, values)) }.record
      (.resumeCaller cause session ok values (.syncCaller session)), none)
  else
    match c.pendingCalls session with
    | none => (c.record (.resumeCaller cause session ok values .nobody), none)
    | some pending =>
      let c' : CallState V :=
        { c with
          pendingCalls := Function.update c.pendingCalls session none
          callTimeouts := Function.update c.callTimeouts session none }
      match c.resumable pending.callerCo with
      | none => (c'.record (.resumeCaller cause session ok values .notSuspended), none)
      | some (wait, vm) =>
        ((c'.setStatus pending.callerCo .running).record
          (.resumeCaller cause session ok values (.coroutine wait)),
          some (pending.callerCo, vm))

/-- Who gets the values of a `resume_caller` with the session. -/
def recipientOf (session : Nat) : Recipient :=
  if c.pendingSyncCalls session then .syncCaller session
  else
    match c.pendingCalls session with
    | none => .nobody
    | some pending =>
      match c.resumable pending.callerCo with
      | none => .notSuspended
      | some (wait, _) => .coroutine wait

/-- The coroutine and the VM that a `resume_caller` with the session runs. -/
def resumee (session : Nat) : Option (Nat × Instance) :=
  if c.pendingSyncCalls session then none
  else (c.pendingCalls session).bind fun pending =>
    (c.resumable pending.callerCo).map fun waiting => (pending.callerCo, waiting.2)

variable {c} in
lemma resumee_eq_some {session : Nat} (h : c.resumee session = some (co, vm)) :
    c.pendingSyncCalls session = false ∧
      ∃ pending, c.pendingCalls session = some pending ∧ pending.callerCo = co ∧
        ∃ wait, c.resumable co = some (wait, vm) := by
  unfold resumee at h
  split at h
  · cases h
  rename_i hsync
  obtain ⟨pending, hpending, h⟩ := Option.bind_eq_some_iff.mp h
  obtain ⟨⟨wait, vm'⟩, hresumable, heq⟩ := Option.map_eq_some_iff.mp h
  cases heq
  exact ⟨by simpa using hsync, pending, hpending, rfl, wait, hresumable⟩

section

variable (cause : Cause) (session : Nat) (ok : Bool) (values : List V)

lemma resumeCaller_snd : (c.resumeCaller cause session ok values).2 = c.resumee session := by
  unfold resumeCaller resumee
  split
  · rfl
  split
  · rename_i h
    rw [h]
    rfl
  rename_i h
  split <;> simp [*]

/-- All that a `resume_caller` changes. The tables of the blocked threads are left open. -/
lemma resumeCaller_fst : ∃ timeouts syncCalls results, (c.resumeCaller cause session ok values).1 =
      { c with
        coroutines :=
          match c.resumee session with
          | some (co, _) => (c.setStatus co .running).coroutines
          | none => c.coroutines
        pendingCalls :=
          if c.pendingSyncCalls session then c.pendingCalls
          else Function.update c.pendingCalls session none
        callTimeouts := timeouts
        pendingSyncCalls := syncCalls
        syncResults := results
        log := .resumeCaller cause session ok values (c.recipientOf session) :: c.log } ∧
    ∀ n a, timeouts n = some a → c.callTimeouts n = some a ∧
      (c.resumeCaller cause session ok values).1.pendingCalls n = c.pendingCalls n := by
  unfold resumeCaller resumee recipientOf
  by_cases hsync : c.pendingSyncCalls session = true
  · simp only [if_pos hsync]
    exact ⟨_, _, _, rfl, fun _ _ h => ⟨h, rfl⟩⟩
  simp only [if_neg hsync]
  cases hpending : c.pendingCalls session with
  | none =>
    have hsame : Function.update c.pendingCalls session none = c.pendingCalls := by
      rw [← hpending, Function.update_eq_self]
    simp only [hsame]
    exact ⟨_, _, _, rfl, fun _ _ h => ⟨h, rfl⟩⟩
  | some pending =>
    have htimeouts : ∀ n a, Function.update c.callTimeouts session none n = some a →
        c.callTimeouts n = some a ∧
          Function.update c.pendingCalls session none n = c.pendingCalls n := by
      intro n a h
      by_cases hn : n = session
      · simp [hn] at h
      · simpa [hn] using h
    cases hresumable : c.resumable pending.callerCo with
    | none | some =>
      simp only [Option.bind_some, hresumable]
      exact ⟨_, _, _, rfl, htimeouts⟩

lemma resumeCaller_log : (c.resumeCaller cause session ok values).1.log =
    .resumeCaller cause session ok values (c.recipientOf session) :: c.log := by
  obtain ⟨_, _, _, h, -⟩ := resumeCaller_fst c cause session ok values
  rw [h]

lemma resumeCaller_pendingCalls : (c.resumeCaller cause session ok values).1.pendingCalls =
    if c.pendingSyncCalls session then c.pendingCalls
    else Function.update c.pendingCalls session none := by
  obtain ⟨_, _, _, h, -⟩ := resumeCaller_fst c cause session ok values
  rw [h]

@[simp] lemma resumeCaller_kept :
    (c.resumeCaller cause session ok values).1.handlerCallSession = c.handlerCallSession ∧
      (c.resumeCaller cause session ok values).1.nextCallSession = c.nextCallSession ∧
      (c.resumeCaller cause session ok values).1.timers = c.timers ∧
      (c.resumeCaller cause session ok values).1.nextTimerId = c.nextTimerId ∧
      (c.resumeCaller cause session ok values).1.nextInvocation = c.nextInvocation := by
  obtain ⟨_, _, _, h, -⟩ := resumeCaller_fst c cause session ok values
  simp only [h, and_self]

@[simp] lemma handlerOf_resumeCaller :
    (c.resumeCaller cause session ok values).1.handlerOf = c.handlerOf := by
  obtain ⟨_, _, _, h, -⟩ := resumeCaller_fst c cause session ok values
  rw [h]
  cases c.resumee session with
  | none => rfl
  | some target => exact handlerOf_setStatus c target.1 .running

lemma statusOf_resumeCaller_resumee {co : Nat} {vm : Instance}
    (hresumee : c.resumee session = some (co, vm)) :
    (c.resumeCaller cause session ok values).1.statusOf co = some .running := by
  obtain ⟨-, pending, -, -, wait, hresumable⟩ := resumee_eq_some hresumee
  obtain ⟨k, hk, -, -⟩ := resumable_eq_some.mp hresumable
  obtain ⟨_, _, _, h, -⟩ := resumeCaller_fst c cause session ok values
  rw [h, hresumee]
  simp [statusOf, setStatus, hk]

lemma statusOf_resumeCaller_ne {co : Nat} (hresumee : ∀ vm, c.resumee session ≠ some (co, vm)) :
    (c.resumeCaller cause session ok values).1.statusOf co = c.statusOf co := by
  obtain ⟨_, _, _, h, -⟩ := resumeCaller_fst c cause session ok values
  rw [h]
  cases htarget : c.resumee session with
  | none => rfl
  | some target =>
    have hne : co ≠ target.1 := by
      rintro rfl
      exact hresumee target.2 htarget
    exact statusOf_setStatus_ne c .running hne

end

/-- Whether the caller of a request is suspended in this call and `resume_caller` with its
session finds it. -/
def callerWaiting : Request → Bool
  | .send => false
  | .syncCall session => c.pendingSyncCalls session
  | .coroCall session =>
    !c.pendingSyncCalls session &&
      match c.pendingCalls session with
      | some pending => decide (c.statusOf pending.callerCo = some (.suspended (.call session)))
      | none => false

/-- A request that ends without a coroutine of its own. -/
def reject (request : Request) (how : Completion V) : CallState V :=
  { c with
    nextInvocation := c.nextInvocation + 1
    log := .completed c.nextInvocation request how (c.callerWaiting request) :: c.log }

def onHandlerCompleted (co : Nat) (cause : Cause) (values : List V) :
    CallState V × Option (Nat × Instance) :=
  match c.handlerCallSession co with
  | none => (c, none)
  | some session =>
    { c with handlerCallSession := Function.update c.handlerCallSession co none }.resumeCaller
      cause session true values

/-- The coroutine at `co` has returned or raised, and the code that resumed it goes on. The
dispatch of a call request and the sleep timer look for a caller to answer, the others do not. -/
def finish (co : Nat) (source : Source) (outcome : Outcome V) :
    CallState V × Option (Nat × Instance) :=
  match c.coroutines co with
  | none => (c, none)
  | some k =>
    let done : CallState V :=
      { c with
        coroutines := Function.update c.coroutines co none
        log := .completed k.invocation k.request (.coroutine source outcome)
          (c.callerWaiting k.request) :: c.log }
    match source, outcome with
    | .dispatch _, .returned values =>
      if k.request.session ≠ 0 then
        done.onHandlerCompleted co (.handler k.invocation k.request) values
      else (done, none)
    | .sleepTimer, .returned values =>
      done.onHandlerCompleted co (.handler k.invocation k.request) values
    | _, _ => (done, none)

/-- The sleep timer's `lua_resume`. -/
def resumeSleeper (co : Nat) : CallState V × Option (Nat × Instance) :=
  match c.resumable co with
  | some (_, vm) => (c.setStatus co .running, some (co, vm))
  | none => (c, none)

/-- `call` registers the pending synchronous call whose session it sends. -/
def registerSync : CallState V :=
  { c with
    pendingSyncCalls := Function.update c.pendingSyncCalls c.nextSyncCallSession true
    nextSyncCallSession := c.nextSyncCallSession + 1 }

def releaseSync (session : Nat) : CallState V :=
  { c with pendingSyncCalls := Function.update c.pendingSyncCalls session false }

end CallState

/-- A thread of control: the actor of an instance, or a thread outside the actor system. -/
inductive Thread where
  | actor (i : Instance)
  | external (n : Nat)
  deriving DecidableEq, Repr

/-- An entry of `tls_dispatch_stack`. -/
structure DispatchFrame where
  serviceId : ServiceId
  inExit : Bool := false
  exitRequested : Bool := false
  deriving DecidableEq, Repr

/-- How Lua code of a VM was entered. `raised` stands for every failure that
`call_service_function` reports, and a hook that a service does not define returns at once. -/
inductive Entry where
  | handler (co : Nat) (source : Source)
  | fallback (request : Request)
  | onInit
  | onExit (serviceId : ServiceId)
  | onError (serviceId : ServiceId)
  | onPanic (serviceId : ServiceId)
  | timer (serviceId : ServiceId)
  | fork (serviceId : ServiceId)
  deriving DecidableEq, Repr

/-- C++ code that waits for its turn. -/
inductive Cont where
  | endDispatch (serviceId : ServiceId)
  | resetErrorCount (serviceId : ServiceId)
  | invokeErrorHook (serviceId : ServiceId)
  | exit (serviceId : ServiceId)
  | exitTimers (serviceId : ServiceId)
  | exitTimeouts (serviceId : ServiceId)
  | exitErase (serviceId : ServiceId)
  | spawnCreate (name : ServiceId)
  | spawnPublish (i : Instance) (name : ServiceId) (exitAfterInit : Bool)
  | spawnReady (i : Instance) (name : ServiceId) (exitAfterInit : Bool)
  | shutdown (order seen : List ServiceId)
  | syncWait (session : Nat)
  deriving DecidableEq, Repr

inductive Frame where
  | scope (frame : DispatchFrame)
  | lua (vm : Instance) (entry : Entry)
  | cpp (cont : Cont)
  deriving DecidableEq, Repr

/-- The typed messages of a service actor. Arguments that are not an array are `none`. -/
inductive Mail (V : Type) where
  | service (args : Option (List V)) (callSession : Nat)
  | syncCall (args : Option (List V)) (syncSession : Nat)
  | timerFire (timerId : Nat)
  | callTimeout (session : Nat)
  | forkTask (taskId : Nat)
  deriving DecidableEq, Repr

/-- A function that was given to `shield.fork`. -/
structure ForkedTask where
  id : Nat
  serviceId : ServiceId
  vm : Instance
  deriving DecidableEq, Repr

/-- The tables of services and names. -/
structure Registry where
  services : ServiceId → Option Instance := fun _ => none
  publishedNames : String → Option ServiceId := fun _ => none
  ownedNames : ServiceId → List String := fun _ => []
  serviceOrder : List ServiceId := []
  serviceActors : ServiceId → Option Instance := fun _ => none
  errorCounts : ServiceId → Nat := fun _ => 0
  stopping : Bool := false

/-- The actors, one for each instance below `nextInstance`. Until `ready` an actor stashes its
messages; it is `exiting` once it was asked to stop and `stopped` when it handles no more. -/
structure Actors (V : Type) where
  nextInstance : Nat := 0
  serviceOf : Instance → ServiceId := fun _ => ""
  mailbox : Instance → List (Mail V) := fun _ => []
  ready : Instance → Bool := fun _ => false
  exiting : Instance → Bool := fun _ => false
  stopped : Instance → Bool := fun _ => false

/-- An API call of Lua code and the service it was attributed to; `slept` tells whether
`shield.sleep` found an actor that will resume the coroutine. -/
inductive ApiEvent where
  | attributed (vm : Instance) (serviceId : ServiceId)
  | slept (co : Nat) (scheduled : Bool)
  deriving DecidableEq, Repr

/-- The manager, the actors and the threads. `next_task_id` is unbounded here. -/
structure State (V : Type) where
  registry : Registry := {}
  actors : Actors V := {}
  calls : CallState V := {}
  tasks : List ForkedTask := []
  nextTaskId : Nat := 1
  stack : Thread → List Frame := fun _ => []
  trace : List ApiEvent := []

def maxErrorsBeforePanic : Nat := 10

def forkLimit : Nat := 1000

def timerLimit : Nat := 10000

def validName (name : String) : Bool :=
  name != "" && name.length ≤ 64 && !("shield.".toList.isPrefixOf name.toList) &&
    name.toList.all fun ch => ch.isAlphanum || ch == '_' || ch == '.' || ch == '-'

namespace Registry

variable (r : Registry)

def queryService (name : String) : ServiceId := (r.publishedNames name).getD ""

/-- The actor that a message to `target` goes to. -/
def targetActor (target : String) : Option Instance :=
  r.serviceActors (r.queryService target)

def contains (name : ServiceId) : Bool :=
  (r.services name).isSome || (r.publishedNames name).isSome

/-- The names of a service are no longer published. -/
def dropNames (id : ServiceId) : Registry :=
  { r with
    publishedNames := fun name => if name ∈ r.ownedNames id then none else r.publishedNames name
    ownedNames := Function.update r.ownedNames id [] }

/-- `service_actors.emplace`: an entry that is there stays. -/
def emplaceActor (name : ServiceId) (i : Instance) : Registry :=
  if (r.serviceActors name).isSome then r
  else { r with serviceActors := Function.update r.serviceActors name (some i) }

def eraseActor (name : ServiceId) : Registry :=
  { r with serviceActors := Function.update r.serviceActors name none }

def publish (name : ServiceId) (i : Instance) : Registry :=
  { r with
    services := Function.update r.services name (some i)
    publishedNames := Function.update r.publishedNames name (some name)
    ownedNames := Function.update r.ownedNames name (name :: r.ownedNames name)
    serviceOrder := r.serviceOrder ++ [name] }

def registerName (owner : ServiceId) (name : String) : Registry :=
  { r with
    publishedNames := Function.update r.publishedNames name (some owner)
    ownedNames := Function.update r.ownedNames owner (name :: r.ownedNames owner) }

def unregisterName (owner : ServiceId) (name : String) : Registry :=
  { r with
    publishedNames := Function.update r.publishedNames name none
    ownedNames := Function.update r.ownedNames owner ((r.ownedNames owner).filter (· ≠ name)) }

def setErrorCount (id : ServiceId) (count : Nat) : Registry :=
  { r with errorCounts := Function.update r.errorCounts id count }

/-- The last critical section of `exit`, without the request to the actor. -/
def eraseService (id : ServiceId) : Registry :=
  { (r.dropNames id).eraseActor id with
    services := Function.update r.services id none
    serviceOrder := r.serviceOrder.filter (· ≠ id) }

end Registry

namespace Actors

variable {V : Type} (a : Actors V)

def post (i : Instance) (mail : Mail V) : Actors V :=
  { a with mailbox := Function.update a.mailbox i (a.mailbox i ++ [mail]) }

def create (name : ServiceId) : Actors V :=
  { a with
    nextInstance := a.nextInstance + 1
    serviceOf := Function.update a.serviceOf a.nextInstance name }

def setReady (i : Instance) : Actors V :=
  { a with ready := Function.update a.ready i true }

def askExit (i : Instance) : Actors V :=
  { a with exiting := Function.update a.exiting i true }

def stop (i : Instance) : Actors V :=
  { a with stopped := Function.update a.stopped i true }

end Actors

/-- The back of the thread-local dispatch stack. -/
def currentScope : List Frame → Option DispatchFrame
  | [] => none
  | .scope frame :: _ => some frame
  | _ :: rest => currentScope rest

def currentServiceId (frames : List Frame) : ServiceId :=
  ((currentScope frames).map DispatchFrame.serviceId).getD ""

def isInExit (frames : List Frame) : Bool :=
  ((currentScope frames).map DispatchFrame.inExit).getD false

/-- `request_current_exit` marks the innermost dispatch frame, unless it is that of `on_exit`. -/
def requestCurrentExit : List Frame → List Frame
  | [] => []
  | .scope frame :: rest =>
    .scope (if frame.inExit then frame else { frame with exitRequested := true }) :: rest
  | frame :: rest => frame :: requestCurrentExit rest

end ShieldRuntime.Lua
