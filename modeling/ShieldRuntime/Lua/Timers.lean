import Mathlib.Data.List.AList
import ShieldRuntime.Lua.Manager

/-!
# Timers, section by section

The timers of `LuaServiceManager` with one step for each critical section on `registry_mutex`:
a timer is entered in one section and gets its driver in a second one, `fire_actor_timer` copies
the timer in a section and runs the callback after it, `exit` lists the timers of a service in one
section and cancels them one by one. `Step` has these as single steps. Time is in milliseconds;
`delayed_send` with a negative delay is one without. Callbacks are functions.
-/

namespace ShieldRuntime.Lua

/-- `schedule_actor_timer_once`, `schedule_actor_timer_once_fn` for a sleeping coroutine, and
`schedule_actor_timer_fixed_delay`. -/
inductive TimerKind where
  | once
  | sleep
  | fixedDelay
  deriving DecidableEq, Repr

/-- A call that asks for a timer. -/
structure TimerRequest where
  serviceId : ServiceId
  kind : TimerKind
  delayMs : Int
  deriving DecidableEq, Repr

/-- `ActorTimerState`; `active` is never cleared, and `driver` says whether the driver is set. -/
structure ActorTimerState where
  intervalMs : Int
  repeating : Bool
  serviceId : ServiceId
  driver : Bool := false
  deriving DecidableEq, Repr

/-- A scheduling call between its two sections. -/
structure Scheduling where
  id : Nat
  request : TimerRequest
  target : Instance
  spawned : Bool := false
  deriving DecidableEq, Repr

/-- The actor that sends `timer_fire`, with the time of its next tick. -/
structure TimerDriver where
  timerId : Nat
  target : Instance
  intervalMs : Int
  repeating : Bool
  due : Nat
  killed : Bool := false
  deriving DecidableEq, Repr

/-- A `timer_fire` message, with the time at which it was sent. -/
structure Fire where
  timerId : Nat
  sentAt : Nat
  deriving DecidableEq, Repr

/-- What a service actor does about a fire: it holds a copy of the timer, or runs its callback. -/
inductive Firing where
  | copied (fire : Fire) (timer : ActorTimerState)
  | running (fire : Fire) (timer : ActorTimerState)
  deriving DecidableEq, Repr

inductive TimerEvent where
  | refused (serviceId : ServiceId)
  | created (serviceId : ServiceId) (id : Nat)
  | ticked (id time intervalMs : Nat)
  | started (id : Nat) (repeating : Bool)
  | ended (id time : Nat) (raised : Bool)
  | cancelled (id : Nat) (repeating : Bool)
  deriving DecidableEq, Repr

/-- The timers and the actors. `next_actor_timer_id` is unbounded here. -/
structure TimerState where
  actorTimers : AList (fun _ : Nat => ActorTimerState) := ∅
  actorTimersByService : ServiceId → List Nat := fun _ => []
  nextActorTimerId : Nat := 1
  serviceActors : ServiceId → Option Instance := fun _ => none
  nextInstance : Instance := 0
  exiting : List Instance := []
  stopped : List Instance := []
  mailbox : Instance → List Fire := fun _ => []
  firing : Instance → Option Firing := fun _ => none
  drivers : List TimerDriver := []
  -- the calls that have passed the test of the limit
  requests : List TimerRequest := []
  scheduling : List Scheduling := []
  -- the timers that exits have listed and not yet cancelled
  listed : List Nat := []
  now : Nat := 0
  events : List TimerEvent := []

inductive TimerLabel where
  | spawn (serviceId : ServiceId)
  | eraseActor (serviceId : ServiceId) (kill : Bool)
  | terminate (i : Instance)
  | request (r : TimerRequest)
  | schedule (call : Nat)
  | spawnDriver (call : Nat)
  | spawnFails (call : Nat)
  | setDriver (call : Nat)
  | tick (driver : Nat)
  | stopDriver (driver : Nat)
  | fire (i : Instance)
  | start (i : Instance)
  | finish (i : Instance) (raised : Bool)
  | cancel (caller : Option ServiceId) (id : Nat)
  | listTimers (serviceId : ServiceId)
  | cancelListed (id : Nat)
  | advance (ms : Nat)
  deriving DecidableEq, Repr

namespace TimerState

variable (s : TimerState)

def log (event : TimerEvent) : TimerState :=
  { s with events := s.events ++ [event] }

/-- `timer_once` and `timer` up to the scheduling; `_resume_after` has no limit. Both leave out
the scheduling without a current service. -/
def request (r : TimerRequest) : TimerState :=
  if r.kind ≠ .sleep ∧ timerLimit ≤ s.actorTimers.entries.length then s.log (.refused r.serviceId)
  else if r.serviceId = "" then s.log (.created "" 0)
  else { s with requests := s.requests ++ [r] }

/-- The first section of the three scheduling functions. -/
def schedule (call : Nat) (r : TimerRequest) : TimerState :=
  let s := { s with requests := s.requests.eraseIdx call }
  match s.serviceActors r.serviceId with
  | none => s.log (.created r.serviceId 0)
  | some target =>
    { s with
      actorTimers := s.actorTimers.insert s.nextActorTimerId
        { intervalMs := r.delayMs, repeating := r.kind = .fixedDelay, serviceId := r.serviceId }
      nextActorTimerId := s.nextActorTimerId + 1
      scheduling := s.scheduling ++ [{ id := s.nextActorTimerId, request := r, target }] }

def spawnDriver (call : Nat) (c : Scheduling) : TimerState :=
  { s with
    scheduling := s.scheduling.set call { c with spawned := true }
    drivers := s.drivers ++ [{
      timerId := c.id
      target := c.target
      intervalMs := c.request.delayMs
      repeating := c.request.kind = .fixedDelay
      due := s.now + c.request.delayMs.toNat }] }

/-- The handler of an exception of `spawn`. -/
def spawnFails (call : Nat) (c : Scheduling) : TimerState :=
  { s with
    scheduling := s.scheduling.eraseIdx call
    actorTimers := s.actorTimers.erase c.id }.log (.created c.request.serviceId 0)

def addToIndex (index : ServiceId → List Nat) (serviceId : ServiceId) (id : Nat) :
    ServiceId → List Nat :=
  if id ∈ index serviceId then index else Function.update index serviceId (id :: index serviceId)

def removeFromIndex (index : ServiceId → List Nat) (serviceId : ServiceId) (id : Nat) :
    ServiceId → List Nat :=
  Function.update index serviceId ((index serviceId).erase id)

/-- The second section of the three scheduling functions. -/
def setDriver (call : Nat) (c : Scheduling) : TimerState :=
  let s := { s with scheduling := s.scheduling.eraseIdx call }.log (.created c.request.serviceId c.id)
  match s.actorTimers.lookup c.id with
  | none => s
  | some timer =>
    { s with
      actorTimers := s.actorTimers.insert c.id { timer with driver := true }
      actorTimersByService := addToIndex s.actorTimersByService c.request.serviceId c.id }

def post (target : Instance) (fire : Fire) : TimerState :=
  if target ∈ s.stopped then s
  else { s with mailbox := Function.update s.mailbox target (s.mailbox target ++ [fire]) }

/-- The behaviour of a driver: one that repeats sets its next tick at once. -/
def tick (driver : Nat) (d : TimerDriver) : TimerState :=
  let s := (s.post d.target { timerId := d.timerId, sentAt := s.now }).log
    (.ticked d.timerId s.now d.intervalMs.toNat)
  { s with
    drivers :=
      if d.repeating then s.drivers.set driver { d with due := s.now + d.intervalMs.toNat }
      else s.drivers.eraseIdx driver }

/-- The section of `fire_actor_timer`. -/
def fire (i : Instance) (fire : Fire) (rest : List Fire) : TimerState :=
  let s := { s with mailbox := Function.update s.mailbox i rest }
  match s.actorTimers.lookup fire.timerId with
  | none => s
  | some timer =>
    let s := { s with firing := Function.update s.firing i (some (.copied fire timer)) }
    if timer.repeating then s
    else
      { s with
        actorTimers := s.actorTimers.erase fire.timerId
        actorTimersByService :=
          removeFromIndex s.actorTimersByService timer.serviceId fire.timerId }

def cancelActorTimer (id : Nat) : TimerState :=
  match s.actorTimers.lookup id with
  | none => s
  | some timer =>
    { s with
      drivers :=
        if timer.driver then
          s.drivers.map fun (d : TimerDriver) =>
            if d.timerId = id then { d with killed := true } else d
        else s.drivers
      actorTimersByService := removeFromIndex s.actorTimersByService timer.serviceId id
      actorTimers := s.actorTimers.erase id }.log (.cancelled id timer.repeating)

def step : TimerLabel → Option TimerState
  | .spawn serviceId =>
    -- an entry that is there stays
    some { s with
      serviceActors := Function.update s.serviceActors serviceId
        (some ((s.serviceActors serviceId).getD s.nextInstance))
      nextInstance := s.nextInstance + 1 }
  | .eraseActor serviceId kill =>
    (s.serviceActors serviceId).map fun i =>
      { s with
        serviceActors := Function.update s.serviceActors serviceId none
        exiting := if kill then i :: s.exiting else s.exiting }
  | .terminate i =>
    if i ∈ s.exiting ∧ s.firing i = none then
      some { s with stopped := i :: s.stopped, mailbox := Function.update s.mailbox i [] }
    else none
  | .request r => some (s.request r)
  | .schedule call => (s.requests[call]?).map (s.schedule call)
  | .spawnDriver call =>
    (s.scheduling[call]?).bind fun c => if c.spawned then none else some (s.spawnDriver call c)
  | .spawnFails call =>
    (s.scheduling[call]?).bind fun c => if c.spawned then none else some (s.spawnFails call c)
  | .setDriver call =>
    (s.scheduling[call]?).bind fun c => if c.spawned then some (s.setDriver call c) else none
  | .tick driver =>
    (s.drivers[driver]?).bind fun d => if d.due ≤ s.now then some (s.tick driver d) else none
  | .stopDriver driver =>
    (s.drivers[driver]?).bind fun d =>
      if d.killed then some { s with drivers := s.drivers.eraseIdx driver } else none
  | .fire i =>
    match s.firing i, s.mailbox i with
    | none, fire :: rest => some (s.fire i fire rest)
    | _, _ => none
  | .start i =>
    match s.firing i with
    | some (.copied fire timer) =>
      some ({ s with firing := Function.update s.firing i (some (.running fire timer)) }.log
        (.started fire.timerId timer.repeating))
    | _ => none
  | .finish i raised =>
    match s.firing i with
    | some (.running fire _) =>
      some ({ s with firing := Function.update s.firing i none }.log
        (.ended fire.timerId s.now raised))
    | _ => none
  | .cancel _ id => some (s.cancelActorTimer id)
  | .listTimers serviceId =>
    some { s with listed := s.listed ++ s.actorTimersByService serviceId }
  | .cancelListed id =>
    if id ∈ s.listed then some ({ s with listed := s.listed.erase id }.cancelActorTimer id)
    else none
  | .advance ms => some { s with now := s.now + ms }

end TimerState

end ShieldRuntime.Lua
