import ShieldRuntime.Lua.Manager
import ShieldRuntime.Lua.Values

/-!
# Requests from Lua

`shield.send`, `shield.call` and `shield.call_timeout`, from the Lua arguments through the checks of
the message to the mailbox of the target, `send_system`, and the look-up of the handler when the
message is dispatched. What a call waits for and the times of messages are left out; the sessions of
a call are parameters. An exception is an error of the outer `Except`, the error text of a call that
returns `false` one of the inner.

A dispatch gives the JSON arguments to the handler in one of two ways: `call_service_method` from a
vector, and `call_service_method_coroutine` from a table that `__shield_run_handler` unpacks.
Appending to a table stores at the index after its length and storing nil does nothing, so the table
of the arguments is a sequence, and it is modelled by the list of its values. What the handler does
and returns is left out.
-/

namespace ShieldRuntime.Lua
open Transport

inductive MessagePriority where
  | high
  | normal
  deriving DecidableEq, Repr

/-- `ServiceMessage`, without its timestamp. -/
structure ServiceMessage where
  sender : ServiceId
  method : String
  args : Json
  traceId : String := ""
  deadlineMs : Int := 0
  priority : MessagePriority := .normal
  callSession : Nat := 0
  deriving Repr

def maxMessageSize : Nat := 1024 * 1024

def validateMessageMethod (method : String) (allowReserved : Bool) : Except String Unit :=
  if method.length = 0 ∨ 128 < method.length then
    .error "invalid method name: length must be 1-128"
  else if !allowReserved && "on_".toList.isPrefixOf method.toList then
    .error "invalid method name: 'on_' prefix is reserved"
  else .ok ()

/-- What `lua_to_json` leaves of a value it cannot represent, as it stands in the text. -/
def unsupportedSentinel : List UInt8 := bytesOf "\"<unsupported>\""

def containsText (text needle : List UInt8) : Bool := text.tails.any needle.isPrefixOf

section

variable (dump : JsonDump)

def validateMessagePayload (args : Json) : Except String (Except String Unit) := do
  let serialized ← dump args
  if maxMessageSize < serialized.length then
    return .error ("message too large: " ++ toString serialized.length ++ " bytes (max " ++
      toString maxMessageSize ++ ")")
  else if containsText serialized unsupportedSentinel then
    return .error "message contains unsupported value type"
  else return .ok ()

/-- The actor that the message goes to, and the message. -/
def sendSystem (registry : Registry) (target : String) (method : String) (args : Json) :
    Except String (Except String (Instance × ServiceMessage)) :=
  if registry.stopping then .ok (.error "runtime is stopping")
  else
    match validateMessageMethod method true with
    | .error error => .ok (.error error)
    | .ok () => do
      match ← validateMessagePayload dump args with
      | .error error => return .error error
      | .ok () =>
        match registry.targetActor target with
        | none => return .error ("service not found: " ++ target)
        | some actor => return .ok (actor, { sender := "", method, args, priority := .high })

end

/-- What the checks of a request look at. -/
structure Runtime where
  registry : Registry := {}
  recentlyExited : ServiceId → Bool := fun _ => false
  permissionCheck : Option (ServiceId → String → String → String) := none

/-- The frame of the dispatch that makes the request. -/
structure RequestContext where
  sender : ServiceId := ""
  traceId : String := ""
  deadlineMs : Int := 0
  inExit : Bool := false
  deriving DecidableEq, Repr

/-- The message of a synchronous call. -/
structure SyncCallMessage where
  syncSession : Nat
  sender : ServiceId
  method : String
  args : Json
  traceId : String
  deadlineMs : Int
  deriving Repr

/-- `sol::object target`: a `ServiceHandle` or a string, or something else. -/
inductive LuaTarget where
  | handle (id : ServiceId)
  | string (name : String)
  | other
  deriving DecidableEq, Repr

def LuaTarget.serviceId : LuaTarget → String
  | handle id => id
  | string name => name
  | other => ""

/-- An error as Lua code gets it. -/
structure LuaError where
  code : String
  message : String
  retryable : Bool := false
  deriving DecidableEq, Repr

/-- What becomes of a request: a message in a mailbox, an error value or a raised error. -/
inductive RequestOutcome where
  | queued (actor : Instance) (message : ServiceMessage)
  | queuedSync (actor : Instance) (message : SyncCallMessage)
  | refused (error : LuaError)
  | raised (what : String)

inductive CallApi where
  | call
  | callTimeout
  deriving DecidableEq, Repr

def CallApi.name : CallApi → String
  | call => "shield.call"
  | callTimeout => "shield.call_timeout"

namespace Runtime

/-- The text of a denial of `permission_check`. -/
def denial (rt : Runtime) (sender : ServiceId) (target method : String) : Option String :=
  match rt.permissionCheck with
  | none => none
  | some check => if check sender target method = "" then none else some (check sender target method)

def send (dump : JsonDump) (rt : Runtime) (context : RequestContext)
    (target method : String) (args : Json) :
    Except String (Except String (Instance × ServiceMessage)) :=
  if rt.registry.stopping then .ok (.error "runtime is stopping")
  else
    match validateMessageMethod method false with
    | .error error => .ok (.error error)
    | .ok () =>
      match rt.denial context.sender target method with
      | some denial => .ok (.error ("permission denied: " ++ denial))
      | none => do
        match ← validateMessagePayload dump args with
        | .error error => return .error error
        | .ok () =>
          match rt.registry.targetActor target with
          | none =>
            if rt.recentlyExited (rt.registry.queryService target) || rt.recentlyExited target then
              return .error ("service dead: " ++ target)
            else return .error ("service not found: " ++ target)
          | some actor =>
            return .ok (actor, {
              sender := context.sender
              method
              args
              traceId := context.traceId
              deadlineMs := context.deadlineMs })

def sendCallRequest (rt : Runtime) (context : RequestContext) (target method : String)
    (args : Json) (session : Nat) : Except String (Instance × ServiceMessage) :=
  match rt.registry.targetActor target with
  | none => .error ("service not found: " ++ target)
  | some actor =>
    .ok (actor, {
      sender := context.sender
      method
      args
      traceId := context.traceId
      deadlineMs := context.deadlineMs
      callSession := session })

/-- `call`, up to the message. -/
def call (rt : Runtime) (context : RequestContext) (target method : String) (args : Json)
    (session : Nat) : Except String (Instance × SyncCallMessage) :=
  if rt.registry.stopping then .error "runtime is stopping"
  else
    let serviceId := rt.registry.queryService target
    if (rt.registry.services serviceId).isNone then .error ("service not found: " ++ target)
    else
      match rt.registry.serviceActors serviceId with
      | none => .error ("service not found: " ++ target)
      | some actor =>
        if context.sender = serviceId then .error "self-call not supported"
        else
          .ok (actor, {
            syncSession := session
            sender := context.sender
            method
            args
            traceId := context.traceId
            deadlineMs := context.deadlineMs })

end Runtime

def mentions (message part : String) : Bool := containsText (bytesOf message) (bytesOf part)

/-- The code of an error of `send`, and whether the request may be tried again. -/
def sendErrorCode (message : String) : String × Bool :=
  if mentions message "mailbox full" then ("mailbox_full", true)
  else if mentions message "runtime is stopping" then ("runtime_stopping", false)
  else if mentions message "message too large" then ("message_too_large", false)
  else if mentions message "unsupported" then ("encode_failed", false)
  else if mentions message "permission denied" then ("permission_denied", false)
  else if mentions message "invalid method" then ("invalid_method", false)
  else if mentions message "service dead" then ("service_dead", false)
  else if mentions message "coroutine limit" then ("coroutine_limit", false)
  else ("service_not_found", false)

def callErrorCode (message : String) : String :=
  if mentions message "service not found" then "service_not_found"
  else if mentions message "service dead" then "service_dead"
  else if mentions message "method not found" then "method_not_found"
  else if mentions message "runtime is stopping" then "runtime_stopping"
  else if mentions message "invalid method" then "invalid_method"
  else if mentions message "coroutine limit" then "coroutine_limit"
  else "handler_error"

def invalidTarget : LuaError :=
  { code := "invalid_target", message := "target must be ServiceHandle or string" }

section

variable (dump : JsonDump) (sol : Sol2)
  (packedSize : List LuaValue → Nat)

def shieldSend (rt : Runtime) (context : RequestContext) (target : LuaTarget) (method : String)
    (args : List LuaValue) : RequestOutcome :=
  if target.serviceId = "" then .refused invalidTarget
  else
    match rt.send dump context target.serviceId method (argumentsToJson sol args) with
    | .error what => .raised what
    | .ok (.error message) =>
      let (code, retryable) := sendErrorCode message
      .refused { code, message, retryable }
    | .ok (.ok (actor, message)) => .queued actor message

/-- `_sync_call` and `_sync_call_timeout`. -/
def syncCall (rt : Runtime) (context : RequestContext) (target : LuaTarget) (method : String)
    (args : List LuaValue) (session : Nat) : RequestOutcome :=
  if target.serviceId = "" then .refused invalidTarget
  else
    match rt.call context target.serviceId method (argumentsToJson sol args) session with
    | .error message => .refused { code := callErrorCode message, message }
    | .ok (actor, message) => .queuedSync actor message

/-- `_coro_call`, on the arguments up to the length of their table; `none` where it returns 0. -/
def coroCall (rt : Runtime) (context : RequestContext) (target : LuaTarget) (method : String)
    (args : List LuaValue) (session : Nat) : Option (Instance × ServiceMessage) :=
  if target.serviceId = "" then none
  else
    let serviceId := rt.registry.queryService target.serviceId
    if serviceId = "" then none
    else
      match rt.sendCallRequest context serviceId method
          (argumentsToJson sol (args.take (packedSize args))) session with
      | .error _ => none
      | .ok sent => some sent

/-- `shield.call` and `shield.call_timeout`, on the main thread of the VM or in a coroutine. -/
def shieldCall (api : CallApi) (main : Bool) (rt : Runtime) (context : RequestContext)
    (target : LuaTarget) (method : String) (args : List LuaValue) (session syncSession : Nat) :
    RequestOutcome :=
  if context.inExit then
    .refused { code := "api_not_allowed_in_exit", message := api.name ++ " is not allowed in on_exit" }
  else if main then syncCall sol rt context target method args syncSession
  else
    match coroCall sol packedSize rt context target method args session with
    | some (actor, message) => .queued actor message
    | none => syncCall sol rt context target method args syncSession

inductive LuaApi where
  | send
  | call (api : CallApi) (main : Bool)
  deriving DecidableEq, Repr

def luaRequest (rt : Runtime) (context : RequestContext) (target : LuaTarget) (method : String)
    (args : List LuaValue) (session syncSession : Nat) : LuaApi → RequestOutcome
  | .send => shieldSend dump sol rt context target method args
  | .call api main =>
    shieldCall sol packedSize api main rt context target method args session syncSession

end

/-- What a message is dispatched as. -/
structure DispatchMessage where
  sender : ServiceId
  method : String
  args : Json
  traceId : String
  deadlineMs : Int
  highPriority : Bool
  callSession : Nat
  deriving Repr

def ServiceMessage.toDispatch (msg : ServiceMessage) : DispatchMessage :=
  { msg with highPriority := msg.priority = .high }

def SyncCallMessage.toDispatch (msg : SyncCallMessage) : DispatchMessage :=
  { msg with highPriority := false, callSession := msg.syncSession }

/-- A field of a service module. -/
inductive ModuleField (H : Type) where
  | absent
  | value
  | function (handler : H)
  deriving Repr

section

variable {H : Type}

/-- The look-up of `call_service_method_coroutine`, in the module of the service if it is
loaded. -/
def findHandler (service : Option (String → ModuleField H)) (msg : DispatchMessage) :
    Except String H :=
  match service with
  | none => .error "service module not loaded"
  | some fields =>
    match fields msg.method with
    | .absent => .error ("method not found: " ++ msg.method)
    | .value => .error (msg.method ++ " is not a function")
    | .function handler =>
      match msg.args with
      | .array _ => .ok handler
      | _ => .error "method args must be a JSON array"

/-- The handler that a request reaches, with the arguments it gets, if the modules of the actors
are the given ones when it is dispatched. -/
def RequestOutcome.reached (modules : Instance → Option (String → ModuleField H)) :
    RequestOutcome → Option (H × Json)
  | queued actor msg =>
    (findHandler (modules actor) msg.toDispatch).toOption.map fun handler => (handler, msg.args)
  | queuedSync actor msg =>
    (findHandler (modules actor) msg.toDispatch).toOption.map fun handler => (handler, msg.args)
  | _ => none

end

def kSessionHandleMarker : String := "__shield_session_handle"

def LuaValue.isNil : LuaValue → Bool
  | nil => true
  | _ => false

/-- `static_cast<std::int64_t>` of an unsigned number. -/
def toInt64 (n : Int) : Int := (n + 2 ^ 63) % 2 ^ 64 - 2 ^ 63

def sequenceEntries : Nat → List LuaValue → List (LuaKey × LuaValue)
  | _, [] => []
  | index, item :: items =>
    if item.isNil then sequenceEntries (index + 1) items
    else (.integer index, item) :: sequenceEntries (index + 1) items

def memberEntries (members : List (String × LuaValue)) : List (LuaKey × LuaValue) :=
  (members.filter fun m => !m.2.isNil).map fun m => (.string m.1, m.2)

/-- An object with the marker of a session handle. -/
def isSessionHandle (value : Json) : Bool :=
  match value.field? kSessionHandleMarker with
  | some (.boolean true) => true
  | _ => false

section

/- `__shield_make_session_handle` of the VM, if it is a function: on the id and the remote address
of a session, its first result if it gives one. -/
variable (makeSessionHandle : Option (String → String → Option LuaValue))

/-- The handle for an object that marks a session, if there is one; the exception is that of an
`id` or `remote_addr` that is no string. -/
def sessionHandle (value : Json) : Except String (Option LuaValue) :=
  match isSessionHandle value, makeSessionHandle with
  | true, some makeHandle => do
    return makeHandle (← value.stringValue "id" "") (← value.stringValue "remote_addr" "")
  | _, _ => .ok none

mutual

/-- `json_to_lua`, with the text of the exception it may throw. -/
def jsonToLua : Json → Except String LuaValue
  | .null => .ok .nil
  | .boolean b => .ok (.boolean b)
  | .integer n => .ok (.integer n)
  -- `is_number_integer` holds of unsigned numbers too
  | .unsigned n => .ok (.integer (toInt64 n))
  | .float bits => .ok (.float bits)
  | .string s => .ok (.string s)
  | .array items => do
    return .table (sequenceEntries 1 (← itemsToLua items))
  | .object fields => do
    match ← sessionHandle makeSessionHandle (.object fields) with
    | some handle => return handle
    | none => return .table (memberEntries (← membersToLua fields))

def itemsToLua : List Json → Except String (List LuaValue)
  | [] => .ok []
  | item :: items => do return (← jsonToLua item) :: (← itemsToLua items)

def membersToLua : List (String × Json) → Except String (List (String × LuaValue))
  | [] => .ok []
  | (key, item) :: rest => do return (key, ← jsonToLua item) :: (← membersToLua rest)

end

def appendValue (table : List LuaValue) (value : LuaValue) : List LuaValue :=
  if value.isNil then table else table ++ [value]

def fillTable : List Json → List LuaValue → Except String (List LuaValue)
  | [], table => .ok table
  | arg :: args, table => do fillTable args (appendValue table (← jsonToLua makeSessionHandle arg))

/-- What becomes of `__shield_run_handler` in a dispatch. -/
inductive CoroutineFactory where
  | absent
  | failing
  | noThread
  | ready
  deriving DecidableEq, Repr

def argumentItems : Json → List Json
  | .array items => items
  | _ => []

variable {H : Type} (service : Option (String → ModuleField H)) (msg : DispatchMessage)

/-- `call_service_method`, up to the call of the handler with its arguments. -/
def callServiceMethod : Except String (H × List LuaValue) := do
  let handler ← findHandler service msg
  return (handler, ← itemsToLua makeSessionHandle (argumentItems msg.args))

/-- `call_service_method_coroutine`, up to the call of the handler with its arguments. -/
def callServiceMethodCoroutine (factory : CoroutineFactory) : Except String (H × List LuaValue) := do
  let handler ← findHandler service msg
  match factory with
  | .absent => callServiceMethod makeSessionHandle service msg
  | .failing | .noThread => do
    let _ ← fillTable makeSessionHandle (argumentItems msg.args) []
    callServiceMethod makeSessionHandle service msg
  | .ready => return (handler, ← fillTable makeSessionHandle (argumentItems msg.args) [])

end

end ShieldRuntime.Lua
