import ShieldRuntime.Lua.Values

/-!
# The Redis queue plugin

`plugins/queue.redis`: what `consumer_loop` and the worker of a Lua subscription do with the entries
of one `XREADGROUP`, the text of a message, and the workers of a connection. The replies of the
server are arguments.
-/

namespace ShieldRuntime.Plugins
open Lua Transport

/-- An entry of a stream. -/
structure StreamEntry where
  id : String
  fields : List (String × String)
  deriving DecidableEq, Repr

def StreamEntry.payload (entry : StreamEntry) : String :=
  ((entry.fields.find? fun field => field.1 == "payload").map Prod.snd).getD ""

/-- What the consumer finds in `subs` for the channel when it comes to an entry, and how the
callback ends. -/
inductive Dispatch where
  | unsubscribed
  | noCallback
  | returned
  | failed
  deriving DecidableEq, Repr

inductive QueueEvent where
  | call (payload : String)
  | xack (id : String)
  deriving DecidableEq, Repr

/-- What is done for each entry of the batch, in its order. -/
def consumerBatch : List (StreamEntry × Dispatch) → List (List QueueEvent)
  | [] => []
  | (entry, dispatch) :: rest =>
    match dispatch with
    | .unsubscribed => [] :: consumerBatch rest
    | .noCallback => [.xack entry.id] :: consumerBatch rest
    | .returned => [.call entry.payload, .xack entry.id] :: consumerBatch rest
    -- the exception leaves both loops
    | .failed => [.call entry.payload] :: rest.map fun _ => []

/-- The result of the Lua callback is not looked at. -/
def luaBatch (batch : List (StreamEntry × Dispatch)) : List (List QueueEvent) :=
  batch.map fun p => [.call p.1.payload, .xack p.1.id]

/-- `lua_to_message`; `encode` is its encoding of tables. -/
def luaToMessage (outside : UInt64 → Int64) (dump : JsonDump)
    (encode : List (LuaKey × LuaValue) → Json) (value : LuaValue) : Except String (List UInt8) :=
  match value, value.asLuaInteger? outside with
  | .nil, _ => .error "message is nil"
  | .string s, _ => .ok (bytesOf s)
  | .boolean b, _ => dump (Json.boolean b)
  | _, some n => dump (Json.integer n)
  | .float bits, none => dump (Json.float bits)
  | .table entries, none => dump (encode entries)
  | _, none => .error "unsupported message type"

/-- What one `XREADGROUP` gives the consumer; an exception is an `error`. -/
inductive ReadReply where
  | nil
  | otherType
  | entries (batch : List (StreamEntry × Dispatch))
  | error
  deriving DecidableEq, Repr, Inhabited

/-- `consumer_loop`, with the reply of each iteration; `none` if it is in the loop after the last.
Its condition reads `running` alone, which only `disconnect` clears. -/
def consumerLoop (running : Bool) : List ReadReply → Option (List QueueEvent)
  | [] => if running then none else some []
  | reply :: rest =>
    if running then
      match reply with
      | .entries batch => (consumerLoop running rest).map ((consumerBatch batch).flatten ++ ·)
      | _ => consumerLoop running rest
    else some []

/-- A `shield_queue_conn` after `connect`. -/
structure QueueConn where
  running : Bool := true
  subs : List String := []
  /-- The channels of `workers`; each thread in it can be joined. -/
  workers : List String := []
  /-- The channels of threads that were destroyed while they could be joined. -/
  discarded : List String := []
  deriving DecidableEq, Repr

/-- `grouped` says that `ensure_group` does not throw, and `spawned` that a thread can be made. -/
inductive QueueCall where
  | subscribe (channel : String) (grouped spawned : Bool)
  | unsubscribe (channel : String) (replies : List ReadReply)

def QueueConn.subscribe (conn : QueueConn) (channel : String) (grouped spawned : Bool) :
    QueueConn :=
  if !grouped then conn
  else
    let conn := { conn with subs := conn.subs.insert channel }
    let conn := if channel ∈ conn.workers then { conn with
        workers := conn.workers.erase channel
        discarded := channel :: conn.discarded } else conn
    if spawned then { conn with workers := channel :: conn.workers } else conn

/-- The call has not returned while the worker that it joins is in its loop. -/
def QueueConn.unsubscribe (conn : QueueConn) (channel : String) (replies : List ReadReply) :
    Option QueueConn :=
  let conn := { conn with subs := conn.subs.erase channel }
  if channel ∈ conn.workers then
    (consumerLoop conn.running replies).map fun _ =>
      { conn with workers := conn.workers.erase channel }
  else some conn

def QueueConn.step (conn : QueueConn) : QueueCall → Option QueueConn
  | .subscribe channel grouped spawned => some (conn.subscribe channel grouped spawned)
  | .unsubscribe channel replies => conn.unsubscribe channel replies

end ShieldRuntime.Plugins
