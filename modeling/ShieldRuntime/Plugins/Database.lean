import Mathlib.Logic.Function.Basic
import ShieldRuntime.Library.Machine
import ShieldRuntime.Lua.Values

/-!
# The proxies and the pools of the database plugins

How the PostgreSQL, SQLite and MySQL plugins collect the parameters of a statement from a Lua table,
and `transaction` of the PostgreSQL plugin. A table is the list of its entries in the order of
`lua_next`. The client library and the server are a function from the statements executed so far to
the outcome of the last one. `apply_db_mapper_api` loads a script whose value is a function on a
proxy. A step of a pool is a critical section on `pool_mu`, or the end of a connect or of a health
check outside of it.
-/

namespace ShieldRuntime.Plugins
open Lua Library

/-- `get_type() == sol::type::number`. -/
def isNumber : LuaKey → Bool
  | .integer _ | .float _ => true
  | _ => false

/-- The loop of PostgreSQL and SQLite: the values of the numeric keys, as they are visited. -/
def numericValues (params : List (LuaKey × LuaValue)) : List LuaValue :=
  (params.filter fun entry => isNumber entry.1).map Prod.snd

/-- The values that `collect_lua_params` of the PostgreSQL plugin makes texts of, in their order. -/
def collectLuaParams : List (LuaKey × LuaValue) → List LuaValue := numericValues

/-- `positional` in `run_statement` of the SQLite plugin. -/
def sqlitePositional : List (LuaKey × LuaValue) → List LuaValue := numericValues

section

variable (floatIndex : UInt64 → Int)

/-- `as<lua_Integer>()` of a number; what it makes of a float is a parameter. -/
def keyIndex : LuaKey → Option Int
  | .integer i => some i
  | .float bits => some (floatIndex bits)
  | _ => none

/-- The assignments to `bucket`, in their order. -/
def bucketWrites (params : List (LuaKey × LuaValue)) : List (Int × LuaValue) :=
  params.filterMap fun entry =>
    (keyIndex floatIndex entry.1).bind fun i => if 1 ≤ i then some (i, entry.2) else none

/-- `collect_positional` of the MySQL plugin: the values of `bucket` in the order of its keys. -/
def collectPositional (params : List (LuaKey × LuaValue)) : List LuaValue :=
  let writes := bucketWrites floatIndex params
  ((writes.map Prod.fst).toFinset.sort (· ≤ ·)).map fun i => (writes.reverse.lookup i).getD .nil

end

/-- What is bound to a placeholder, or given to PostgreSQL as a text. -/
inductive BoundValue where
  | null
  | integer (value : Int)
  | double (bits : UInt64)
  | text (value : String)
  deriving DecidableEq, Repr

section

variable (outside : UInt64 → Int64)

/-- The tests that the three plugins make, in their order. -/
def bindValue (boolean : Bool → BoundValue) (integer : Int → BoundValue)
    (double : UInt64 → BoundValue) (other : BoundValue) : LuaValue → BoundValue
  | .nil => .null
  | .boolean b => boolean b
  | value =>
    match value.asLuaInteger? outside, value with
    | some n, _ => integer n
    | none, .float bits => double bits
    | none, .string s => .text s
    | none, _ => other

/-- `bind_lua_param` of the SQLite plugin. -/
def sqliteBind : LuaValue → BoundValue :=
  bindValue outside (fun b => .integer b.toInt) .integer .double .null

/-- `bind_lua_param` of the MySQL plugin; `other` is what `as<std::string>()` makes of the rest. -/
def mysqlBind (other : BoundValue) : LuaValue → BoundValue :=
  bindValue outside (fun b => .integer b.toInt) .integer .double other

/-- The text that `collect_lua_params` of the PostgreSQL plugin makes of a value; `doubleText` is
`std::to_string` of a double. -/
def pgsqlBind (doubleText : UInt64 → String) : LuaValue → BoundValue :=
  bindValue outside (fun b => .text (if b then "t" else "f")) (.text ∘ toString)
    (.text ∘ doubleText) .null

end

def mapSqlstate (sqlstate : String) : String :=
  match sqlstate.toList with
  | '0' :: '8' :: _ => "connection_lost"
  | '5' :: '3' :: _ => "pool_exhausted"
  | '4' :: '0' :: _ => "transaction_aborted"
  | '2' :: '3' :: _ => "constraint_violation"
  | '4' :: '2' :: _ => "syntax_error"
  | '2' :: '8' :: _ => "auth_failed"
  | '5' :: '7' :: _ => "connection_lost"
  | _ => "db_query_failed"

def makeErrorTable (code message : String) : LuaValue :=
  .table [(.string "code", .string code), (.string "message", .string message)]

/-- A statement on the transaction's connection; `mode` is the method of the proxy. -/
inductive Statement where
  | begin
  | commit
  | rollback
  | issued (mode sql : String) (params : List LuaValue)

/-- What executing a statement gives: a null pointer, an error with its SQLSTATE, message and
whether the connection is then bad, or a result as the Lua value for the statement's mode. -/
inductive Outcome where
  | null
  | failed (sqlstate message : String) (connectionBad : Bool)
  | ok (value : LuaValue)

def Outcome.bad : Outcome → Bool
  | null => true
  | failed _ _ connectionBad => connectionBad
  | ok _ => false

def makeErrorFromResult (sqlstate message : String) : LuaValue :=
  makeErrorTable (mapSqlstate sqlstate)
    (if message = "" then "postgresql: query failed" else message)

/-- What a method of the proxy returns to Lua. -/
def reply : Outcome → Bool × LuaValue
  | .null => (false, makeErrorTable "connection_lost" "postgresql: PQexecParams returned NULL")
  | .failed sqlstate message _ => (false, makeErrorFromResult sqlstate message)
  | .ok value => (true, value)

/-- A callback: it raises an error, returns, or calls a method and goes on with the reply. -/
inductive Callback where
  | raises
  | returns (values : List LuaValue)
  | call (mode sql : String) (params : List (LuaKey × LuaValue)) (next : Bool × LuaValue → Callback)

inductive Ending where
  | raised
  | returned (values : List LuaValue)

abbrev Log := List (Statement × Outcome)

/-- The outcome of a statement after those before it. -/
abbrev Server := Log → Statement → Outcome

/-- The end of a callback, the log, and the flag `tx_conn_bad`. -/
def runCallback (server : Server) : Callback → Log → Bool → Ending × Log × Bool
  | .raises, log, bad => (.raised, log, bad)
  | .returns values, log, bad => (.returned values, log, bad)
  | .call mode sql params next, log, bad =>
    let statement := .issued mode sql (collectLuaParams params)
    let outcome := server log statement
    runCallback server (next (reply outcome)) (log ++ [(statement, outcome)]) (bad || outcome.bad)

def Ending.valid : Ending → Bool
  | raised => false
  | returned _ => true

/-- `user_abort`: the first returned value is `false`. -/
def Ending.userAbort : Ending → Bool
  | returned (.boolean false :: _) => true
  | _ => false

/-- `commit`, after all tests. -/
def commits (ending : Ending) (lost : Bool) : Bool := ending.valid && !ending.userAbort && !lost

/-- `tx_sql`. -/
def closing (commit : Bool) : Statement := if commit then .commit else .rollback

/-- A call of `transaction`: what it returns to Lua, what was executed, how the callback ended if it
was called, and whether the connection is dropped from the pool. -/
structure Transaction where
  result : Bool
  values : List LuaValue
  log : Log := []
  ending : Option Ending := none
  lost : Bool := false
  bad : Bool := false

/-- The part of `transaction` after `BEGIN`, with the flag that `BEGIN` left. -/
def finishTransaction (server : Server) (callback : Callback) (log : Log) (connBad : Bool) :
    Transaction :=
  let (ending, log, lost) := runCallback server callback log false
  let commit := commits ending lost
  let name := if commit then "COMMIT" else "ROLLBACK"
  let outcome := server log (closing commit)
  let log := log ++ [(closing commit, outcome)]
  let close (result : Bool) (values : List LuaValue) : Transaction :=
    { result, values, log, ending := some ending, lost, bad := connBad || outcome.bad }
  match outcome with
  | .null => close false [makeErrorTable "db_query_failed" (name ++ " returned NULL")]
  | .failed sqlstate message _ =>
    close false [makeErrorTable (mapSqlstate sqlstate)
      (if message = "" then name ++ " failed" else message)]
  | .ok _ =>
    match ending with
    | .raised =>
      close false [makeErrorTable "transaction_rolled_back" "callback raised an error"]
    | .returned values =>
      if ending.userAbort then
        close false [makeErrorTable "transaction_rolled_back" "callback returned false"]
      else close true values

/-- `transaction`; the connection comes from the pool, or there is the text of an error. -/
def transaction (server : Server) (acquired : Except String Unit) (callback : Callback) :
    Transaction :=
  match acquired with
  | .error error => { result := false, values := [makeErrorTable "connection_failed" error] }
  | .ok () =>
    let outcome := server [] .begin
    let log := [(.begin, outcome)]
    match outcome with
    | .failed sqlstate message connectionBad =>
      { result := false, values := [makeErrorFromResult sqlstate message], log
        bad := connectionBad }
    | .null => finishTransaction server callback log true
    | .ok _ => finishTransaction server callback log false

/-- The loaded `kDbMapperLuaScript`, and the function that it returns. -/
inductive ScriptFunction where
  | chunk
  | attach
  deriving DecidableEq, Repr

inductive Member where
  | mapper
  | registerMapper
  | entity
  | function (id : Nat)
  | value (v : Nat)
  deriving DecidableEq, Repr

def Member.callable : Member → Bool
  | .value _ => false
  | _ => true

abbrev Proxy := String → Option Member

inductive Returned where
  | function (f : ScriptFunction)
  | proxy
  deriving DecidableEq, Repr

def ScriptFunction.call : ScriptFunction → Proxy → Returned × Proxy
  -- the chunk does not read its argument
  | .chunk, db => (.function .attach, db)
  | .attach, db =>
    let db := Function.update db "mapper" (some .mapper)
    let db := Function.update db "register_mapper" (some .registerMapper)
    (.proxy, Function.update db "entity" (some .entity))

/-- `valid` is what `lua.valid()` and `proxy.valid()` say together. -/
structure MapperCall where
  valid : Bool
  loads : Bool
  proxy : Proxy

/-- `cached` is `__shield_db_mapper_apply` in the Lua registry. -/
def applyDbMapperApi (cached : Option ScriptFunction) (call : MapperCall) :
    Option ScriptFunction × Proxy × Bool :=
  if !call.valid then (cached, call.proxy, false)
  else
    match cached with
    | some applyFn => (cached, (applyFn.call call.proxy).2, true)
    | none =>
      if call.loads then (some .chunk, (ScriptFunction.chunk.call call.proxy).2, true)
      else (none, call.proxy, false)

/-- The registry of a Lua state after the calls. -/
def cachedAfter (calls : List MapperCall) : Option ScriptFunction :=
  calls.foldl (fun cached call => (applyDbMapperApi cached call).1) none

inductive Driver where
  | pgsql
  | mysql
  deriving DecidableEq, Repr

/-- A call that has a slot: it connects, looks at the `PQstatus` of a connection, or has one. -/
inductive Guard where
  | connecting (c : Nat)
  | checking (c conn : Nat)
  | held (c conn : Nat)
  deriving DecidableEq, Repr

/-- A pool; connections and callers are numbers. -/
structure Pool where
  driver : Driver
  poolSize : Nat
  currentSize : Int := 0
  freeList : List Nat := []
  guards : List Guard := []
  -- the calls in `wait_for`
  waiting : List Nat := []
  -- the call that locks `pool_mu` while it has it, and never gives it back
  relocked : Option Nat := none
  nextConn : Nat := 0

inductive PoolLabel where
  | acquire (c : Nat)
  | wake (c : Nat)
  | giveUp (c : Nat)
  | connected (c : Nat)
  | connectFailed (c : Nat)
  | alive (c conn : Nat)
  | dead (c conn : Nat)
  | release (c conn : Nat)
  | discard (c conn : Nat)

namespace Pool

variable (s : Pool)

/-- The PostgreSQL pool looks at the connection before it hands it out. -/
def take (c conn : Nat) (rest : List Nat) : Pool :=
  { s with
    freeList := rest
    guards := (if s.driver = .pgsql then .checking c conn else .held c conn) :: s.guards }

def reserve (c : Nat) : Pool :=
  { s with currentSize := s.currentSize + 1, guards := .connecting c :: s.guards }

/-- The first critical section of `acquire_conn` and `acquire_session`. -/
def acquire (c : Nat) : Pool :=
  match s.freeList with
  | conn :: rest => s.take c conn rest
  | [] => if s.currentSize < s.poolSize then s.reserve c else { s with waiting := c :: s.waiting }

/-- The predicate of `wait_for`. -/
def waitOver : Bool :=
  !s.freeList.isEmpty || (s.driver = .mysql && s.currentSize < s.poolSize)

def wake (c : Nat) : Pool :=
  match s.freeList with
  | conn :: rest => { s with waiting := s.waiting.erase c }.take c conn rest
  | [] => { s with waiting := s.waiting.erase c }.reserve c

/-- The slot is given back. The PostgreSQL pool does not count below zero. -/
def lose (guard : Guard) : Option Pool :=
  if s.relocked = none ∧ guard ∈ s.guards then
    some { s with
      guards := s.guards.erase guard
      currentSize :=
        if s.driver = .pgsql ∧ s.currentSize ≤ 0 then s.currentSize else s.currentSize - 1 }
  else none

def step : PoolLabel → Option Pool
  | .acquire c => if s.relocked = none then some (s.acquire c) else none
  | .wake c =>
    if s.relocked = none ∧ c ∈ s.waiting ∧ s.waitOver = true then some (s.wake c) else none
  -- the pool-exhausted error
  | .giveUp c =>
    if s.relocked = none ∧ c ∈ s.waiting ∧ s.waitOver = false then
      some { s with waiting := s.waiting.erase c }
    else none
  | .connected c =>
    if .connecting c ∈ s.guards then
      some { s with
        guards := .held c s.nextConn :: s.guards.erase (.connecting c)
        nextConn := s.nextConn + 1 }
    else none
  | .connectFailed c => s.lose (.connecting c)
  | .alive c conn =>
    if .checking c conn ∈ s.guards then
      some { s with guards := .held c conn :: s.guards.erase (.checking c conn) }
    else none
  -- `acquire_conn` calls itself, with `lk2` still locked
  | .dead c conn =>
    (s.lose (.checking c conn)).map fun next => { next with relocked := some c }
  | .release c conn =>
    if s.relocked = none ∧ .held c conn ∈ s.guards then
      some { s with
        guards := s.guards.erase (.held c conn)
        freeList := s.freeList ++ [conn] }
    else none
  | .discard c conn => s.lose (.held c conn)

def healthCheck (c : Nat) (healthy : Nat → Bool) (conn : Nat) : PoolLabel :=
  if healthy conn then .alive c conn else .dead c conn

/-- What `acquire_conn` does from the end of `wait_for` on. -/
def afterWait (c : Nat) (healthy : Nat → Bool) : List PoolLabel :=
  match s.relocked, s.freeList with
  | none, conn :: _ => [.wake c, healthCheck c healthy conn]
  | none, [] => [.giveUp c]
  -- another call has locked `pool_mu` for good, and `wait_for` does not return
  | some _, _ => []

/-- `acquire_conn` of `c`, until it returns or calls itself. The steps of `others` are taken while it
waits. -/
def attempt (c : Nat) (healthy : Nat → Bool) (connects : Bool)
    (others : List PoolLabel) : List PoolLabel :=
  .acquire c ::
    match s.freeList with
    | conn :: _ => [healthCheck c healthy conn]
    | [] =>
      if s.currentSize < s.poolSize then [if connects then .connected c else .connectFailed c]
      else others ++ ((run step (s.acquire c) others).map (·.afterWait c healthy)).getD []

end Pool

/-- The call enters `acquire_conn`, the second time from within itself. -/
def PoolLabel.enters (c : Nat) : PoolLabel → Bool
  | .acquire d | .dead d _ => c = d
  | _ => false

def PoolLabel.caller : PoolLabel → Nat
  | .acquire c | .wake c | .giveUp c | .connected c | .connectFailed c => c
  | .alive c _ | .dead c _ | .release c _ | .discard c _ => c

end ShieldRuntime.Plugins
