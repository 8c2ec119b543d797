import ShieldRuntime.Transport.Json

/-!
# Lua values and their JSON form

`lua_to_json`. A table is the list of its entries in the order of `lua_next`; one that contains
itself is not a value here (the source recurses without end on it). Functions and coroutines have no
form in JSON. `is<int>` holds of every Lua number; what else sol2 decides about a value is a
parameter.
-/

namespace ShieldRuntime.Lua
open Transport

/-- The keys of a table; `reference` is a table, a function, a userdata or a coroutine. -/
inductive LuaKey where
  | boolean (value : Bool)
  | integer (value : Int)
  | float (bits : UInt64)
  | string (value : String)
  | reference (address : Nat)
  deriving DecidableEq, Repr

inductive LuaValue where
  | nil
  | boolean (value : Bool)
  | integer (value : Int)
  | float (bits : UInt64)
  | string (value : String)
  | table (entries : List (LuaKey × LuaValue))
  | function
  | userdata
  | thread
  deriving Repr

/-- The double nearest to an integer, which is an integer again; ties go to the even one. -/
def roundToDouble (n : Int) : Int :=
  let unit := 2 ^ (n.natAbs.log2 - 52)
  let low := n.natAbs / unit
  let rest := n.natAbs % unit
  let rounded := if unit < 2 * rest ∨ (2 * rest = unit ∧ low % 2 = 1) then low + 1 else low
  if n < 0 then -(rounded * unit : Nat) else (rounded * unit : Nat)

/-- The value of a double that is a whole number. -/
def wholeDouble? (bits : UInt64) : Option Int :=
  let sign : Int := if bits.toNat / 2 ^ 63 = 0 then 1 else -1
  let exponent := bits.toNat / 2 ^ 52 % 2 ^ 11
  let fraction := bits.toNat % 2 ^ 52
  if exponent = 2047 then none
  else if exponent = 0 then if fraction = 0 then some 0 else none
  else if 1075 ≤ exponent then
    some (sign * ((2 ^ 52 + fraction) * 2 ^ (exponent - 1075) : Nat))
  else if (2 ^ 52 + fraction) % 2 ^ (1075 - exponent) = 0 then
    some (sign * ((2 ^ 52 + fraction) / 2 ^ (1075 - exponent) : Nat))
  else none

/-- The value of a finite double without its fraction; the exponent 0 gives 0. -/
def truncateDouble? (bits : UInt64) : Option Int :=
  let sign : Int := if bits.toNat / 2 ^ 63 = 0 then 1 else -1
  let exponent := bits.toNat / 2 ^ 52 % 2 ^ 11
  let fraction := bits.toNat % 2 ^ 52
  if exponent = 2047 then none
  else if 1075 ≤ exponent then
    some (sign * ((2 ^ 52 + fraction) * 2 ^ (exponent - 1075) : Nat))
  else some (sign * ((2 ^ 52 + fraction) / 2 ^ (1075 - exponent) : Nat))

/-- `as<lua_Integer>()` where `is<lua_Integer>()` holds, which is so of every number. What becomes
of a float without a value in range is a parameter. -/
def LuaValue.asLuaInteger? (outside : UInt64 → Int64) : LuaValue → Option Int
  | integer n => some n
  | float bits => ((truncateDouble? bits).filter fun n => -2 ^ 63 ≤ n ∧ n < 2 ^ 63).getD
    (outside bits).toInt
  | _ => none

/-- A number that was read as the double of the given value, with the bits of that double. A
conversion to `int64_t` out of its range gives a number that differs from the double. -/
def doubleToJson (value : Option Int) (bits : UInt64) : Json :=
  match value with
  | some n => if -2 ^ 63 ≤ n ∧ n < 2 ^ 63 then .integer n else .float bits
  | none => .float bits

/-- `static_cast<int>` of a Lua integer. -/
def toInt32 (n : Int) : Int := (n + 2 ^ 31) % 2 ^ 32 - 2 ^ 31

/-- What the conversions of a value leave to sol2. -/
structure Sol2 where
  /-- What `as<int>` makes of a key that is a float. -/
  floatIndex : UInt64 → Int
  /-- What the loops over a table make of a userdata, in JSON and in LuaPack, if `is<sol::table>`
  holds of it. -/
  userdata : Option (Json × Except String (List UInt8))

section

variable (sol : Sol2)

namespace LuaKey

def asInt? : LuaKey → Option Int
  | integer n => some (toInt32 n)
  | float bits => some (sol.floatIndex bits)
  | _ => none

/-- The key of an object, for the keys that are not skipped. -/
def objectKey? (key : LuaKey) : Option String :=
  match key with
  | string s => some s
  | key => (key.asInt? sol).map toString

/-- The index of an array that the key may be. -/
def arrayIndex? (key : LuaKey) : Option Nat :=
  (key.asInt? sol).bind fun index => if 0 < index then some index.toNat else none

end LuaKey

/-- `max_index`, of a table that becomes an array. -/
def arraySize? (keys : List LuaKey) : Option Nat :=
  match keys.mapM (LuaKey.arrayIndex? sol) with
  | some indices =>
    let maxIndex := indices.foldl max 0
    if maxIndex = keys.length then some maxIndex else none
  | none => none

def objectFields : List (LuaKey × Option Json) → List (String × Json) →
    Option (List (String × Json))
  | [], fields => some fields
  | (key, item) :: rest, fields =>
    match key.objectKey? sol with
    | none => objectFields rest fields
    | some name => item.bind fun item => objectFields rest (Json.setField name item fields)

/-- The JSON form of a table from those of its values. -/
def tableToJson (entries : List (LuaKey × Option Json)) : Option Json :=
  match arraySize? sol (entries.map Prod.fst) with
  | some size =>
    -- an index without an entry reads as nil
    let items := (List.range size).mapM fun i =>
      (entries.lookup (.integer (i + 1))).getD (some .null)
    items.map .array
  | none => (objectFields sol entries []).map .object

mutual

/-- `lua_to_json`; `none` where it returns `false`. -/
def luaToJson : LuaValue → Option Json
  | .nil => some .null
  | .boolean b => some (.boolean b)
  | .integer n =>
    -- the double that is no `int64_t` is 2 ^ 63
    some (doubleToJson (some (roundToDouble n)) 0x43E0000000000000)
  | .float bits => some (doubleToJson (wholeDouble? bits) bits)
  | .string s => some (.string s)
  | .table entries => tableToJson sol (entriesToJson entries)
  | .userdata => sol.userdata.map Prod.fst
  | .function | .thread => none

def entriesToJson : List (LuaKey × LuaValue) → List (LuaKey × Option Json)
  | [] => []
  | (key, value) :: rest => (key, luaToJson value) :: entriesToJson rest

end

/-- `lua_to_json` of one argument, with the placeholder for what has no JSON form. -/
def argumentToJson (value : LuaValue) : Json :=
  (luaToJson sol value).getD (.string "<unsupported>")

/-- `variadic_to_json_array`, and the loop over the packed arguments in `_coro_call`. -/
def argumentsToJson (args : List LuaValue) : Json := .array (args.map (argumentToJson sol))

end

end ShieldRuntime.Lua
