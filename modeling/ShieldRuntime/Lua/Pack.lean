import ShieldRuntime.Lua.Requests
import ShieldRuntime.Transport.Envelope

/-!
# LuaPack

`LuaPackEncoder` and `LuaPackDecoder`. A table is the list of its entries in the order of
`lua_next`; metatables are left out, and so are the sizes of the C++ stack and of the memory. A Lua
error that a table access raises is an outcome of its own, and so is a read of memory after the
input, from which on the behaviour of the decoder is undefined.
-/

namespace ShieldRuntime.Lua
open Transport

/-- `LuaPackEncoder::TypeTag`. -/
inductive TypeTag where
  | nil
  | false
  | true
  | integer
  | number
  | shortString
  | string
  | array
  | map
  | serviceHandle
  | extension
  deriving DecidableEq, Repr

namespace TypeTag

def byte : TypeTag → UInt8
  | nil => 0x00
  | false => 0x01
  | true => 0x02
  | integer => 0x03
  | number => 0x04
  | shortString => 0x05
  | string => 0x06
  | array => 0x07
  | map => 0x08
  | serviceHandle => 0x10
  | extension => 0xFF

def ofByte? (b : UInt8) : Option TypeTag :=
  [nil, false, true, integer, number, shortString, string, array, map, serviceHandle,
    extension].find? fun tag => tag.byte == b

end TypeTag

/-- The Lua values as LuaPack tells them apart; `other` is a function, a coroutine or a userdata
that is neither a table for sol2 nor a service handle. -/
inductive PackValue where
  | nil
  | boolean (value : Bool)
  | integer (value : Int)
  | float (bits : UInt64)
  | string (bytes : List UInt8)
  | table (entries : List (PackValue × PackValue))
  | handle (id : List UInt8)
  | other
  deriving Repr

/-- `LuaPackEncoder::Config`. -/
structure PackLimits where
  maxNestingDepth : Nat := 64
  maxStringLength : Nat := 1048576
  maxArrayLength : Nat := 1000000
  maxMapEntries : Nat := 100000
  deriving DecidableEq, Repr

namespace PackValue

def isNil : PackValue → Bool
  | nil => true
  | _ => false

/-- `is<std::string>() || is<int>()`. -/
def isStringOrNumber : PackValue → Bool
  | string _ | integer _ | float _ => true
  | _ => false

def isIndex (index : Nat) : PackValue → Bool
  | integer n => n == index
  | _ => false

/-- Raw equality of two keys of a table; a table that was just decoded equals no other one. -/
def sameKey : PackValue → PackValue → Bool
  | boolean a, boolean b => a == b
  | integer a, integer b => a == b
  | float a, float b => a == b
  | string a, string b => a == b
  | _, _ => false

end PackValue

/-- What the first loop over a table finds. -/
structure TableShape where
  arrayLike : Bool := true
  maxIndex : Nat := 0
  entryCount : Nat := 0
  deriving DecidableEq, Repr

/-- An entry of a table, with what the encoder makes of its key and of its value. -/
structure TableEntry (α : Type) where
  key : PackValue
  keyForm : α
  valueForm : α

/-- `table[i]` for the indices of an array, in their order. -/
def arrayItems {α : Type} (absent : α) (size : Nat) (entries : List (TableEntry α)) : List α :=
  (List.range size).map fun i =>
    match entries.find? fun e => e.key.isIndex (i + 1) with
    | some e => e.valueForm
    | none => absent

section Encoder

variable (limits : PackLimits) (sol : Sol2)

def PackValue.asInt? : PackValue → Option Int
  | integer n => some (toInt32 n)
  | float bits => some (sol.floatIndex bits)
  | _ => none

/-- The first loop over a table. It ends at a key that is no index of an array, and the entries
after that key are not counted. -/
def scanKeys : List PackValue → TableShape → TableShape
  | [], shape => shape
  | key :: keys, shape =>
    match key.asInt? sol with
    | none => { shape with arrayLike := false, entryCount := shape.entryCount + 1 }
    | some index =>
      if index ≤ 0 then { shape with arrayLike := false, entryCount := shape.entryCount + 1 }
      else
        scanKeys keys { shape with
          maxIndex := max shape.maxIndex index.toNat
          entryCount := shape.entryCount + 1 }

def TableShape.isArray (shape : TableShape) : Bool :=
  shape.arrayLike && shape.maxIndex == shape.entryCount &&
    decide (shape.maxIndex ≤ limits.maxArrayLength)

/-- A number that was read as the double of the given value, with the bits of that double. -/
def encodeNumber (value : Option Int) (bits : UInt64) : List UInt8 :=
  match value with
  | some n =>
    if -2 ^ 63 ≤ n ∧ n < 2 ^ 63 then
      TypeTag.integer.byte :: writeUint (n % 2 ^ 64).toNat 8 .little
    else TypeTag.number.byte :: writeUint bits.toNat 8 .little
  | none => TypeTag.number.byte :: writeUint bits.toNat 8 .little

def encodeString (bytes : List UInt8) : Except String (List UInt8) :=
  if 256 ≤ bytes.length then
    if limits.maxStringLength < bytes.length then .error "string too long"
    else .ok (TypeTag.string.byte :: writeUint bytes.length 4 .little ++ bytes)
  else .ok (TypeTag.shortString.byte :: UInt8.ofNat bytes.length :: bytes)

def joinPacked : List (Except String (List UInt8)) → Except String (List UInt8)
  | [] => .ok []
  | part :: parts => do return (← part) ++ (← joinPacked parts)

def encodeMapEntry (e : TableEntry (Except String (List UInt8))) : Except String (List UInt8) :=
  if e.key.isStringOrNumber then joinPacked [e.keyForm, e.valueForm]
  else .error "map keys must be string or integer"

/-- A table, from the encodings of its keys and values and of the nil of an index without an
entry. -/
def encodeTable (absent : Except String (List UInt8))
    (entries : List (TableEntry (Except String (List UInt8)))) : Except String (List UInt8) :=
  let shape := scanKeys sol (entries.map (·.key)) {}
  if shape.isArray limits then do
    let items ← joinPacked (arrayItems absent shape.maxIndex entries)
    return TypeTag.array.byte :: writeUint shape.maxIndex 4 .little ++ items
  else if limits.maxMapEntries < shape.entryCount then .error "map has too many entries"
  else do
    let pairs ← joinPacked (entries.map encodeMapEntry)
    return TypeTag.map.byte :: writeUint shape.entryCount 4 .little ++ pairs

def checkDepth (depth : Nat) (result : Except String (List UInt8)) : Except String (List UInt8) :=
  if limits.maxNestingDepth < depth then .error "max nesting depth exceeded" else result

mutual

def encodeValue (depth : Nat) : PackValue → Except String (List UInt8)
  | .nil => checkDepth limits depth (.ok [TypeTag.nil.byte])
  | .boolean b => checkDepth limits depth (.ok [if b then TypeTag.true.byte else TypeTag.false.byte])
  | .integer n =>
    -- the double that is no `int64_t` is 2 ^ 63
    checkDepth limits depth (.ok (encodeNumber (some (roundToDouble n)) 0x43E0000000000000))
  | .float bits => checkDepth limits depth (.ok (encodeNumber (wholeDouble? bits) bits))
  | .string bytes => checkDepth limits depth (encodeString limits bytes)
  | .table entries =>
    checkDepth limits depth
      (encodeTable limits sol (checkDepth limits (depth + 1) (.ok [TypeTag.nil.byte]))
        (encodeEntries (depth + 1) entries))
  | .handle id =>
    checkDepth limits depth <|
      -- `is<sol::table>` is asked before `is<ServiceHandle>`
      match sol.userdata with
      | some (_, packed) => packed
      | none => do
        return TypeTag.serviceHandle.byte :: (← checkDepth limits (depth + 1) (encodeString limits id))
  | .other => checkDepth limits depth (.error "unsupported type for LuaPack encoding")

def encodeEntries (depth : Nat) :
    List (PackValue × PackValue) → List (TableEntry (Except String (List UInt8)))
  | [] => []
  | (key, value) :: rest =>
    { key, keyForm := encodeValue depth key, valueForm := encodeValue depth value } ::
      encodeEntries depth rest

end

/-- `LuaPackEncoder::encode`: magic, version and flags, and the value. -/
def packEncode (value : PackValue) : Except String (List UInt8) := do
  return [0x4C, 0x50, 1, 0] ++ (← encodeValue limits sol 0 value)

end Encoder

section Decoder

/-- What `decode_value` comes to: a value with the bytes it consumed, an error text, a Lua error, or
a string that was made of more bytes than there are. -/
inductive Decoded where
  | ok (value : PackValue) (consumed : Nat)
  | error (text : String)
  | raised (what : String)
  | overread (length present : Nat)

def isNanBits (bits : UInt64) : Bool :=
  bits.toNat / 2 ^ 52 % 2 ^ 11 == 2047 && bits.toNat % 2 ^ 52 != 0

/-- The key under which Lua stores an entry: a float with the value of an integer is that integer. -/
def tableKey : PackValue → Except String PackValue
  | .nil => .error "table index is nil"
  | .float bits =>
    if isNanBits bits then .error "table index is NaN"
    else
      match wholeDouble? bits with
      | some n => if -2 ^ 63 ≤ n ∧ n < 2 ^ 63 then .ok (.integer n) else .ok (.float bits)
      | none => .ok (.float bits)
  | key => .ok key

/-- `table[key] = value`; nil removes the entry. -/
def storeEntry (key value : PackValue) : List (PackValue × PackValue) → List (PackValue × PackValue)
  | [] => if value.isNil then [] else [(key, value)]
  | (k, v) :: rest =>
    if k.sameKey key then if value.isNil then rest else (k, value) :: rest
    else (k, v) :: storeEntry key value rest

def decodeItems (decode : List UInt8 → Decoded) :
    (count index : Nat) → List UInt8 → List (PackValue × PackValue) → Nat → Decoded
  | 0, _, _, entries, consumed => .ok (.table entries) consumed
  | count + 1, index, data, entries, consumed =>
    match decode data with
    | .ok elem n =>
      decodeItems decode count (index + 1) (data.drop n) (storeEntry (.integer index) elem entries)
        (consumed + n)
    | failed => failed

def decodeEntries (decode : List UInt8 → Decoded) :
    (count : Nat) → List UInt8 → List (PackValue × PackValue) → Nat → Decoded
  | 0, _, entries, consumed => .ok (.table entries) consumed
  | count + 1, data, entries, consumed =>
    match decode data with
    | .ok key n =>
      match decode (data.drop n) with
      | .ok value m =>
        match tableKey key with
        | .ok key =>
          decodeEntries decode count ((data.drop n).drop m) (storeEntry key value entries)
            (consumed + n + m)
        | .error what => .raised what
      | failed => failed
    | failed => failed

/-- `decode_value`, where every nested value has at least one byte less. -/
def decodeValue : (fuel : Nat) → List UInt8 → Decoded
  | 0, _ | _ + 1, [] => .error "unexpected end of data"
  | fuel + 1, tag :: rest =>
    match TypeTag.ofByte? tag with
    | some .nil => .ok .nil 1
    | some .false => .ok (.boolean false) 1
    | some .true => .ok (.boolean true) 1
    | some .integer =>
      if rest.length < 8 then .error "truncated integer"
      else .ok (.integer (toInt64 (readUint (rest.take 8) .little))) 9
    | some .number =>
      if rest.length < 8 then .error "truncated number"
      else .ok (.float (UInt64.ofNat (readUint (rest.take 8) .little))) 9
    | some .shortString =>
      match rest with
      | [] => .error "truncated short string"
      | len :: bytes =>
        if bytes.length < len.toNat then .error "truncated short string data"
        else .ok (.string (bytes.take len.toNat)) (2 + len.toNat)
    | some .string =>
      if rest.length < 4 then .error "truncated string length"
      else
        let len := readUint (rest.take 4) .little
        -- `5 + len` is a sum of 32-bit numbers
        if rest.length + 1 < (5 + len) % 2 ^ 32 then .error "truncated string data"
        else if rest.length < 4 + len then .overread len (rest.length - 4)
        else .ok (.string ((rest.drop 4).take len)) ((5 + len) % 2 ^ 32)
    | some .array =>
      if rest.length < 4 then .error "truncated array length"
      else
        decodeItems (decodeValue fuel) (readUint (rest.take 4) .little) 1 (rest.drop 4) [] 5
    | some .map =>
      if rest.length < 4 then .error "truncated map count"
      else decodeEntries (decodeValue fuel) (readUint (rest.take 4) .little) (rest.drop 4) [] 5
    | some .serviceHandle | some .extension | none =>
      .error ("unknown type tag: " ++ toString tag.toNat)

/-- `LuaPackDecoder::decode`; what it reports as consumed is that of the payload, without the
header. -/
def packDecode : List UInt8 → Decoded
  | high :: low :: version :: _flags :: payload =>
    if high ≠ 0x4C ∨ low ≠ 0x50 then .error "invalid LuaPack magic bytes"
    else if version ≠ 1 then .error "unsupported LuaPack version"
    else decodeValue payload.length payload
  | _ => .error "invalid LuaPack header: too short"

end Decoder

end ShieldRuntime.Lua
