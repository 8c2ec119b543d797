import Mathlib.Tactic

/-!
# JSON values and their text

The `nlohmann::json` values that the protocol layer builds and inspects. The library keeps
signed and unsigned integers apart, and so does this model: a value made from a signed integer
is not `is_number_unsigned`, but its text parses back as an unsigned number. The library keeps the
members of an object in the order of their keys, so the order of the list here says nothing; there
is one entry for each key that `setField` has written. `parse` and `dump()` are parameters, and
`Documented` is what the library says of `dump()` with its default arguments.
-/

namespace ShieldRuntime.Transport

inductive Json where
  | null
  | boolean (value : Bool)
  | integer (value : Int)
  | unsigned (value : Nat)
  | float (bits : UInt64)
  | string (value : String)
  | array (items : List Json)
  | object (fields : List (String × Json))
  deriving Repr

namespace Json

def fields : Json → List (String × Json)
  | object fields => fields
  | _ => []

def isObject : Json → Bool
  | object _ => true
  | _ => false

/-- The member of an object, as `operator[]` reads it after a `contains` test. -/
def field? (value : Json) (key : String) : Option Json := value.fields.lookup key

def contains (value : Json) (key : String) : Bool := (value.field? key).isSome

/-- `contains(key) && value[key].is_number_unsigned()`, with `get<std::uint32_t>`. -/
def unsignedField? (value : Json) (key : String) : Option UInt32 :=
  match value.field? key with
  | some (unsigned n) => some (UInt32.ofNat n)
  | _ => none

/-- `contains(key) && value[key].is_string()`, with `get<std::string>`. -/
def stringField? (value : Json) (key : String) : Option String :=
  match value.field? key with
  | some (string s) => some s
  | _ => none

/-- `message[key] = value` on an object. -/
def setField (key : String) (value : Json) : List (String × Json) → List (String × Json)
  | [] => [(key, value)]
  | (k, v) :: rest => if k = key then (k, value) :: rest else (k, v) :: setField key value rest

lemma lookup_setField (key other : String) (value : Json) (members : List (String × Json)) :
    (setField key value members).lookup other =
      if other = key then some value else members.lookup other := by
  induction members with
  | nil => by_cases h : other = key <;> simp [setField, List.lookup_cons, h, beq_false_of_ne]
  | cons member rest ih =>
    obtain ⟨k, v⟩ := member
    by_cases hk : k = key
    · by_cases h : other = key <;> simp [setField, List.lookup_cons, hk, h, beq_false_of_ne]
    · rw [setField, if_neg hk, List.lookup_cons, List.lookup_cons, ih]
      by_cases h : other = key
      · simp [h, beq_false_of_ne (Ne.symm hk)]
      · simp [h]

lemma mem_setField {key : String} {value : Json} {members : List (String × Json)}
    {m : String × Json} (h : m ∈ setField key value members) : m = (key, value) ∨ m ∈ members := by
  induction members with
  | nil => exact .inl (List.mem_singleton.mp h)
  | cons member rest ih =>
    rw [setField] at h
    split at h
    · rename_i hkey
      exact (List.mem_cons.mp h).imp (hkey ▸ ·) (List.mem_cons_of_mem _)
    · rcases List.mem_cons.mp h with rfl | h
      · exact .inr List.mem_cons_self
      · exact (ih h).imp id (List.mem_cons_of_mem _)

def typeName : Json → String
  | null => "null"
  | boolean _ => "boolean"
  | integer _ | unsigned _ | float _ => "number"
  | string _ => "string"
  | array _ => "array"
  | object _ => "object"

/-- The text of the exception that a conversion to another type throws. -/
def typeError (expected : String) (value : Json) : String :=
  "[json.exception.type_error.302] type must be " ++ expected ++ ", but is " ++ value.typeName

def getString : Json → Except String String
  | string s => .ok s
  | value => .error (value.typeError "string")

/-- `value(key, std::string)`, on an object. -/
def stringValue (value : Json) (key default : String) : Except String String :=
  match value.field? key with
  | some item => item.getString
  | none => .ok default

mutual

/-- The value that comes back from the text of a value: a nonnegative integer is parsed as an
unsigned number. Everything else is unchanged. -/
def normalize : Json → Json
  | integer i => if 0 ≤ i then unsigned i.toNat else integer i
  | array items => array (normalizeItems items)
  | object members => object (normalizeFields members)
  | null => null
  | boolean b => boolean b
  | unsigned n => unsigned n
  | float bits => float bits
  | string s => string s

def normalizeItems : List Json → List Json
  | [] => []
  | item :: items => normalize item :: normalizeItems items

def normalizeFields : List (String × Json) → List (String × Json)
  | [] => []
  | (key, value) :: rest => (key, normalize value) :: normalizeFields rest

end

mutual

/-- The value with the members of its objects in the order of their keys. -/
def ordered : Json → Json
  | array items => array (orderedItems items)
  | object members => object (orderedFields members)
  | null => null
  | boolean b => boolean b
  | integer i => integer i
  | unsigned n => unsigned n
  | float bits => float bits
  | string s => string s

def orderedItems : List Json → List Json
  | [] => []
  | item :: items => ordered item :: orderedItems items

def orderedFields : List (String × Json) → List (String × Json)
  | [] => []
  | (key, value) :: rest =>
    (orderedFields rest).orderedInsert (fun a b => a.1 ≤ b.1) (key, ordered value)

end

/-- Equality of JSON values, which sees neither how an integer is stored nor the order in which the
members of an object were written. -/
def Same (a b : Json) : Prop := a.normalize.ordered = b.normalize.ordered

end Json

/-- `dump()`: the text of a value, or the text of the exception that it throws. -/
abbrev JsonDump := Json → Except String (List UInt8)

/-- The parser and the serializer, with the text of the exception they may throw. -/
structure JsonLibrary where
  parse : List UInt8 → Except String Json
  dump : JsonDump

/-- Parsing the text of the value gives the value back, up to the order of members. -/
def JsonLibrary.RoundTrips (lib : JsonLibrary) (value : Json) : Prop :=
  ∀ bytes, lib.dump value = .ok bytes →
    ∃ back, lib.parse bytes = .ok back ∧ back.ordered = value.normalize.ordered

/-- The bytes of a `std::string`. -/
def bytesOf (text : String) : List UInt8 := text.toList.map fun ch => UInt8.ofNat ch.toNat

/-- The `std::string` with the given bytes. -/
def stringOf (bytes : List UInt8) : String := String.ofList (bytes.map fun b => Char.ofNat b.toNat)

lemma charOfByte_toNat (b : UInt8) : (Char.ofNat b.toNat).toNat = b.toNat := by
  have hlt : b.toNat < 256 := UInt8.toNat_lt b
  have hvalid : b.toNat.isValidChar := .inl (by omega)
  rw [Char.ofNat, dif_pos hvalid]
  rfl

@[simp] lemma bytesOf_stringOf (bytes : List UInt8) : bytesOf (stringOf bytes) = bytes := by
  simp only [bytesOf, stringOf, String.toList_ofList, List.map_map]
  conv_rhs => rw [← List.map_id bytes]
  refine List.map_congr_left fun b _ => ?_
  simp [charOfByte_toNat]

/-- Where the UTF-8 decoder stands: between characters, or with so many bytes still to come. After
some first bytes the range of the second is smaller. -/
inductive Utf8State where
  | accept
  | tail1
  | tail2
  | tail3
  | afterE0
  | afterED
  | afterF0
  | afterF4
  deriving DecidableEq, Repr

namespace Utf8State

def first (b : UInt8) : Option Utf8State :=
  if b ≤ 0x7F then some accept
  else if 0xC2 ≤ b ∧ b ≤ 0xDF then some tail1
  else if b = 0xE0 then some afterE0
  else if b = 0xED then some afterED
  else if 0xE1 ≤ b ∧ b ≤ 0xEF then some tail2
  else if b = 0xF0 then some afterF0
  else if 0xF1 ≤ b ∧ b ≤ 0xF3 then some tail3
  else if b = 0xF4 then some afterF4
  else none

def within (low high b : UInt8) (next : Utf8State) : Option Utf8State :=
  if low ≤ b ∧ b ≤ high then some next else none

/-- One byte; `none` is the state that rejects. -/
def next : Utf8State → UInt8 → Option Utf8State
  | accept, b => first b
  | tail1, b => within 0x80 0xBF b accept
  | tail2, b => within 0x80 0xBF b tail1
  | tail3, b => within 0x80 0xBF b tail2
  | afterE0, b => within 0xA0 0xBF b tail1
  | afterED, b => within 0x80 0x9F b tail1
  | afterF0, b => within 0x90 0xBF b tail2
  | afterF4, b => within 0x80 0x8F b tail2

def accepts : Utf8State → List UInt8 → Bool
  | state, [] => state == accept
  | state, b :: rest =>
    match state.next b with
    | some state' => state'.accepts rest
    | none => false

end Utf8State

def validUtf8 (bytes : List UInt8) : Bool := Utf8State.accept.accepts bytes

def hexDigit (n : Nat) : UInt8 := if n < 10 then UInt8.ofNat (48 + n) else UInt8.ofNat (87 + n)

/-- A character below 128 in a string; the bytes of the others stay as they are. -/
def escapeByte (b : UInt8) : List UInt8 :=
  if b = 8 then bytesOf "\\b"
  else if b = 9 then bytesOf "\\t"
  else if b = 10 then bytesOf "\\n"
  else if b = 12 then bytesOf "\\f"
  else if b = 13 then bytesOf "\\r"
  else if b = 34 then bytesOf "\\\""
  else if b = 92 then bytesOf "\\\\"
  else if b ≤ 31 then bytesOf "\\u00" ++ [hexDigit (b.toNat / 16), hexDigit (b.toNat % 16)]
  else [b]

/-- `hex_bytes`, which texts of exceptions use. -/
def hexByte (b : UInt8) : String :=
  let digit (n : Nat) : Char := ("0123456789ABCDEF".toList.drop n).headD '0'
  String.ofList [digit (b.toNat / 16), digit (b.toNat % 16)]

/-- The loop of `dump_escaped` from a byte at `index`, after the byte `last`. -/
def dumpEscaped (state : Utf8State) (index : Nat) (last : UInt8) :
    List UInt8 → Except String (List UInt8)
  | [] =>
    if state = .accept then .ok []
    else .error ("[json.exception.type_error.316] incomplete UTF-8 string; last byte: 0x" ++
      hexByte last)
  | b :: rest =>
    match state.next b with
    | none =>
      .error ("[json.exception.type_error.316] invalid UTF-8 byte at index " ++ toString index ++
        ": 0x" ++ hexByte b)
    | some state' => do return escapeByte b ++ (← dumpEscaped state' (index + 1) b rest)

def dumpString (text : String) : Except String (List UInt8) := do
  return [34] ++ (← dumpEscaped .accept 0 0 (bytesOf text)) ++ [34]

/-- The texts of the items or members of a container, separated by commas. -/
def joinTexts : List (List UInt8) → List UInt8
  | [] => []
  | [text] => text
  | text :: rest => text ++ [44] ++ joinTexts rest

def dumpMember (member : String × Except String (List UInt8)) : Except String (List UInt8) := do
  return (← dumpString member.1) ++ [58] ++ (← member.2)

/-- What is documented of `dump()`: compact text, the members of an object in the order of their
keys, strings between quotes with their escapes, and an exception on a string that is not UTF-8.
The text of a double is `floatText`. -/
structure JsonDump.Documented (dump : JsonDump) (floatText : UInt64 → List UInt8) : Prop where
  null : dump .null = .ok (bytesOf "null")
  boolean : ∀ b, dump (.boolean b) = .ok (bytesOf (if b then "true" else "false"))
  integer : ∀ i : Int, dump (.integer i) = .ok (bytesOf (toString i))
  unsigned : ∀ n : Nat, dump (.unsigned n) = .ok (bytesOf (toString n))
  float : ∀ bits, dump (.float bits) = .ok (floatText bits)
  string : ∀ s, dump (.string s) = dumpString s
  array : ∀ items, dump (.array items) = do
    return [91] ++ joinTexts (← items.mapM dump) ++ [93]
  object : ∀ fields, dump (.object fields) = do
    let members := fields.insertionSort fun a b => a.1 ≤ b.1
    return [123] ++ joinTexts (← members.mapM fun m => dumpMember (m.1, dump m.2)) ++ [125]

namespace Json

mutual

/-- A serializer that writes the documented texts. -/
def dump (floatText : UInt64 → List UInt8) : Json → Except String (List UInt8)
  | null => .ok (bytesOf "null")
  | boolean b => .ok (bytesOf (if b then "true" else "false"))
  | integer i => .ok (bytesOf (toString i))
  | unsigned n => .ok (bytesOf (toString n))
  | float bits => .ok (floatText bits)
  | string s => dumpString s
  | array items => do return [91] ++ joinTexts (← (dumpItems floatText items).mapM id) ++ [93]
  | object fields => do
    let members := (dumpFields floatText fields).insertionSort fun a b => a.1 ≤ b.1
    return [123] ++ joinTexts (← members.mapM dumpMember) ++ [125]

def dumpItems (floatText : UInt64 → List UInt8) : List Json → List (Except String (List UInt8))
  | [] => []
  | item :: items => item.dump floatText :: dumpItems floatText items

def dumpFields (floatText : UInt64 → List UInt8) :
    List (String × Json) → List (String × Except String (List UInt8))
  | [] => []
  | (key, value) :: rest => (key, value.dump floatText) :: dumpFields floatText rest

end

end Json

section

variable (floatText : UInt64 → List UInt8)
include floatText

lemma dumpItems_eq (items : List Json) :
    Json.dumpItems floatText items = items.map (Json.dump floatText) := by
  induction items with
  | nil => rfl
  | cons item items ih => rw [Json.dumpItems, ih, List.map_cons]

lemma dumpFields_eq (fields : List (String × Json)) :
    Json.dumpFields floatText fields =
      fields.map fun field => (field.1, field.2.dump floatText) := by
  induction fields with
  | nil => rfl
  | cons field fields ih => rw [Json.dumpFields, ih, List.map_cons]

/-- `Json.dump` is a serializer as the library documents its own. -/
lemma dump_documented :
    JsonDump.Documented (Json.dump floatText) floatText where
  null := rfl
  boolean _ := rfl
  integer _ := rfl
  unsigned _ := rfl
  float _ := rfl
  string _ := rfl
  array items := by
    rw [Json.dump, dumpItems_eq, List.mapM_map]
    rfl
  object fields := by
    -- sorting the members is sorting the fields
    have hsorted : (Json.dumpFields floatText fields).insertionSort (fun a b => a.1 ≤ b.1) =
        (fields.insertionSort fun a b => a.1 ≤ b.1).map
          fun field => (field.1, field.2.dump floatText) := by
      rw [dumpFields_eq]
      exact (List.map_insertionSort (fun a b : String × Json => a.1 ≤ b.1)
        (fun a b : String × Except String (List UInt8) => a.1 ≤ b.1)
        (fun field => (field.1, field.2.dump floatText)) fields fun _ _ _ _ => Iff.rfl).symm
    rw [Json.dump, hsorted]
    simp only [List.mapM_map]
    rfl

end

/-- A library that writes the documented texts and can read the given ones. -/
def textLibrary (texts : List (List UInt8 × Json)) : JsonLibrary where
  dump := Json.dump fun _ => []
  parse bytes :=
    match texts.lookup bytes with
    | some value => .ok value
    | none => .error "[json.exception.parse_error.101] parse error"

end ShieldRuntime.Transport
