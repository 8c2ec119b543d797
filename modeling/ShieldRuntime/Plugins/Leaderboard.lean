import ShieldRuntime.Lua.Values
import Mathlib.Algebra.Order.Field.Rat

/-!
# The Redis leaderboard plugin

`plugins/leaderboard.redis`: the definitions of boards, the composite score of an entry, and the
operations of one connection. A finite double is the rational number it stands for. A conversion or
a shift that C++ leaves undefined is `none`. Redis, which holds a sorted set for each board, is a
parameter; the order in which it lists the members of a set is an argument of `topN`, and so is the
failure of a command.
A null pointer is `none`, and an array of names and one of values are a list of pairs.
-/

namespace ShieldRuntime.Plugins

open Lua

inductive SortDirection where
  | desc
  | asc
deriving DecidableEq, Repr

/-- A field of a board. -/
structure FieldDef where
  name : Option String
  dir : SortDirection
deriving DecidableEq, Repr

/-- A board, with a width for each field. -/
structure BoardConfig where
  fieldDefs : List FieldDef
  fieldBits : List Int
  primaryDesc : Bool := true
  bits_length : fieldBits.length = fieldDefs.length
deriving DecidableEq

def kDefaultFieldBits : Int := 16
def kMaxFieldBits : Int := 64

/-- `static_cast<uint64_t>` of a double. -/
def toUint64? (x : ℚ) : Option Nat :=
  let whole := x.num.tdiv x.den
  if 0 ≤ whole ∧ whole < 2 ^ 64 then some whole.toNat else none

def shiftLeft64? (value : Nat) (amount : Int) : Option Nat :=
  if 0 ≤ amount ∧ amount < 64 then some ((value <<< amount.toNat) % 2 ^ 64) else none

def shiftRight64? (value : Nat) (amount : Int) : Option Nat :=
  if 0 ≤ amount ∧ amount < 64 then some (value >>> amount.toNat) else none

/-- `static_cast<double>` of a `uint64_t`. -/
def toDouble (value : Nat) : ℚ := roundToDouble value

abbrev GivenFields := List (Option String × ℚ)

/-- The loop that stores a value at the field of its name. -/
def assignField (name : String) (value : ℚ) : List FieldDef → List ℚ → List ℚ
  | field :: defs, old :: ordered =>
    if field.name = some name then value :: ordered
    else old :: assignField name value defs ordered
  | _, ordered => ordered

def orderedValues (defs : List FieldDef) (given : GivenFields) : List ℚ :=
  given.foldl
    (fun ordered field =>
      match field.1 with
      | none => ordered
      | some name => assignField name field.2 defs ordered)
    (List.replicate defs.length 0)

/-- The loop of `encode_composite` over the values and widths of the fields. -/
def composeFields : (shift : Int) → (composite : Nat) → List (ℚ × Int) → Option Nat
  | _, composite, [] => some composite
  | shift, composite, (value, bits) :: rest =>
    if shift - bits < 0 then some composite
    else do
      let one ← shiftLeft64? 1 bits
      let v ← toUint64? value
      let part ← shiftLeft64? (v &&& (one - 1)) (shift - bits)
      composeFields (shift - bits) (composite ||| part) rest

def encodeComposite (bc : BoardConfig) (given : GivenFields) : Option ℚ :=
  let totalBits := min bc.fieldBits.sum kMaxFieldBits
  (composeFields totalBits 0 ((orderedValues bc.fieldDefs given).zip bc.fieldBits)).map toDouble

/-- The loop of `decode_composite`; the fields after a break are left at zero. -/
def splitFields (val : Nat) : (shift : Int) → List Int → Option (List ℚ)
  | _, [] => some []
  | shift, bits :: rest =>
    if shift - bits < 0 then some (List.replicate (rest.length + 1) 0)
    else do
      let one ← shiftLeft64? 1 bits
      let shifted ← shiftRight64? val (shift - bits)
      let fields ← splitFields val (shift - bits) rest
      return toDouble (shifted &&& (one - 1)) :: fields

def decodeComposite (bc : BoardConfig) (composite : ℚ) : Option (List ℚ) :=
  (toUint64? composite).bind fun val => splitFields val bc.fieldBits.sum bc.fieldBits

def scoreBoard : BoardConfig where
  fieldDefs := [⟨some "score", .desc⟩]
  fieldBits := [kDefaultFieldBits]
  bits_length := rfl

def materializeBoard : List FieldDef → BoardConfig
  | [] => scoreBoard
  | field :: defs =>
    { fieldDefs := field :: defs
      fieldBits := (field :: defs).map fun _ => kDefaultFieldBits
      primaryDesc := field.dir = .desc
      bits_length := List.length_map _ }

/-- The part of `shield_leaderboard_config` that is read. -/
structure LeaderboardConfig where
  name : Option String
  fieldDefs : List FieldDef
deriving DecidableEq, Repr

/-- An entry as a caller gets it. -/
structure LeaderboardEntry where
  playerId : Option String
  fields : GivenFields
  rank : Int
deriving DecidableEq, Repr

/-- What `top_n` fills in. -/
structure LeaderboardResult where
  success : Int
  errorCode : String
  errorMsg : String
  entries : List LeaderboardEntry
deriving DecidableEq, Repr

/-- What the plugin uses of Redis: the sorted set of a key, in whatever form the server has it, and
the commands that change one. -/
structure SortedSets (S : Type) where
  empty : S
  zadd : S → String → ℚ → S
  zrem : S → String → S
  holds : S → String → ℚ → Prop

namespace SortedSets

variable {S : Type}

/-- A member has the score it was added with last, and a command leaves the other members alone. -/
structure Lawful (server : SortedSets S) : Prop where
  empty : ∀ player score, ¬server.holds server.empty player score
  zadd : ∀ set member score player score', server.holds (server.zadd set member score) player score' ↔
    (player = member ∧ score' = score) ∨ (server.holds set player score' ∧ player ≠ member)
  zrem : ∀ set member player score, server.holds (server.zrem set member) player score ↔
    server.holds set player score ∧ player ≠ member

/-- The ways to list the members by score; Redis chooses among those of one score. -/
structure IsListing (server : SortedSets S) (set : S) (rows : List (String × ℚ)) : Prop where
  nodup : (rows.map Prod.fst).Nodup
  mem_iff : ∀ row, row ∈ rows ↔ server.holds set row.1 row.2
  sorted : rows.Pairwise (·.2 ≤ ·.2)

end SortedSets

/-- A connection, and the sorted sets of the server it leads to. -/
structure LeaderboardConn (S : Type) where
  boards : String → Option BoardConfig
  redis : String → S

namespace LeaderboardConn

variable {S : Type} (server : SortedSets S) (c : LeaderboardConn S)

/-- The board that an entry is encoded for. -/
def boardOf (boardName : String) : BoardConfig := (c.boards boardName).getD scoreBoard

def createBoard (config : Option LeaderboardConfig) : Int × LeaderboardConn S :=
  match config with
  | none => (-1, c)
  | some config =>
    match config.name with
    | none => (-1, c)
    | some name =>
      (0, { c with boards := Function.update c.boards name (materializeBoard config.fieldDefs) })

/-- `failed`: the command to Redis throws. -/
def deleteBoard (boardName : Option String) (failed : Bool) : Int × LeaderboardConn S :=
  match boardName with
  | none => (-1, c)
  | some boardName =>
    if failed then (-1, c)
    else
      (0, { boards := Function.update c.boards boardName none
            redis := Function.update c.redis boardName server.empty })

def setEntry (boardName playerId : Option String) (given : GivenFields) (failed : Bool) :
    Option (Int × LeaderboardConn S) :=
  match boardName, playerId with
  | some boardName, some playerId =>
    (encodeComposite (c.boardOf boardName) given).map fun score =>
      if failed then (-1, c)
      else
        let set := server.zadd (c.redis boardName) playerId score
        (0, { c with redis := Function.update c.redis boardName set })
  | _, _ => some (-1, c)

def removeEntry (boardName playerId : Option String) (failed : Bool) : Int × LeaderboardConn S :=
  match boardName, playerId with
  | some boardName, some playerId =>
    if failed then (-1, c)
    else
      let set := server.zrem (c.redis boardName) playerId
      (0, { c with redis := Function.update c.redis boardName set })
  | _, _ => (-1, c)

/-- The rows that are asked of Redis, from its list of the members by score. -/
def topRows (boardName : String) (n : Int) (rows : List (String × ℚ)) : List (String × ℚ) :=
  let desc := ((c.boards boardName).map BoardConfig.primaryDesc).getD true
  (if desc then rows.reverse else rows).take n.toNat

/-- `failure`: what the command to Redis throws. -/
def topN (boardName : Option String) (n : Int) (rows : List (String × ℚ))
    (failure : Option String) : Int × LeaderboardResult :=
  match boardName with
  | none => (-1, ⟨0, "invalid_args", "", []⟩)
  | some boardName =>
    if n ≤ 0 then (-1, ⟨0, "invalid_args", "", []⟩)
    else
      match failure with
      | some what => (-1, ⟨0, "lb_query_failed", what, []⟩)
      | none =>
        let entries := (c.topRows boardName n rows).zipIdx.map fun row =>
          { playerId := some row.1.1, fields := [], rank := row.2 + 1 }
        (0, ⟨1, "", "", entries⟩)

end LeaderboardConn

/-! Runs: the calls on one connection that change something. -/

inductive LeaderboardCall
  | createBoard (config : Option LeaderboardConfig)
  | deleteBoard (boardName : Option String) (failed : Bool)
  | setEntry (boardName playerId : Option String) (given : GivenFields) (failed : Bool)
  | removeEntry (boardName playerId : Option String) (failed : Bool)
deriving DecidableEq

def LeaderboardConn.step {S : Type} (server : SortedSets S) (c : LeaderboardConn S) :
    LeaderboardCall → Option (LeaderboardConn S)
  | .createBoard config => some (c.createBoard config).2
  | .deleteBoard boardName failed => some (c.deleteBoard server boardName failed).2
  | .setEntry boardName playerId given failed =>
    (c.setEntry server boardName playerId given failed).map Prod.snd
  | .removeEntry boardName playerId failed => some (c.removeEntry server boardName playerId failed).2

end ShieldRuntime.Plugins
