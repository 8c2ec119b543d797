import ShieldRuntime.Library.Machine
import ShieldRuntime.Library.PackedDigits
import ShieldRuntime.Plugins.Leaderboard
import ShieldRuntime.Proofs.PackGrammar

/-!
# Scores and order of a leaderboard

The score of an entry is the number whose digits are its fields, 16 bits each. A double holds three
of them and some quadruples. Redis holds the score of each player's last entry.
-/

namespace ShieldRuntime.Proofs
open Library Plugins LeaderboardConn Lua

section Assigned

variable {V : Type} [Zero V]

def assigned (given : List (Option String × V)) (name : Option String) : V :=
  match name with
  | none => 0
  | some name => (given.reverse.lookup (some name)).getD 0

/-- The values in the order of the board's fields. -/
def fieldTuple (defs : List FieldDef) (given : List (Option String × V)) : List V :=
  defs.map fun field => assigned given field.name

@[simp] lemma assigned_nil (name : Option String) :
    assigned ([] : List (Option String × V)) name = 0 := by
  cases name <;> rfl

lemma assigned_append (given : List (Option String × V)) (field : Option String × V)
    (name : Option String) :
    assigned (given ++ [field]) name =
      if name = field.1 ∧ name ≠ none then field.2 else assigned given name := by
  cases name with
  | none => simp [assigned]
  | some name =>
    obtain ⟨key, value⟩ := field
    simp only [assigned, List.reverse_append, List.reverse_singleton, List.singleton_append,
      List.lookup_cons, ne_eq, reduceCtorEq, not_false_eq_true, and_true]
    by_cases hkey : some name = key
    · simp [hkey]
    · have hbeq : (some name == key) = false := by simpa using hkey
      rw [hbeq, if_neg hkey]

lemma assigned_induction {P : V → Prop} (hzero : P 0) {given : List (Option String × V)}
    (hgiven : ∀ field ∈ given, P field.2) (name : Option String) : P (assigned given name) := by
  induction given using List.reverseRecOn with
  | nil => rwa [assigned_nil]
  | append_singleton given field ih =>
    rw [assigned_append]
    split_ifs
    · exact hgiven field (by simp)
    · exact ih fun other hother => hgiven other (by simp [hother])

end Assigned

section Ordered

variable {defs : List FieldDef}

lemma assignField_map (hnames : (defs.map FieldDef.name).Nodup) (name : String) (value : ℚ)
    (f : Option String → ℚ) :
    assignField name value defs (defs.map fun field => f field.name) =
      defs.map fun field => if field.name = some name then value else f field.name := by
  induction defs with
  | nil => rfl
  | cons field defs ih =>
    obtain ⟨hnew, hrest⟩ := List.nodup_cons.mp hnames
    simp only [List.map_cons, assignField]
    by_cases hname : field.name = some name
    · rw [if_pos hname, if_pos hname]
      refine congrArg (value :: ·) (List.map_congr_left ?_)
      intro other hother
      have hne : other.name ≠ some name :=
        fun heq => hnew (List.mem_map.mpr ⟨other, hother, heq.trans hname.symm⟩)
      rw [if_neg hne]
    · rw [if_neg hname, if_neg hname, ih hrest]

lemma orderedValues_eq (hnames : (defs.map FieldDef.name).Nodup) (given : GivenFields) :
    orderedValues defs given = fieldTuple defs given := by
  induction given using List.reverseRecOn with
  | nil => simp [orderedValues, fieldTuple, List.map_const']
  | append_singleton given field ih =>
    obtain ⟨name, value⟩ := field
    rw [orderedValues] at ih
    rw [orderedValues, List.foldl_append, ih]
    cases name with
    | none =>
      apply List.map_congr_left
      intro other hother
      rw [assigned_append, if_neg]
      rintro ⟨hnone, hsome⟩
      exact hsome hnone
    | some name =>
      change assignField name value defs (defs.map fun field => assigned given field.name) = _
      rw [assignField_map hnames]
      apply List.map_congr_left
      intro other hother
      rw [assigned_append]
      by_cases hname : other.name = some name
      · rw [if_pos hname, if_pos ⟨hname, by simp [hname]⟩]
      · rw [if_neg hname, if_neg fun h => hname h.1]

end Ordered

def asDoubles (values : List (Option String × Nat)) : GivenFields :=
  values.map fun field => (field.1, (field.2 : ℚ))

lemma assigned_asDoubles (values : List (Option String × Nat)) (name : Option String) :
    assigned (asDoubles values) name = ((assigned values name : Nat) : ℚ) := by
  induction values using List.reverseRecOn with
  | nil => simp [asDoubles]
  | append_singleton values field ih =>
    rw [asDoubles, List.map_append, List.map_singleton, assigned_append, assigned_append]
    split_ifs
    · rfl
    · exact ih

lemma fieldTuple_asDoubles (defs : List FieldDef) (values : List (Option String × Nat)) :
    fieldTuple defs (asDoubles values) = (fieldTuple defs values).map Nat.cast := by
  simp [fieldTuple, assigned_asDoubles]

lemma fieldTuple_lt (defs : List FieldDef) {values : List (Option String × Nat)}
    (hvalues : ∀ field ∈ values, field.2 ≤ 65535) : ∀ d ∈ fieldTuple defs values, d < 2 ^ 16 := by
  intro d hd
  obtain ⟨field, -, rfl⟩ := List.mem_map.mp hd
  apply assigned_induction (P := (· < 2 ^ 16)) (by norm_num)
  intro field hfield
  have := hvalues field hfield
  omega

lemma toUint64?_natCast {n : Nat} (h : n < 2 ^ 64) : toUint64? n = some n := by
  have hwhole : ((n : ℚ).num.tdiv ((n : ℚ).den : Int)) = n := by simp
  rw [toUint64?]
  simp only [hwhole]
  rw [if_pos ⟨by omega, by exact_mod_cast h⟩, Int.toNat_natCast]

lemma shiftLeft64?_field {d k : Nat} (hd : d < 2 ^ 16) (hk : k ≤ 3) :
    shiftLeft64? d (16 * k) = some (d * (2 ^ 16) ^ k) := by
  have hpow : d * (2 ^ 16) ^ k < 2 ^ 64 := by
    calc
      d * (2 ^ 16) ^ k < 2 ^ 16 * (2 ^ 16) ^ k := Nat.mul_lt_mul_of_pos_right hd (by positivity)
      _ = 2 ^ (16 * (k + 1)) := by rw [← pow_succ', ← pow_mul]
      _ ≤ 2 ^ 64 := Nat.pow_le_pow_right (by norm_num) (by omega)
  have hamount : (16 * (k : Int)).toNat = 16 * k := by omega
  rw [shiftLeft64?, if_pos (by omega), hamount, Nat.shiftLeft_eq, pow_mul, Nat.mod_eq_of_lt hpow]

lemma or_field (high d k : Nat) (hd : d < 2 ^ 16) :
    high * (2 ^ 16) ^ (k + 1) ||| d * (2 ^ 16) ^ k = (high * 2 ^ 16 + d) * (2 ^ 16) ^ k := by
  have hlow : d * (2 ^ 16) ^ k < 2 ^ (16 * (k + 1)) := by
    rw [pow_mul, pow_succ' (2 ^ 16) k]
    exact Nat.mul_lt_mul_of_pos_right hd (Nat.pow_pos (by norm_num))
  have hor := Nat.two_pow_add_eq_or_of_lt hlow high
  rw [pow_mul, Nat.mul_comm] at hor
  rw [← hor, pow_succ' (2 ^ 16) k]
  ring

lemma composeFields_digits {ds : List Nat} (hds : ∀ d ∈ ds, d < 2 ^ 16) (hlength : ds.length ≤ 4)
    (high : Nat) :
    composeFields (16 * ds.length) (high * (2 ^ 16) ^ ds.length)
        ((ds.map Nat.cast).zip (ds.map fun _ => kDefaultFieldBits)) =
      some (high * (2 ^ 16) ^ ds.length + packDigits (2 ^ 16) ds) := by
  induction ds generalizing high with
  | nil => simp [composeFields, packDigits]
  | cons d ds ih =>
    obtain ⟨hd, hrest⟩ := List.forall_mem_cons.mp hds
    rw [List.length_cons] at hlength
    have hshift : (16 * ((d :: ds).length : Int) - kDefaultFieldBits) = 16 * (ds.length : Int) := by
      rw [List.length_cons, kDefaultFieldBits]
      push_cast
      ring
    have hone : shiftLeft64? 1 kDefaultFieldBits = some (2 ^ 16) := by decide
    have hd64 : d < 2 ^ 64 := hd.trans (by norm_num)
    simp only [List.map_cons, List.zip_cons_cons, composeFields, hshift, hone,
      toUint64?_natCast hd64, Option.bind_eq_bind, Option.bind_some, Nat.and_two_pow_sub_one_eq_mod,
      Nat.mod_eq_of_lt hd, shiftLeft64?_field hd (Nat.le_of_succ_le_succ hlength)]
    rw [if_neg (by omega), List.length_cons, or_field high d ds.length hd,
      ih hrest (Nat.le_of_succ_le hlength), packDigits]
    congr 1
    ring

lemma splitFields_digits (val : Nat) {count : Nat} (hcount : count ≤ 4) :
    splitFields val (16 * count) (List.replicate count kDefaultFieldBits) =
      some ((unpackDigits (2 ^ 16) val count).map Nat.cast) := by
  induction count with
  | zero => rfl
  | succ count ih =>
    have hshift : 16 * ((count + 1 : Nat) : Int) - kDefaultFieldBits = 16 * (count : Int) := by
      rw [kDefaultFieldBits]
      push_cast
      ring
    have hone : shiftLeft64? 1 kDefaultFieldBits = some (2 ^ 16) := by decide
    have hright : shiftRight64? val (16 * count) = some (val / (2 ^ 16) ^ count) := by
      have hamount : (16 * (count : Int)).toNat = 16 * count := by omega
      rw [shiftRight64?, if_pos (by omega), hamount, Nat.shiftRight_eq_div_pow, pow_mul]
    have hdouble : toDouble (val / (2 ^ 16) ^ count % 2 ^ 16) =
        ((val / (2 ^ 16) ^ count % 2 ^ 16 : Nat) : ℚ) := by
      have hsmall := Nat.mod_lt (val / (2 ^ 16) ^ count) (show 0 < 2 ^ 16 by norm_num)
      rw [toDouble, roundToDouble_of_exactDouble (exactDouble_of_le (by omega))]
      norm_cast
    rw [List.replicate_succ, splitFields, hshift, if_neg (by omega), hone, hright,
      ih (Nat.le_of_succ_le hcount)]
    simp only [Option.bind_eq_bind, Option.bind_some, Nat.and_two_pow_sub_one_eq_mod, hdouble,
      unpackDigits, List.map_cons]
    rfl

lemma fieldBits_eq (defs : List FieldDef) :
    (materializeBoard defs).fieldBits =
      (materializeBoard defs).fieldDefs.map fun _ => kDefaultFieldBits := by
  cases defs <;> rfl

lemma sum_fieldBits (defs : List FieldDef) :
    (materializeBoard defs).fieldBits.sum = 16 * (materializeBoard defs).fieldDefs.length := by
  rw [fieldBits_eq, List.map_const', List.sum_replicate, nsmul_eq_mul, mul_comm, kDefaultFieldBits]

section Score

variable {defs : List FieldDef} {values : List (Option String × Nat)}

def compositeOf (defs : List FieldDef) (values : List (Option String × Nat)) : Nat :=
  packDigits (2 ^ 16) (fieldTuple (materializeBoard defs).fieldDefs values)

lemma encodeComposite_eq (hnames : ((materializeBoard defs).fieldDefs.map FieldDef.name).Nodup)
    (hvalues : ∀ field ∈ values, field.2 ≤ 65535)
    (hcount : (materializeBoard defs).fieldDefs.length ≤ 4) :
    encodeComposite (materializeBoard defs) (asDoubles values) =
      some (toDouble (compositeOf defs values)) := by
  let tuple := fieldTuple (materializeBoard defs).fieldDefs values
  have hlength : tuple.length = (materializeBoard defs).fieldDefs.length := List.length_map _
  have hbits : (materializeBoard defs).fieldBits = tuple.map fun _ => kDefaultFieldBits := by
    rw [fieldBits_eq]
    simp [tuple, fieldTuple, Function.comp_def]
  have htotal : min (materializeBoard defs).fieldBits.sum kMaxFieldBits = 16 * tuple.length := by
    rw [sum_fieldBits, hlength, kMaxFieldBits]
    omega
  have hcompose := composeFields_digits (fieldTuple_lt _ hvalues) (hlength ▸ hcount) 0
  rw [zero_mul, zero_add] at hcompose
  simp only [encodeComposite]
  rw [htotal, orderedValues_eq hnames, fieldTuple_asDoubles, hbits, hcompose, Option.map_some]
  rfl

lemma decodeComposite_eq {val : Nat} (hval : val < 2 ^ 64)
    (hcount : (materializeBoard defs).fieldDefs.length ≤ 4) :
    decodeComposite (materializeBoard defs) val = some
      ((unpackDigits (2 ^ 16) val (materializeBoard defs).fieldDefs.length).map Nat.cast) := by
  rw [decodeComposite, toUint64?_natCast hval, Option.bind_some, sum_fieldBits, fieldBits_eq,
    List.map_const', splitFields_digits val hcount]

lemma decodeComposite_none (hcount : 4 < (materializeBoard defs).fieldDefs.length) (score : ℚ) :
    decodeComposite (materializeBoard defs) score = none := by
  rw [decodeComposite, sum_fieldBits, fieldBits_eq, List.map_const']
  obtain ⟨count, hlength⟩ := Nat.exists_eq_add_of_lt hcount
  rw [hlength]
  cases toUint64? score with
  | none => rfl
  | some val =>
    have hshift : 16 * ((4 + count + 1 : Nat) : Int) - kDefaultFieldBits = 64 + 16 * count := by
      rw [kDefaultFieldBits]
      push_cast
      ring
    have hright : shiftRight64? val (64 + 16 * count) = none := by
      rw [shiftRight64?, if_neg (by omega)]
    rw [Option.bind_some, List.replicate_succ, splitFields, hshift, if_neg (by omega), hright]
    rfl

lemma length_fieldTuple (values : List (Option String × Nat)) (defs : List FieldDef) :
    (fieldTuple defs values).length = defs.length :=
  List.length_map _

variable (defs) in
lemma compositeOf_lt (hvalues : ∀ field ∈ values, field.2 ≤ 65535) :
    compositeOf defs values < (2 ^ 16) ^ (materializeBoard defs).fieldDefs.length := by
  rw [← length_fieldTuple values]
  exact packDigits_lt (fieldTuple_lt _ hvalues)

lemma toDouble_compositeOf (hvalues : ∀ field ∈ values, field.2 ≤ 65535)
    (hcount : (materializeBoard defs).fieldDefs.length ≤ 3) :
    toDouble (compositeOf defs values) = compositeOf defs values := by
  have hlt := compositeOf_lt defs hvalues
  have hpow : (2 ^ 16) ^ (materializeBoard defs).fieldDefs.length ≤ 2 ^ 53 := by
    rw [← pow_mul]
    exact Nat.pow_le_pow_right (by norm_num) (by omega)
  rw [toDouble, roundToDouble_of_exactDouble (exactDouble_of_le (by omega))]
  norm_cast

lemma exact_of_toUint64? {n val : Nat} (h : toUint64? (toDouble n) = some val) :
    toDouble n = val ∧ val < 2 ^ 64 := by
  have hwhole : (toDouble n).num.tdiv ((toDouble n).den : Int) = roundToDouble n := by
    simp [toDouble]
  rw [toUint64?] at h
  simp only [hwhole] at h
  split_ifs at h with hrange
  have hval : (roundToDouble n).toNat = val := Option.some.inj h
  have hcast : roundToDouble n = (val : Int) := by omega
  refine ⟨?_, by omega⟩
  rw [toDouble, hcast]
  norm_cast

/-- The fields of an entry come back from its score, the given ones and zeros for the others, if and
only if there are at most four of them and the number they make is a double. -/
theorem composite_lossless_iff
    (hnames : ((materializeBoard defs).fieldDefs.map FieldDef.name).Nodup)
    (hvalues : ∀ field ∈ values, field.2 ≤ 65535) :
    (encodeComposite (materializeBoard defs) (asDoubles values)).bind
        (decodeComposite (materializeBoard defs)) =
      some ((fieldTuple (materializeBoard defs).fieldDefs values).map Nat.cast) ↔
    (materializeBoard defs).fieldDefs.length ≤ 4 ∧
      toDouble (compositeOf defs values) = compositeOf defs values := by
  have hlt := compositeOf_lt defs hvalues
  constructor
  · intro h
    by_cases hcount : (materializeBoard defs).fieldDefs.length ≤ 4
    · refine ⟨hcount, ?_⟩
      rcases Nat.lt_or_eq_of_le hcount with hthree | hfour
      · exact toDouble_compositeOf hvalues (Nat.le_of_lt_succ hthree)
      rw [encodeComposite_eq hnames hvalues hcount, Option.bind_some] at h
      cases hval : toUint64? (toDouble (compositeOf defs values)) with
      | none =>
        rw [decodeComposite, hval] at h
        cases h
      | some val =>
        obtain ⟨hdouble, hsmall⟩ := exact_of_toUint64? hval
        rw [hdouble, decodeComposite_eq hsmall hcount, Option.some.injEq, hfour] at h
        have hfields := List.map_injective_iff.mpr Nat.cast_injective h
        have hpacked : packDigits (2 ^ 16) (unpackDigits (2 ^ 16) val 4) = val % (2 ^ 16) ^ 4 :=
          packDigits_unpackDigits val 4
        rw [hfields, Nat.mod_eq_of_lt (by omega)] at hpacked
        rw [hdouble, compositeOf, hpacked]
    · have hnone : decodeComposite (materializeBoard defs) = fun _ => none :=
        funext (decodeComposite_none (Nat.lt_of_not_le hcount))
      rw [hnone, Option.bind_fun_none] at h
      cases h
  · rintro ⟨hcount, hexact⟩
    have hpow : (2 ^ 16) ^ (materializeBoard defs).fieldDefs.length ≤ 2 ^ 64 := by
      rw [← pow_mul]
      exact Nat.pow_le_pow_right (by norm_num) (by omega)
    rw [encodeComposite_eq hnames hvalues hcount, Option.bind_some, hexact,
      decodeComposite_eq (by omega) hcount, ← length_fieldTuple values, compositeOf,
      unpackDigits_packDigits (fieldTuple_lt _ hvalues)]

end Score

def descending (names : List String) : List FieldDef := names.map fun name => ⟨some name, .desc⟩

theorem composite_lossless_iff_four :
    (encodeComposite (materializeBoard (descending ["a", "b", "c", "d"]))
        (asDoubles [(some "c", 7), (some "b", 65535)])).bind
        (decodeComposite (materializeBoard (descending ["a", "b", "c", "d"]))) =
      some ((fieldTuple (descending ["a", "b", "c", "d"])
        [(some "c", 7), (some "b", 65535)]).map Nat.cast) :=
  (composite_lossless_iff (by decide) (by decide)).mpr ⟨by decide, by decide +kernel⟩

/-- The last of four fields is rounded away, and the score of five fields cannot be decoded. -/
theorem composite_loses_fields :
    fieldTuple (descending ["a", "b", "c", "d"]) [(some "d", 1), (some "a", 65535)] =
        [65535, 0, 0, 1] ∧
      (encodeComposite (materializeBoard (descending ["a", "b", "c", "d"]))
        (asDoubles [(some "d", 1), (some "a", 65535)])).bind
          (decodeComposite (materializeBoard (descending ["a", "b", "c", "d"]))) =
        some [65535, 0, 0, 0] ∧
      (encodeComposite (materializeBoard (descending ["a", "b", "c", "d", "e"]))
        (asDoubles [(some "a", 1)])).bind
          (decodeComposite (materializeBoard (descending ["a", "b", "c", "d", "e"]))) = none := by
  decide +kernel

variable {S : Type} {server : SortedSets S} {given : GivenFields} {score : ℚ}
  {c : LeaderboardConn S} {board : String}
  {rows : List (String × ℚ)} {n : Int} {stored : String → Option GivenFields}

section Scores

/-- Every given field is a whole number of 16 bits. -/
def IntegerFields (given : GivenFields) : Prop :=
  ∀ field ∈ given, ∃ k : Nat, k ≤ 65535 ∧ field.2 = k

lemma exists_asDoubles (h : IntegerFields given) :
    ∃ values, (∀ field ∈ values, field.2 ≤ 65535) ∧ given = asDoubles values := by
  induction given with
  | nil => exact ⟨[], by simp, rfl⟩
  | cons field given ih =>
    obtain ⟨hfield, hrest⟩ := List.forall_mem_cons.mp h
    obtain ⟨name, value⟩ := field
    obtain ⟨k, hk, rfl⟩ := hfield
    obtain ⟨values, hvalues, rfl⟩ := ih hrest
    exact ⟨(name, k) :: values, List.forall_mem_cons.mpr ⟨hk, hvalues⟩, rfl⟩

lemma map_natCast_lt_iff {as bs : List Nat} :
    as.map (Nat.cast : Nat → ℚ) < bs.map Nat.cast ↔ as < bs := by
  induction as generalizing bs with
  | nil => cases bs <;> simp
  | cons a as ih =>
    cases bs with
    | nil => simp
    | cons =>
      rw [List.map_cons, List.map_cons, List.cons_lt_cons_iff, List.cons_lt_cons_iff, ih,
        Nat.cast_lt, Nat.cast_inj]

variable (defs : List FieldDef) {given' : GivenFields}
  (hnames : ((materializeBoard defs).fieldDefs.map FieldDef.name).Nodup)
  (hcount : (materializeBoard defs).fieldDefs.length ≤ 3)

include hnames hcount

lemma encodeComposite_isSome (h : IntegerFields given) :
    (encodeComposite (materializeBoard defs) given).isSome = true := by
  obtain ⟨values, hvalues, rfl⟩ := exists_asDoubles h
  rw [encodeComposite_eq hnames hvalues (hcount.trans (by norm_num)), Option.isSome_some]

lemma fieldTuple_le {score' : ℚ} (h : IntegerFields given) (h' : IntegerFields given')
    (hscore : encodeComposite (materializeBoard defs) given = some score)
    (hscore' : encodeComposite (materializeBoard defs) given' = some score')
    (hle : score ≤ score') :
    fieldTuple (materializeBoard defs).fieldDefs given ≤
      fieldTuple (materializeBoard defs).fieldDefs given' := by
  obtain ⟨values, hvalues, rfl⟩ := exists_asDoubles h
  obtain ⟨values', hvalues', rfl⟩ := exists_asDoubles h'
  have hfour := hcount.trans (show 3 ≤ 4 by norm_num)
  rw [encodeComposite_eq hnames hvalues hfour, toDouble_compositeOf hvalues hcount,
    Option.some.injEq] at hscore
  rw [encodeComposite_eq hnames hvalues' hfour, toDouble_compositeOf hvalues' hcount,
    Option.some.injEq] at hscore'
  rw [← hscore, ← hscore', Nat.cast_le] at hle
  rw [← not_lt, fieldTuple_asDoubles, fieldTuple_asDoubles, map_natCast_lt_iff,
    ← packDigits_lt_iff (by rw [length_fieldTuple, length_fieldTuple]) (fieldTuple_lt _ hvalues')
      (fieldTuple_lt _ hvalues), not_lt]
  exact hle

end Scores

section Stored

def storeStep (board player : String) (stored : Option GivenFields) :
    LeaderboardCall → Option GivenFields
  | .setEntry (some boardName) (some playerId) given false =>
    if boardName = board ∧ playerId = player then some given else stored
  | .removeEntry (some boardName) (some playerId) false =>
    if boardName = board ∧ playerId = player then none else stored
  | _ => stored

def storedEntry (board player : String) (calls : List LeaderboardCall) : Option GivenFields :=
  calls.foldl (storeStep board player) none

/-- The board is neither defined anew nor deleted. -/
def KeepsBoard (board : String) : LeaderboardCall → Prop
  | .createBoard (some config) => config.name ≠ some board
  | .deleteBoard boardName _ => boardName ≠ some board
  | _ => True

/-- The entries on the board have fields of 16 bits. -/
def StoresIntegers (board : String) : LeaderboardCall → Prop
  | .setEntry boardName _ given _ => boardName = some board → IntegerFields given
  | _ => True

/-- The server has, for each player of the board, the score of what is stored for the player. -/
structure HoldsScores (server : SortedSets S) (bc : BoardConfig) (board : String)
    (stored : String → Option GivenFields) (c : LeaderboardConn S) : Prop where
  defined : c.boards board = some bc
  integers : ∀ player given, stored player = some given → IntegerFields given
  scores : ∀ player score, server.holds (c.redis board) player score ↔
    ∃ given, stored player = some given ∧ encodeComposite bc given = some score

variable {playerId : String} {bc : BoardConfig} {next : LeaderboardConn S}

section

variable (hserver : server.Lawful) (h : HoldsScores server bc board stored c)
include hserver h

lemma HoldsScores.zadd (hgiven : IntegerFields given)
    (hscore : encodeComposite bc given = some score) (hboard : next.boards board = c.boards board)
    (hredis : next.redis board = server.zadd (c.redis board) playerId score) :
    HoldsScores server bc board (fun player => if playerId = player then some given else stored player)
      next where
  defined := hboard.trans h.defined
  integers := by
    intro player given' hstored
    split_ifs at hstored
    · exact Option.some.inj hstored ▸ hgiven
    · exact h.integers player given' hstored
  scores := by
    intro player score'
    rw [hredis, hserver.zadd, h.scores]
    by_cases hplayer : playerId = player
    · subst hplayer
      simp [hscore, eq_comm]
    · simp [hplayer, ne_comm.mp hplayer]

lemma HoldsScores.zrem (hboard : next.boards board = c.boards board)
    (hredis : next.redis board = server.zrem (c.redis board) playerId) :
    HoldsScores server bc board (fun player => if playerId = player then none else stored player)
      next where
  defined := hboard.trans h.defined
  integers := by
    intro player given' hstored
    split_ifs at hstored
    exact h.integers player given' hstored
  scores := by
    intro player score'
    rw [hredis, hserver.zrem, h.scores]
    by_cases hplayer : playerId = player
    · simp [hplayer]
    · simp [hplayer, ne_comm.mp hplayer]

omit hserver in
lemma HoldsScores.frame
    (hboard : next.boards board = c.boards board) (hredis : next.redis board = c.redis board) :
    HoldsScores server bc board stored next where
  defined := hboard.trans h.defined
  integers := h.integers
  scores player score := by rw [hredis, h.scores]

lemma step_holds {call : LeaderboardCall}
    (hkeeps : KeepsBoard board call) (hintegers : StoresIntegers board call)
    (hstep : c.step server call = some next) :
    HoldsScores server bc board (fun player => storeStep board player (stored player) call) next := by
  cases call with
  | createBoard config =>
    cases Option.some.inj hstep
    match config with
    | none => exact h
    | some ⟨none, defs⟩ => exact h
    | some ⟨some name, defs⟩ =>
      have hne : board ≠ name := fun heq => hkeeps (heq ▸ rfl)
      exact h.frame (Function.update_of_ne hne _ _) rfl
  | deleteBoard boardName failed =>
    cases Option.some.inj hstep
    match boardName, failed with
    | none, _ => exact h
    | some _, true => exact h
    | some name, false =>
      have hne : board ≠ name := fun heq => hkeeps (heq ▸ rfl)
      exact h.frame (Function.update_of_ne hne _ _) (Function.update_of_ne hne _ _)
  | setEntry boardName playerId given failed =>
    match boardName, playerId with
    | none, _ => exact Option.some.inj hstep ▸ h
    | some _, none => exact Option.some.inj hstep ▸ h
    | some name, some player =>
      obtain ⟨result, hset, rfl⟩ := Option.map_eq_some_iff.mp hstep
      obtain ⟨score, hscore, rfl⟩ := Option.map_eq_some_iff.mp hset
      cases failed with
      | true => exact h
      | false =>
        by_cases hname : name = board
        · subst hname
          rw [boardOf, h.defined] at hscore
          simp only [storeStep, true_and]
          exact h.zadd hserver (hintegers rfl) hscore rfl (Function.update_self _ _ _)
        · simp only [storeStep, hname, false_and, if_false]
          exact h.frame rfl (Function.update_of_ne (Ne.symm hname) _ _)
  | removeEntry boardName playerId failed =>
    cases Option.some.inj hstep
    match boardName, playerId, failed with
    | none, _, _ => exact h
    | some _, none, _ => exact h
    | some _, some _, true => exact h
    | some name, some player, false =>
      by_cases hname : name = board
      · subst hname
        simp only [storeStep, true_and]
        exact h.zrem hserver rfl (Function.update_self _ _ _)
      · simp only [storeStep, hname, false_and, if_false]
        exact h.frame rfl (Function.update_of_ne (Ne.symm hname) _ _)

lemma run_holds {calls : List LeaderboardCall} {last : LeaderboardConn S}
    (hcalls : ∀ call ∈ calls, KeepsBoard board call ∧ StoresIntegers board call)
    (hrun : run (step server) c calls = some last) :
    HoldsScores server bc board (fun player => calls.foldl (storeStep board player) (stored player))
      last := by
  induction calls generalizing c stored with
  | nil =>
    cases hrun
    exact h
  | cons call calls ih =>
    obtain ⟨⟨hkeeps, hintegers⟩, hrest⟩ := List.forall_mem_cons.mp hcalls
    obtain ⟨mid, hmid, hlast⟩ := run_cons _ hrun
    exact ih (step_holds hserver h hkeeps hintegers hmid) hrest hlast

end

end Stored

section Listed

/-- The key `p` may stand before `q`. -/
def InOrder (dir : SortDirection) (p q : List ℚ) : Prop :=
  match dir with
  | .desc => q ≤ p
  | .asc => p ≤ q

/-- The tuple of `p` may stand before that of `q`. -/
def Ranked (first : FieldDef) (others : List FieldDef) (stored : String → Option GivenFields)
    (p q : Option String) : Prop :=
  ∃ player player' given given', p = some player ∧ q = some player' ∧
    stored player = some given ∧ stored player' = some given' ∧
    InOrder first.dir (fieldTuple (first :: others) given) (fieldTuple (first :: others) given')

variable {first : FieldDef} {others : List FieldDef}
  (hnames : ((first :: others).map FieldDef.name).Nodup) (hcount : others.length ≤ 2)
  (h : HoldsScores server (materializeBoard (first :: others)) board stored c)
  (hrows : server.IsListing (c.redis board) rows)

include hnames hcount h hrows

lemma topRows_ranked :
    (c.topRows board n rows).Pairwise fun p q => Ranked first others stored (some p.1) (some q.1) := by
  -- rows with scores in some order are those of entries with tuples in that order
  have hentry : ∀ row ∈ rows, ∃ given, stored row.1 = some given ∧ IntegerFields given ∧
      encodeComposite (materializeBoard (first :: others)) given = some row.2 := by
    intro row hrow
    obtain ⟨given, hgiven, hscore⟩ := (h.scores row.1 row.2).mp ((hrows.mem_iff row).mp hrow)
    exact ⟨given, hgiven, h.integers _ _ hgiven, hscore⟩
  have htuple : ∀ p ∈ rows, ∀ q ∈ rows, p.2 ≤ q.2 → ∃ given given', stored p.1 = some given ∧
      stored q.1 = some given' ∧
      fieldTuple (first :: others) given ≤ fieldTuple (first :: others) given' := by
    intro p hp q hq hle
    obtain ⟨given, hgiven, hint, hscore⟩ := hentry p hp
    obtain ⟨given', hgiven', hint', hscore'⟩ := hentry q hq
    exact ⟨given, given', hgiven, hgiven',
      fieldTuple_le (first :: others) hnames (Nat.succ_le_succ hcount) hint hint' hscore hscore' hle⟩
  rw [topRows, h.defined]
  apply List.Pairwise.sublist (List.take_sublist _ _)
  obtain ⟨name, dir⟩ := first
  cases dir with
  | desc =>
    apply List.pairwise_reverse.mpr
    refine hrows.sorted.imp_of_mem ?_
    intro q p hq hp hle
    obtain ⟨given, given', hgiven, hgiven', htuples⟩ := htuple q hq p hp hle
    exact ⟨p.1, q.1, given', given, rfl, rfl, hgiven', hgiven, htuples⟩
  | asc =>
    refine hrows.sorted.imp_of_mem ?_
    intro p q hp hq hle
    obtain ⟨given, given', hgiven, hgiven', htuples⟩ := htuple p hp q hq hle
    exact ⟨p.1, q.1, given, given', rfl, rfl, hgiven, hgiven', htuples⟩

lemma mem_topRows {player : String} (hstored : stored player = some given)
    (hall : rows.length ≤ n.toNat) : ∃ score, (player, score) ∈ c.topRows board n rows := by
  have hsome := encodeComposite_isSome (first :: others) hnames (Nat.succ_le_succ hcount)
    (h.integers _ _ hstored)
  obtain ⟨score, hscore⟩ := Option.isSome_iff_exists.mp hsome
  have hrow : (player, score) ∈ rows :=
    (hrows.mem_iff _).mpr ((h.scores player score).mpr ⟨given, hstored, hscore⟩)
  refine ⟨score, ?_⟩
  rw [topRows, List.take_of_length_le (by split_ifs <;> simpa using hall)]
  split_ifs
  · exact List.mem_reverse.mpr hrow
  · exact hrow

end Listed

lemma topN_entries (hn : 0 < n) :
    (c.topN (some board) n rows none).2.entries.map LeaderboardEntry.playerId =
      (c.topRows board n rows).map fun row => some row.1 := by
  simp only [topN, if_neg (not_le.mpr hn), List.map_map]
  nth_rewrite 2 [← List.zipIdx_map_fst 0 (c.topRows board n rows)]
  rw [List.map_map]
  rfl

/-- A board with one to three fields of different names lists its players in the lexicographic order
of their fields, the greatest tuple first if the primary field is descending and the least one
otherwise. -/
theorem leaderboard_is_lexicographic {S : Type} {server : SortedSets S} {start c : LeaderboardConn S}
    {board : String} {config : LeaderboardConfig} {first : FieldDef}
    {others : List FieldDef} {calls : List LeaderboardCall} {rows : List (String × ℚ)} {n : Int}
    (hserver : server.Lawful) (hname : config.name = some board) (hdefs : config.fieldDefs = first :: others)
    (hnames : ((first :: others).map FieldDef.name).Nodup) (hcount : others.length ≤ 2)
    (hempty : ∀ player score, ¬server.holds (start.redis board) player score)
    (hcalls : ∀ call ∈ calls, KeepsBoard board call ∧ StoresIntegers board call)
    (hrun : run (step server) start (.createBoard (some config) :: calls) = some c)
    (hrows : server.IsListing (c.redis board) rows) (hn : 0 < n) :
    ((c.topN (some board) n rows none).2.entries.map LeaderboardEntry.playerId).Pairwise
        (Ranked first others fun player => storedEntry board player calls) ∧
      ∀ player given, storedEntry board player calls = some given → rows.length ≤ n.toNat →
        some player ∈ (c.topN (some board) n rows none).2.entries.map LeaderboardEntry.playerId := by
  obtain ⟨created, hcreated, hlast⟩ := run_cons _ hrun
  have hstart : HoldsScores server (materializeBoard (first :: others)) board (fun _ => none) created := by
    obtain ⟨name, defs⟩ := config
    cases hname
    cases hdefs
    cases Option.some.inj hcreated
    refine ⟨Function.update_self _ _ _, by simp, ?_⟩
    intro player score
    simp [createBoard, hempty]
  have hheld := run_holds hserver hstart hcalls hlast
  rw [topN_entries hn]
  constructor
  · rw [List.pairwise_map]
    exact topRows_ranked hnames hcount hheld hrows
  · intro player given hstored hall
    obtain ⟨score, hlisted⟩ := mem_topRows hnames hcount hheld hrows hstored hall
    exact List.mem_map.mpr ⟨_, hlisted, rfl⟩

def levelCalls : List LeaderboardCall :=
  [.setEntry (some "lb") (some "p") (asDoubles [(some "score", 10), (some "level", 1)]) false,
    .setEntry (some "lb") (some "q") (asDoubles [(some "level", 3), (some "score", 10)]) false]

lemma levelCalls_integers :
    ∀ call ∈ levelCalls, KeepsBoard "lb" call ∧ StoresIntegers "lb" call := by
  have hgiven : ∀ values : List (Option String × Nat), (∀ field ∈ values, field.2 ≤ 65535) →
      IntegerFields (asDoubles values) := by
    intro values hvalues field hfield
    obtain ⟨value, hvalue, rfl⟩ := List.mem_map.mp hfield
    exact ⟨value.2, hvalues value hvalue, rfl⟩
  refine List.forall_mem_cons.mpr ⟨⟨trivial, ?_⟩, List.forall_mem_singleton.mpr ⟨trivial, ?_⟩⟩
  · exact fun _ => hgiven _ (by decide)
  · exact fun _ => hgiven _ (by decide)

/-- Sorted sets as lists of members with their scores. -/
def listedSets : SortedSets (List (String × ℚ)) where
  empty := []
  zadd set member score := (member, score) :: set.filter (·.1 ≠ member)
  zrem set member := set.filter (·.1 ≠ member)
  holds set player score := (player, score) ∈ set

lemma listedSets_lawful : listedSets.Lawful := by
  constructor <;> simp [listedSets]

theorem leaderboard_is_lexicographic_levels :
    ∃ c, run (step listedSets) ⟨fun _ => none, fun _ => []⟩
        (.createBoard (some ⟨some "lb", descending ["score", "level"]⟩) :: levelCalls) = some c ∧
      (c.topN (some "lb") 10 [("p", 655361), ("q", 655363)] none).2.entries.map
        LeaderboardEntry.playerId = [some "q", some "p"] ∧
      ((c.topN (some "lb") 10 [("p", 655361), ("q", 655363)] none).2.entries.map
        LeaderboardEntry.playerId).Pairwise
          (Ranked ⟨some "score", .desc⟩ [⟨some "level", .desc⟩] fun player =>
            storedEntry "lb" player levelCalls) := by
  have hseen : (run (step listedSets) ⟨fun _ => none, fun _ => []⟩
      (.createBoard (some ⟨some "lb", descending ["score", "level"]⟩) :: levelCalls)).map
        (fun c => (c.redis "lb", (c.topN (some "lb") 10 [("p", 655361), ("q", 655363)] none).2.entries.map
          LeaderboardEntry.playerId)) =
        some ([("q", 655363), ("p", 655361)], [some "q", some "p"]) := by
    decide +kernel
  obtain ⟨c, hrun, hc⟩ := Option.map_eq_some_iff.mp hseen
  obtain ⟨hentries, hlisted⟩ := Prod.mk.inj hc
  have hrows : listedSets.IsListing (c.redis "lb") [("p", 655361), ("q", 655363)] := by
    rw [hentries]
    exact ⟨by decide, fun row => (List.Perm.swap ("q", 655363) ("p", 655361) []).mem_iff,
      by decide +kernel⟩
  refine ⟨c, hrun, hlisted, ?_⟩
  exact (leaderboard_is_lexicographic listedSets_lawful rfl rfl (by decide) (by decide)
    (fun _ _ => List.not_mem_nil) levelCalls_integers hrun hrows (by decide)).1

end ShieldRuntime.Proofs
