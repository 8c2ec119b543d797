import ShieldRuntime.Plugin.Host
import ShieldRuntime.Plugins.AuthJwt
import ShieldRuntime.Proofs.SentinelText

/-!
# The settings of the JWT plugin

The plugin gets its configuration as a text. `json_get_string` and `json_get_int` look for the first
occurrence of the key between quotes and read what stands behind the next colon. That is the member
of the key exactly if no colon stands between an earlier occurrence and the member.
-/

namespace ShieldRuntime.Proofs
open Library Plugin Plugins Transport Lua

def afterBlanks (value : List UInt8) : List UInt8 := value.dropWhile fun b => b = 32 ∨ b = 9

def quotedBytes (s : List UInt8) : List UInt8 := [34] ++ s.flatMap escapeByte ++ [34]

section Values

lemma readString_plain {b : UInt8} (hquote : b ≠ 34) (hslash : b ≠ 92) (rest : List UInt8) :
    readString (b :: rest) = b :: readString rest := by
  cases rest with
  | nil => simp [readString, hquote]
  | cons => rw [readString, if_neg hquote, if_neg hslash]

variable {s j key rest : List UInt8}

lemma escapeByte_printable {b : UInt8} (h : 32 ≤ b) (hquote : b ≠ 34) (hslash : b ≠ 92) :
    escapeByte b = [b] := by
  have hcontrol : ¬b ≤ 31 := fun hle => absurd (UInt8.le_trans h hle) (by decide)
  have hne : ∀ c : UInt8, c ≤ 31 → b ≠ c := fun c hc heq => hcontrol (heq ▸ hc)
  rw [escapeByte, if_neg (hne 8 (by decide)), if_neg (hne 9 (by decide)),
    if_neg (hne 10 (by decide)), if_neg (hne 12 (by decide)), if_neg (hne 13 (by decide)),
    if_neg hquote, if_neg hslash, if_neg hcontrol]

lemma escapeByte_control {b : UInt8} (h : ¬32 ≤ b) :
    ∃ c rest, escapeByte b = 92 :: c :: rest ∧ 32 ≤ c := by
  have hall : ∀ n : Fin 32, (escapeByte (UInt8.ofNat n)).head? = some 92 ∧
      ∃ c ∈ (escapeByte (UInt8.ofNat n)).tail.head?, 32 ≤ c := by decide +kernel
  have hsmall : b.toNat < 32 := by
    rwa [UInt8.le_iff_toNat_le, not_le] at h
  have hb := hall ⟨b.toNat, hsmall⟩
  rw [UInt8.ofNat_toNat] at hb
  obtain ⟨hhead, c, hc, hlow⟩ := hb
  match escapeByte b, hhead, hc with
  | first :: second :: rest, hhead, hc =>
    simp only [List.head?_cons, Option.some.injEq, List.tail_cons, Option.mem_def] at hhead hc
    exact ⟨second, rest, by rw [hhead], hc ▸ hlow⟩

/-- A string is read back exactly if it has no control characters. -/
lemma readString_escaped_iff (rest : List UInt8) :
    readString (s.flatMap escapeByte ++ 34 :: rest) = s ↔ ∀ b ∈ s, 32 ≤ b := by
  induction s with
  | nil => cases rest <;> simp [readString]
  | cons b s ih =>
    rw [List.forall_mem_cons, ← ih, List.flatMap_cons, List.append_assoc]
    by_cases hb : 32 ≤ b
    · have hread : readString (escapeByte b ++ (s.flatMap escapeByte ++ 34 :: rest)) =
          b :: readString (s.flatMap escapeByte ++ 34 :: rest) := by
        by_cases hquote : b = 34
        · subst hquote
          rfl
        by_cases hslash : b = 92
        · subst hslash
          rfl
        rw [escapeByte_printable hb hquote hslash, List.singleton_append,
          readString_plain hquote hslash]
      rw [hread, List.cons_inj_right]
      exact (and_iff_right hb).symm
    · obtain ⟨c, letters, hescape, hc⟩ := escapeByte_control hb
      have hread : readString (92 :: c :: (letters ++ (s.flatMap escapeByte ++ 34 :: rest))) =
          c :: readString (letters ++ (s.flatMap escapeByte ++ 34 :: rest)) := rfl
      rw [hescape, List.cons_append, List.cons_append, hread]
      constructor
      · intro heq
        exact absurd ((List.cons.inj heq).1 ▸ hc) hb
      · exact fun h => absurd h.1 hb

lemma jsonGetString_iff (hvalue : valueAfter? j key = some (afterBlanks (quotedBytes s ++ rest))) :
    jsonGetString j key = s ↔ ∀ b ∈ s, 32 ≤ b := by
  have htext : afterBlanks (quotedBytes s ++ rest) =
      34 :: (s.flatMap escapeByte ++ 34 :: rest) := by
    simp [afterBlanks, quotedBytes]
  rw [jsonGetString, hvalue, htext]
  exact readString_escaped_iff rest

/-- There is no string, or an empty one. -/
def EmptyString (text : List UInt8) : Prop :=
  text.head? = some 34 → ∀ b ∈ text.tail.head?, b = 34

instance decidableEmptyString (text : List UInt8) : Decidable (EmptyString text) :=
  inferInstanceAs (Decidable (text.head? = some 34 → ∀ b ∈ text.tail.head?, b = 34))

lemma jsonGetString_nil_iff :
    jsonGetString j key = [] ↔ ∀ text ∈ valueAfter? j key, EmptyString text := by
  rw [jsonGetString]
  rcases valueAfter? j key with _ | (_ | ⟨b, tail⟩)
  · simp
  · simp [EmptyString]
  · by_cases hb : b = 34
    · subst hb
      rcases tail with _ | ⟨c, _ | ⟨d, tail⟩⟩
      · simp [EmptyString, readString]
      · by_cases hc : c = 34 <;> simp [EmptyString, readString, hc]
      · by_cases hc : c = 34
        · simp [EmptyString, readString, hc]
        · by_cases hslash : c = 92 <;> simp [EmptyString, readString, hc, hslash]
    · simp [EmptyString, hb]

lemma digitByte {ch : Char} (h : ch.isDigit) :
    (UInt8.ofNat ch.toNat).toNat = ch.toNat ∧
      48 ≤ UInt8.ofNat ch.toNat ∧ UInt8.ofNat ch.toNat ≤ 57 := by
  obtain ⟨hlow, hhigh⟩ := Char.isDigit_iff_toNat.mp h
  have hnine : '9'.toNat = 57 := rfl
  have hbyte : (UInt8.ofNat ch.toNat).toNat = ch.toNat := by
    rw [UInt8.toNat_ofNat', Nat.mod_eq_of_lt (by omega)]
  refine ⟨hbyte, ?_⟩
  rw [UInt8.le_iff_toNat_le, UInt8.le_iff_toNat_le, hbyte]
  exact ⟨hlow, hhigh⟩

lemma readDigits?_digits {ds : List Char} (hds : ∀ ch ∈ ds, ch.isDigit) {v : Nat}
    (hsmall : Nat.ofDigitChars 10 ds v < 2 ^ 63) (hrest : ∀ b ∈ rest.head?, ¬(48 ≤ b ∧ b ≤ 57)) :
    readDigits? v (ds.map (fun ch => UInt8.ofNat ch.toNat) ++ rest) =
      some (Nat.ofDigitChars 10 ds v : Nat) := by
  induction ds generalizing v with
  | nil =>
    cases rest with
    | nil => rfl
    | cons b =>
      rw [List.map_nil, List.nil_append, readDigits?, if_neg (hrest b rfl)]
      rfl
  | cons ch ds ih =>
    obtain ⟨hch, hrest'⟩ := List.forall_mem_cons.mp hds
    obtain ⟨hbyte, hdigit⟩ := digitByte hch
    have hzero : '0'.toNat = 48 := rfl
    have hnext : (v : Int) * 10 + ((UInt8.ofNat ch.toNat).toNat - 48 : Nat) =
        ((10 * v + (ch.toNat - '0'.toNat) : Nat) : Int) := by
      rw [hbyte, hzero]
      push_cast
      ring
    rw [Nat.ofDigitChars_cons] at hsmall ⊢
    -- the number only grows with further digits
    have hgrows := Nat.le_mul_of_pos_left (10 * v + (ch.toNat - '0'.toNat))
      (Nat.pow_pos (show 0 < 10 by norm_num) : 0 < 10 ^ ds.length)
    have hbound : 10 * v + (ch.toNat - '0'.toNat) < 2 ^ 63 := by
      rw [Nat.ofDigitChars_eq_ofDigitChars_zero] at hsmall
      omega
    rw [List.map_cons, List.cons_append, readDigits?, if_pos hdigit]
    simp only [hnext]
    rw [if_pos (by exact_mod_cast hbound), ih hrest' hsmall]

lemma readDigits?_toString {n : Nat} (hn : n < 2 ^ 63)
    (hrest : ∀ b ∈ rest.head?, ¬(48 ≤ b ∧ b ≤ 57)) :
    readDigits? 0 (bytesOf (toString n) ++ rest) = some (n : Int) := by
  have hdigits : ∀ ch ∈ Nat.toDigits 10 n, ch.isDigit := fun ch hch =>
    Nat.isDigit_of_mem_toDigits (by decide) (by decide) hch
  have hvalue : Nat.ofDigitChars 10 (Nat.toDigits 10 n) 0 = n := Nat.ofDigitChars_ten_toDigits
  have hread := readDigits?_digits hdigits (v := 0) (by rwa [hvalue]) hrest
  rw [hvalue] at hread
  rwa [bytesOf, Nat.toString_eq_ofList_toDigits, String.toList_ofList]

lemma toString_digits (n : Nat) : ∃ b rest, bytesOf (toString n) = b :: rest ∧ 48 ≤ b ∧ b ≤ 57 := by
  have hpos : 0 < (Nat.toDigits 10 n).length := Nat.length_toDigits_pos
  obtain ⟨ch, ds, hds⟩ := List.exists_cons_of_length_pos hpos
  have hch : ch.isDigit := Nat.isDigit_of_mem_toDigits (by decide) (by decide)
    (hds ▸ List.mem_cons_self : ch ∈ Nat.toDigits 10 n)
  refine ⟨UInt8.ofNat ch.toNat, ds.map fun ch => UInt8.ofNat ch.toNat, ?_, (digitByte hch).2⟩
  rw [bytesOf, Nat.toString_eq_ofList_toDigits, String.toList_ofList, hds, List.map_cons]

lemma toString_eq (n : Int) :
    toString n = if 0 ≤ n then toString n.toNat else "-" ++ toString (-n).toNat :=
  Int.repr_eq_if

lemma integerText_ne_nil (n : Int) : bytesOf (toString n) ≠ [] := by
  rw [toString_eq]
  split_ifs
  · obtain ⟨b, tail, hdigits, -⟩ := toString_digits n.toNat
    rw [hdigits]
    exact List.cons_ne_nil b tail
  · simp [bytesOf]

lemma afterBlanks_integer (n : Int) (rest : List UInt8) :
    afterBlanks (bytesOf (toString n) ++ rest) = bytesOf (toString n) ++ rest := by
  rw [toString_eq, afterBlanks]
  split_ifs
  · obtain ⟨b, tail, hdigits, hlow, -⟩ := toString_digits n.toNat
    have hne : ∀ c : UInt8, c < 48 → b ≠ c := fun c hc heq =>
      absurd (heq ▸ hlow) (UInt8.not_le.mpr hc)
    rw [hdigits, List.cons_append,
      List.dropWhile_cons_of_neg (by simp [hne 32 (by decide), hne 9 (by decide)])]
  · rw [bytesOf, String.toList_append, List.map_append, List.append_assoc]
    exact List.dropWhile_cons_of_neg (by decide)

lemma jsonGetInt_eq {n : Int} (hn : -2 ^ 63 < n ∧ n < 2 ^ 63)
    (hrest : ∀ b ∈ rest.head?, ¬(48 ≤ b ∧ b ≤ 57))
    (hvalue : valueAfter? j key = some (afterBlanks (bytesOf (toString n) ++ rest))) :
    jsonGetInt j key = some n := by
  rw [afterBlanks_integer] at hvalue
  by_cases hsign : 0 ≤ n
  · obtain ⟨b, tail, hdigits, hlow, -⟩ := toString_digits n.toNat
    have hread := readDigits?_toString (show n.toNat < 2 ^ 63 by omega) hrest
    rw [toString_eq, if_pos hsign, hdigits, List.cons_append] at hvalue
    rw [hdigits, List.cons_append, Int.toNat_of_nonneg hsign] at hread
    unfold jsonGetInt
    rw [hvalue]
    split
    case h_1 heq =>
      injection heq with heq
      injection heq with hb
      exact absurd (hb ▸ hlow) (by decide)
    case h_2 heq =>
      cases heq
      exact hread
    case h_3 heq => cases heq
  · have hread := readDigits?_toString (show (-n).toNat < 2 ^ 63 by omega) hrest
    have htext : bytesOf (toString n) = 45 :: bytesOf (toString (-n).toNat) := by
      rw [toString_eq, if_neg hsign, bytesOf, String.toList_append, List.map_append]
      rfl
    rw [htext, List.cons_append] at hvalue
    rw [jsonGetInt, hvalue]
    simp only [hread, Option.map_some, Option.some.injEq]
    omega

/-- There is no number, or the number zero. -/
def ZeroNumber (text : List UInt8) : Prop :=
  ∀ b ∈ (if text.head? = some 45 then text.tail else text).takeWhile
    (fun b => 48 ≤ b ∧ b ≤ 57), b = 48

instance decidableZeroNumber (text : List UInt8) : Decidable (ZeroNumber text) :=
  List.decidableBAll (fun b : UInt8 => b = 48) _

lemma readDigits?_zero_iff {v : Int} (hv : 0 ≤ v) (text : List UInt8) :
    readDigits? v text = some 0 ↔
      v = 0 ∧ ∀ b ∈ text.takeWhile (fun b => 48 ≤ b ∧ b ≤ 57), b = 48 := by
  induction text generalizing v with
  | nil => simp [readDigits?]
  | cons b rest ih =>
    rw [readDigits?]
    by_cases hdigit : 48 ≤ b ∧ b ≤ 57
    · rw [if_pos hdigit, List.takeWhile_cons_of_pos (by simpa using hdigit), List.forall_mem_cons]
      have hzero : b = 48 ↔ b.toNat - 48 = 0 := by
        have hlow := UInt8.le_iff_toNat_le.mp hdigit.1
        rw [← UInt8.toNat_inj]
        simp only [UInt8.reduceToNat] at hlow ⊢
        omega
      extract_lets next
      split_ifs with hsmall
      · rw [ih (by omega), hzero, ← and_assoc]
        refine and_congr_left fun _ => ?_
        omega
      · refine ⟨nofun, fun h => ?_⟩
        rw [hzero] at h
        omega
    · rw [if_neg hdigit, List.takeWhile_cons_of_neg (by simpa using hdigit)]
      simp

lemma jsonGetInt_zero_iff :
    jsonGetInt j key = some 0 ↔ ∀ text ∈ valueAfter? j key, ZeroNumber text := by
  unfold jsonGetInt
  split
  · rename_i heq
    have hneg : ∀ o : Option Int, o.map (- ·) = some 0 ↔ o = some 0 := by
      intro o
      cases o <;> simp
    simp [heq, hneg, readDigits?_zero_iff, ZeroNumber]
  · rename_i text hhead heq
    have hplain : ¬text.head? = some 45 := by
      intro hminus
      obtain ⟨tail, htail⟩ := List.head?_eq_some_iff.mp hminus
      exact hhead tail htail
    simp [heq, hplain, readDigits?_zero_iff, ZeroNumber]
  · rename_i heq
    simp [heq]

end Values

variable {n low default high : Int} {text : List UInt8} {less same : Json → Json → Bool}
  {value : Json} {name : String} {fields : List (String × Json)}

section Accepted

lemma firstOf_eq_none {checks : List Plugin.Checked} (h : firstOf checks = .ok none) :
    ∀ check ∈ checks, check = .ok none := by
  induction checks with
  | nil => simp
  | cons check checks ih =>
    cases check with
    | error => cases h
    | ok found =>
      cases found with
      | some => cases h
      | none => exact List.forall_mem_cons.mpr ⟨rfl, ih h⟩

variable {schema sub : Json} {path : String}

lemma validateMembers_eq_none {members : List (String × Json)}
    (h : validateMembers less same schema path members = .ok none) {key : String} {item : Json}
    (hmem : (key, item) ∈ members) (hsub : propertySchema? schema key = some sub) :
    validateConfig less same sub (joinPath path key) item = .ok none := by
  induction members with
  | nil => cases hmem
  | cons member members ih =>
    obtain ⟨name, value⟩ := member
    have hchecks := firstOf_eq_none h
    rcases List.mem_cons.mp hmem with heq | hmem
    · cases heq
      have hcheck := hchecks _ List.mem_cons_self
      rwa [hsub] at hcheck
    · exact ih (hchecks _ (by simp)) hmem

def integerOf? : Json → Option Int
  | .integer n => some n
  | .unsigned n => some n
  | _ => none

/-- The order agrees with that of the integers. -/
def ComparesIntegers (less : Json → Json → Bool) : Prop :=
  ∀ a b m n, integerOf? a = some m → integerOf? b = some n → less a b = decide (m < n)

lemma checkType_of_valid {want : String} (h : validateConfig less same schema path value = .ok none)
    (htype : schema.field? "type" = some (.string want)) : checkType want value = true := by
  have hchecked : typeChecked schema path value = .ok none := by
    cases value <;> exact firstOf_eq_none h _ List.mem_cons_self
  rw [typeChecked, htype] at hchecked
  by_contra hwrong
  simp only [Json.getString, Bind.bind, Except.bind, if_neg hwrong] at hchecked
  split_ifs at hchecked <;> cases hchecked

lemma bounds_of_valid (hless : ComparesIntegers less)
    (h : validateConfig less same schema path value = .ok none) (hvalue : integerOf? value = some n)
    (hmin : schema.field? "minimum" = some (.integer low))
    (hmax : schema.field? "maximum" = some (.integer high)) : low ≤ n ∧ n ≤ high := by
  have hnumber : validateNumber less same schema path value = .ok none := by
    cases value <;> first | exact h | cases hvalue
  have hchecks := firstOf_eq_none hnumber
  have hlow := hchecks (minimumChecked less schema path value) (by simp)
  have hhigh := hchecks (maximumChecked less schema path value) (by simp)
  rw [minimumChecked, boundChecked, hmin] at hlow
  rw [maximumChecked, boundChecked, hmax] at hhigh
  have hbelow := hless value (.integer low) n low hvalue rfl
  have habove := hless (.integer high) value high n rfl hvalue
  simp only [Plugin.isNumber, if_true, hbelow, habove, decide_eq_true_eq, Except.ok.injEq,
    ite_eq_right_iff, reduceCtorEq, imp_false, not_lt] at hlow hhigh
  exact ⟨hlow, hhigh⟩

variable (h : validateConfig less same authConfigSchema "" (.object fields) = .ok none)

include h

lemma member_valid (hmem : (name, value) ∈ fields)
    (hsub : propertySchema? authConfigSchema name = some sub) :
    validateConfig less same sub (joinPath "" name) value = .ok none :=
  validateMembers_eq_none (firstOf_eq_none h _ (by simp)) hmem hsub

lemma accepted_string (hname : name ∈ ["secret", "issuer", "audience"])
    (hmem : (name, value) ∈ fields) : ∃ s, value = .string s := by
  have hsub : ∃ sub, propertySchema? authConfigSchema name = some sub ∧
      sub.field? "type" = some (.string "string") := by
    simp only [List.mem_cons, List.not_mem_nil, or_false] at hname
    rcases hname with rfl | rfl | rfl <;> exact ⟨_, rfl, rfl⟩
  obtain ⟨sub, hsub, htype⟩ := hsub
  have hcheck := checkType_of_valid (member_valid h hmem hsub) htype
  cases value with
  | string s => exact ⟨s, rfl⟩
  | _ => cases hcheck

lemma accepted_integer (hless : ComparesIntegers less)
    (hsub : propertySchema? authConfigSchema name = some (.object [("type", .string "integer"),
      ("default", .integer default), ("minimum", .integer low), ("maximum", .integer high)]))
    (hmem : (name, value) ∈ fields) : ∃ n, integerOf? value = some n ∧ low ≤ n ∧ n ≤ high := by
  have hvalid := member_valid h hmem hsub
  have hcheck := checkType_of_valid hvalid rfl
  cases value with
  | integer n | unsigned n => exact ⟨n, rfl, bounds_of_valid hless hvalid rfl rfl rfl⟩
  | _ => cases hcheck

end Accepted

section Place

/-- The name of a setting between quotes, as the search looks for it. -/
def nameText (name : String) : List UInt8 := 34 :: bytesOf name ++ [34]

/-- In the text no colon stands behind the name between quotes. -/
def NoColonBehind (name : String) (text : List UInt8) : Prop :=
  ∀ rest ∈ afterFirst (nameText name) text, 58 ∉ rest

instance decidableNoColonBehind (name : String) (text : List UInt8) :
    Decidable (NoColonBehind name text) :=
  inferInstanceAs (Decidable (∀ rest ∈ afterFirst (nameText name) text, 58 ∉ rest))

/-- The text of an object up to the key of a member. -/
def frontOf (dump : JsonDump) (fields : List (String × Json)) (name : String) : List UInt8 :=
  123 :: ((fields.insertionSort fun a b => a.1 ≤ b.1).takeWhile fun m => m.1 ≠ name).flatMap
    fun m => (dumpMember (m.1, dump m.2)).toOption.getD [] ++ [44]

/-- The text of an object behind the colon of a member. -/
def behindKey (dump : JsonDump) (fields : List (String × Json)) (name : String)
    (text : List UInt8) : List UInt8 :=
  text.drop ((frontOf dump fields name ++ nameText name).length + 1)

def textNames : List String := ["secret", "issuer", "audience"]

def numberNames : List String := ["token_ttl_seconds", "leeway_seconds"]

def settingNames : List String := textNames ++ numberNames

/-- A name without the bytes that structure the text. -/
structure SettingName (name : String) : Prop where
  plain : PlainWord (bytesOf name)
  nonempty : bytesOf name ≠ []
  marks : ∀ b ∈ ([34, 44, 58, 123] : List UInt8), b ∉ bytesOf name

lemma settingName_of_mem (hname : name ∈ settingNames) : SettingName name := by
  have hnames : ∀ name ∈ settingNames, PlainWord (bytesOf name) ∧ bytesOf name ≠ [] ∧
      ∀ b ∈ ([34, 44, 58, 123] : List UInt8), b ∉ bytesOf name := by decide +kernel
  obtain ⟨hplain, hnonempty, hmarks⟩ := hnames name hname
  exact ⟨hplain, hnonempty, hmarks⟩

variable {front behind : List UInt8}

lemma afterFirst_own (hname : SettingName name) {mark : UInt8} (hmark : mark ∈ ([44, 123] : List UInt8))
    (h : afterFirst (nameText name) (front ++ [mark]) = none) :
    afterFirst (nameText name) (front ++ [mark] ++ nameText name ++ behind) = some behind := by
  have hquote : (34 : UInt8) ∉ bytesOf name := hname.marks 34 (by decide)
  refine afterFirst_delimited hquote (Bool.eq_false_iff.mpr fun hfound => ?_)
  rw [scan_found_iff hquote, List.infix_concat_iff] at hfound
  rcases hfound with hsuffix | hinfix
  · -- the name would end in the mark in front of its own occurrence
    have hends : 34 :: bytesOf name <:+ front ++ [mark] := by
      rcases List.suffix_concat_iff.mp hsuffix with hnil | ⟨t, ht, hsuffix⟩
      · simp at hnil
      · rwa [(List.append_inj' ht rfl).1]
    have hmem : mark ∈ bytesOf name := by
      rcases List.suffix_concat_iff.mp hends with hnil | ⟨t, ht, -⟩
      · cases hnil
      · have hlast : mark ∈ 34 :: bytesOf name := ht ▸ List.mem_append_right _ List.mem_cons_self
        rcases List.mem_cons.mp hlast with rfl | hmem
        · exact absurd hmark (by decide)
        · exact hmem
    have hmarks : mark ∈ ([34, 44, 58, 123] : List UInt8) := by
      have hsub : ([44, 123] : List UInt8) ⊆ [34, 44, 58, 123] := by decide
      exact hsub hmark
    exact hname.marks mark hmarks hmem
  · exact not_infix_of_afterFirst h hinfix

/-- The search ends at the member itself exactly if no colon stands before it and behind an earlier
occurrence of its name. -/
lemma valueAfter?_own_iff (hname : SettingName name) (hfront : ∀ b ∈ front.getLast?, b = 44 ∨ b = 123)
    (hne : front ≠ []) (hblank : afterBlanks behind = behind) :
    valueAfter? (front ++ nameText name ++ 58 :: behind) (bytesOf name) = some behind ↔
      NoColonBehind name front := by
  obtain ⟨init, mark, rfl⟩ := (List.eq_nil_or_concat' front).resolve_left hne
  have hmark : mark ∈ ([44, 123] : List UInt8) := by simpa using hfront mark (by simp)
  have hvalue : valueAfter? (init ++ [mark] ++ nameText name ++ 58 :: behind) (bytesOf name) =
      ((afterFirst (nameText name) (init ++ [mark] ++ nameText name ++ 58 :: behind)).bind
        (afterFirst [58])).map afterBlanks := rfl
  rw [hvalue, NoColonBehind]
  cases hfirst : afterFirst (nameText name) (init ++ [mark]) with
  | none =>
    have hcolon : afterFirst [58] ([] ++ 58 :: behind) = some behind :=
      afterFirst_symbol List.not_mem_nil
    rw [List.nil_append] at hcolon
    rw [afterFirst_own hname hmark hfirst, Option.bind_some, hcolon, Option.map_some, hblank]
    simp
  | some rest =>
    have hneedle : nameText name ≠ [] := by simp [nameText]
    have hlonger := afterFirst_append_left hfirst hneedle (nameText name ++ 58 :: behind)
    rw [← List.append_assoc] at hlonger
    rw [hlonger, Option.bind_some]
    simp only [Option.mem_def, Option.some.injEq, forall_eq']
    by_cases hcolon : 58 ∈ rest
    · obtain ⟨before, after, rfl, hbefore⟩ := List.eq_append_cons_of_mem hcolon
      have hread : afterFirst [58] (before ++ 58 :: after ++ (nameText name ++ 58 :: behind)) =
          some (after ++ (nameText name ++ 58 :: behind)) := by
        rw [List.append_assoc, List.cons_append, afterFirst_symbol hbefore]
      -- blanks are skipped up to the quote of the name at most
      have hlong : behind.length < (afterBlanks (after ++ (nameText name ++ 58 :: behind))).length := by
        have hsuffix : nameText name ++ 58 :: behind <:+
            afterBlanks (after ++ (nameText name ++ 58 :: behind)) := by
          rw [afterBlanks, nameText, List.cons_append, List.cons_append]
          rw [List.dropWhile_append]
          split
          · exact List.suffix_rfl
          · exact List.suffix_append _ _
        have hle := hsuffix.length_le
        simp only [List.length_append, List.length_cons] at hle
        omega
      rw [hread, Option.map_some]
      refine ⟨fun heq => absurd (congrArg List.length (Option.some.inj heq)) (by omega), fun h => ?_⟩
      exact absurd hcolon h
    · have hname58 : (58 : UInt8) ∉ rest ++ nameText name := by
        have hmarks : (58 : UInt8) ∉ bytesOf name := hname.marks 58 (by decide)
        simp [nameText, hcolon, hmarks]
      rw [← List.append_assoc, afterFirst_symbol hname58, Option.map_some, hblank]
      simp [hcolon]

end Place

section Settings

def stringMember (fields : List (String × Json)) (name : String) : List UInt8 :=
  match (Json.object fields).field? name with
  | some (.string s) => bytesOf s
  | _ => []

def integerMember (fields : List (String × Json)) (name : String) (default : Int) : Int :=
  (((Json.object fields).field? name).bind integerOf?).getD default

/-- The members of the object, or the defaults for those that it does not have. -/
def settingsOf (fields : List (String × Json)) : AuthConfig where
  secret := stringMember fields "secret"
  issuer := stringMember fields "issuer"
  audience := stringMember fields "audience"
  tokenTtlSeconds := integerMember fields "token_ttl_seconds" 3600
  leewaySeconds := integerMember fields "leeway_seconds" 60

/-- The settings are those of the object: each that is present is taken from its own member, and no
number that is absent is taken from another. -/
structure ReadAsWritten (dump : JsonDump) (fields : List (String × Json)) (text : List UInt8) :
    Prop where
  values : parseConfig (some text) = some (settingsOf fields)
  own : ∀ name ∈ settingNames, name ∈ fields.map Prod.fst →
    valueAfter? text (bytesOf name) = some (behindKey dump fields name text)
  absent : ∀ name ∈ numberNames, name ∉ fields.map Prod.fst →
    jsonGetInt text (bytesOf name) = some 0

/-- Where the search for the settings goes right: no colon stands between an earlier occurrence of a
name and its member; behind the colon after the name of an absent setting there is nothing to read;
the strings have no control characters, and the leeway is not zero. -/
structure SettingsFound (dump : JsonDump) (fields : List (String × Json)) (text : List UInt8) :
    Prop where
  own : ∀ name ∈ settingNames, name ∈ fields.map Prod.fst →
    NoColonBehind name (frontOf dump fields name)
  noString : ∀ name ∈ textNames, name ∉ fields.map Prod.fst →
    ∀ rest ∈ valueAfter? text (bytesOf name), EmptyString rest
  noNumber : ∀ name ∈ numberNames, name ∉ fields.map Prod.fst →
    ∀ rest ∈ valueAfter? text (bytesOf name), ZeroNumber rest
  printable : ∀ name ∈ textNames, ∀ b ∈ stringMember fields name, 32 ≤ b
  leeway : integerMember fields "leeway_seconds" 60 ≠ 0

lemma mem_of_field? (h : (Json.object fields).field? name = some value) :
    (name, value) ∈ fields := by
  rw [Json.field?, List.lookup_eq_some_iff] at h
  obtain ⟨before, after, hfields, -⟩ := h
  have hsplit : fields = before ++ (name, value) :: after := hfields
  simp [hsplit]

lemma notMem_of_field? (h : (Json.object fields).field? name = none) :
    name ∉ fields.map Prod.fst := by
  rw [Json.field?, List.lookup_eq_none_iff] at h
  intro hmem
  obtain ⟨field, hfield, rfl⟩ := List.mem_map.mp hmem
  exact absurd (h field hfield) (by simp)

lemma parseConfig_eq_some {cfg : AuthConfig} : parseConfig (some text) = some cfg ↔
    jsonGetString text (bytesOf "secret") = cfg.secret ∧
    jsonGetString text (bytesOf "issuer") = cfg.issuer ∧
    jsonGetString text (bytesOf "audience") = cfg.audience ∧
    getIntOr text (bytesOf "token_ttl_seconds") 3600 = some cfg.tokenTtlSeconds ∧
    getIntOr text (bytesOf "leeway_seconds") 60 = some cfg.leewaySeconds := by
  obtain ⟨secret, issuer, audience, ttl, leeway⟩ := cfg
  rw [parseConfig]
  cases getIntOr text (bytesOf "token_ttl_seconds") 3600 <;>
    cases getIntOr text (bytesOf "leeway_seconds") 60 <;> simp

section Member

variable {dump : JsonDump} {floatText : UInt64 → List UInt8}

lemma eq_map_of_mapM {α : Type} {f : α → Except String (List UInt8)} {xs : List α}
    {texts : List (List UInt8)} (h : xs.mapM f = .ok texts) :
    texts = xs.map fun x => (f x).toOption.getD [] := by
  induction xs generalizing texts with
  | nil =>
    cases h
    rfl
  | cons x xs ih =>
    obtain ⟨text, rest, hx, hxs, rfl⟩ := ok_of_mapM_cons h
    rw [ih hxs, List.map_cons, hx]
    rfl

lemma frontOf_last (dump : JsonDump) (fields : List (String × Json)) (name : String) :
    ∀ b ∈ (frontOf dump fields name).getLast?, b = 44 ∨ b = 123 := by
  rw [frontOf]
  generalize (fields.insertionSort fun a b => a.1 ≤ b.1).takeWhile _ = members
  rcases List.eq_nil_or_concat' members with rfl | ⟨init, last, rfl⟩
  · simp
  · rw [List.flatMap_append, ← List.cons_append, List.flatMap_singleton, ← List.append_assoc,
      List.getLast?_concat]
    rintro b ⟨⟩
    exact .inl rfl

/-- The text around a member. -/
lemma text_member (hdoc : dump.Documented floatText) (hkeys : (fields.map Prod.fst).Nodup)
    (hmem : (name, value) ∈ fields) (hdump : dump (.object fields) = .ok text) :
    ∃ valueText rest, dump value = .ok valueText ∧ (∀ b ∈ rest.head?, b = 44 ∨ b = 125) ∧
      text = frontOf dump fields name ++ quoted name ++ 58 :: (valueText ++ rest) := by
  obtain ⟨texts, htexts, rfl⟩ := dump_object_eq_ok hdoc hdump
  have hperm := List.perm_insertionSort (fun a b : String × Json => a.1 ≤ b.1) fields
  obtain ⟨before, after, hsplit⟩ := List.append_of_mem (hperm.mem_iff.mpr hmem)
  have hdistinct := (hperm.map Prod.fst).nodup_iff.mpr hkeys
  rw [hsplit, List.map_append] at hdistinct
  have hbefore : ∀ m ∈ before, decide (m.1 ≠ name) = true := fun m hm => decide_eq_true
    ((List.nodup_append.mp hdistinct).2.2 m.1 (List.mem_map_of_mem hm) name List.mem_cons_self)
  rw [hsplit] at htexts
  obtain ⟨front, memberText, back, hfront, hmember, rfl⟩ := ok_of_mapM_append htexts
  obtain ⟨valueText, hvalue, rfl⟩ := dumpMember_eq_ok hmember
  obtain ⟨rest, hrest, hhead⟩ := joinTexts_split front (quoted name ++ [58] ++ valueText) back
  refine ⟨valueText, rest ++ [125], hvalue, ?_, ?_⟩
  · cases rest with
    | nil => simp
    | cons => exact fun c hc => .inl (hhead c hc)
  · rw [hrest, frontOf, hsplit, List.takeWhile_append_of_pos hbefore,
      List.takeWhile_cons_of_neg (by simp), eq_map_of_mapM hfront]
    simp [List.flatMap_map]

lemma quoted_name (hname : name ∈ settingNames) : quoted name = nameText name := by
  rw [quoted, (escaped_eq_word_iff (settingName_of_mem hname).plain _).mpr rfl]
  rfl

/-- What stands behind the key of a setting, and when it is what the search finds. -/
lemma own_iff (hdoc : dump.Documented floatText) (hkeys : (fields.map Prod.fst).Nodup)
    (hdump : dump (.object fields) = .ok text) (hname : name ∈ settingNames)
    (hmem : (name, value) ∈ fields) :
    ∃ valueText rest, dump value = .ok valueText ∧ (∀ b ∈ rest.head?, b = 44 ∨ b = 125) ∧
      behindKey dump fields name text = valueText ++ rest ∧
      (afterBlanks (valueText ++ rest) = valueText ++ rest →
        (valueAfter? text (bytesOf name) = some (valueText ++ rest) ↔
          NoColonBehind name (frontOf dump fields name))) := by
  obtain ⟨valueText, rest, hvalue, hhead, htext⟩ := text_member hdoc hkeys hmem hdump
  rw [quoted_name hname] at htext
  refine ⟨valueText, rest, hvalue, hhead, ?_, fun hblank => ?_⟩
  · rw [behindKey, htext, List.append_cons]
    exact List.drop_left' (by rw [List.length_append]; rfl)
  · rw [htext]
    exact valueAfter?_own_iff (settingName_of_mem hname) (frontOf_last dump fields name)
      (List.cons_ne_nil _ _) hblank

variable (hdoc : dump.Documented floatText) (hkeys : (fields.map Prod.fst).Nodup)
  (hdump : dump (.object fields) = .ok text)
  (hvalid : validateConfig less same authConfigSchema "" (.object fields) = .ok none)

include hdoc hkeys hdump hvalid

lemma text_setting_iff (hname : name ∈ textNames) :
    (jsonGetString text (bytesOf name) = stringMember fields name ∧
      (name ∈ fields.map Prod.fst →
        valueAfter? text (bytesOf name) = some (behindKey dump fields name text))) ↔
    (name ∈ fields.map Prod.fst → NoColonBehind name (frontOf dump fields name)) ∧
      (name ∉ fields.map Prod.fst → ∀ rest ∈ valueAfter? text (bytesOf name), EmptyString rest) ∧
      ∀ b ∈ stringMember fields name, 32 ≤ b := by
  have hsetting : name ∈ settingNames := List.mem_append_left _ hname
  rw [stringMember]
  cases hfield : (Json.object fields).field? name with
  | none => simp [notMem_of_field? hfield, jsonGetString_nil_iff]
  | some value =>
    have hmem := mem_of_field? hfield
    have hkey : name ∈ fields.map Prod.fst := List.mem_map_of_mem hmem
    obtain ⟨s, rfl⟩ := accepted_string hvalid hname hmem
    obtain ⟨valueText, rest, hvalue, -, hbehind, hown⟩ := own_iff hdoc hkeys hdump hsetting hmem
    obtain rfl := dumpString_eq_ok ((hdoc.string s).symm.trans hvalue)
    have hblank : afterBlanks (quoted s ++ rest) = quoted s ++ rest := by
      simp [afterBlanks, quoted]
    simp only [hkey, hbehind, hown hblank, true_imp_iff, not_true_eq_false, false_imp_iff, true_and]
    rw [and_comm]
    refine and_congr_right fun hfree => ?_
    have hfound := (hown hblank).mpr hfree
    rw [← hblank] at hfound
    exact jsonGetString_iff hfound

lemma number_setting_iff (hless : ComparesIntegers less) (hname : name ∈ numberNames)
    (hsub : propertySchema? authConfigSchema name = some (.object [("type", .string "integer"),
      ("default", .integer default), ("minimum", .integer low), ("maximum", .integer high)]))
    (hlow : 0 ≤ low) (hhigh : high < 2 ^ 31) (hdefault : default ≠ 0) :
    (getIntOr text (bytesOf name) default = some (integerMember fields name default) ∧
      (name ∈ fields.map Prod.fst →
        valueAfter? text (bytesOf name) = some (behindKey dump fields name text)) ∧
      (name ∉ fields.map Prod.fst → jsonGetInt text (bytesOf name) = some 0)) ↔
    (name ∈ fields.map Prod.fst → NoColonBehind name (frontOf dump fields name)) ∧
      (name ∉ fields.map Prod.fst → ∀ rest ∈ valueAfter? text (bytesOf name), ZeroNumber rest) ∧
      integerMember fields name default ≠ 0 := by
  have hsetting : name ∈ settingNames := List.mem_append_right _ hname
  rw [integerMember]
  cases hfield : (Json.object fields).field? name with
  | none =>
    have hkey := notMem_of_field? hfield
    simp only [hkey, false_imp_iff, not_false_eq_true, true_imp_iff, ← jsonGetInt_zero_iff,
      Option.bind_none, Option.getD_none, true_and, hdefault, ne_eq, and_true]
    refine and_iff_right_of_imp fun hzero => ?_
    rw [getIntOr, hzero]
    rfl
  | some value =>
    have hmem := mem_of_field? hfield
    have hkey : name ∈ fields.map Prod.fst := List.mem_map_of_mem hmem
    obtain ⟨n, hn, hmin, hmax⟩ := accepted_integer hvalid hless hsub hmem
    obtain ⟨valueText, rest, hvalue, hhead, hbehind, hown⟩ := own_iff hdoc hkeys hdump hsetting hmem
    have htext : valueText = bytesOf (toString n) := by
      cases value with
      | integer =>
        cases hn
        exact Except.ok.inj (hvalue.symm.trans (hdoc.integer _))
      | unsigned =>
        cases hn
        exact Except.ok.inj (hvalue.symm.trans (hdoc.unsigned _))
      | _ => cases hn
    subst htext
    have hblank := afterBlanks_integer n rest
    have hdigit : ∀ b ∈ rest.head?, ¬(48 ≤ b ∧ b ≤ 57) := by
      intro b hb
      rcases hhead b hb with rfl | rfl <;> decide
    have hint : toInt32 n = n := by
      rw [toInt32]
      omega
    simp only [hkey, hbehind, hown hblank, true_imp_iff, not_true_eq_false, false_imp_iff, and_true,
      true_and, Option.bind_some, hn, Option.getD_some]
    rw [and_comm]
    refine and_congr_right fun hfree => ?_
    have hread := jsonGetInt_eq ⟨by omega, by omega⟩ hdigit
      (((hown hblank).mpr hfree).trans (congrArg some hblank.symm))
    rw [getIntOr, hread, Option.map_some]
    by_cases hzero : n = 0
    · simpa [hzero] using hdefault
    · simp [hzero, hint]

omit hdoc hkeys hdump in
lemma ttl_ne_zero (hless : ComparesIntegers less) :
    integerMember fields "token_ttl_seconds" 3600 ≠ 0 := by
  rw [integerMember]
  cases hfield : (Json.object fields).field? "token_ttl_seconds" with
  | none => decide
  | some =>
    obtain ⟨n, hn, hmin, -⟩ := accepted_integer hvalid hless rfl (mem_of_field? hfield)
    rw [Option.bind_some, hn, Option.getD_some]
    omega

end Member

end Settings

/-- The plugin reads an accepted object as it is written if and only if the search for each setting
goes right. -/
theorem settings_are_members (less same : Json → Json → Bool) {dump : JsonDump}
    {floatText : UInt64 → List UInt8} {fields : List (String × Json)} {text : List UInt8}
    (hless : ComparesIntegers less) (hdoc : dump.Documented floatText)
    (hkeys : (fields.map Prod.fst).Nodup)
    (hvalid : validateConfig less same authConfigSchema "" (.object fields) = .ok none)
    (hdump : dump (.object fields) = .ok text) :
    ReadAsWritten dump fields text ↔ SettingsFound dump fields text := by
  have htext := fun name (hname : name ∈ textNames) =>
    text_setting_iff hdoc hkeys hdump hvalid hname
  have httl := number_setting_iff hdoc hkeys hdump hvalid hless
    (show "token_ttl_seconds" ∈ numberNames by decide) rfl (by decide) (by decide) (by decide)
  have hleeway := number_setting_iff hdoc hkeys hdump hvalid hless
    (show "leeway_seconds" ∈ numberNames by decide) rfl (by decide) (by decide) (by decide)
  have hone := ttl_ne_zero hvalid hless
  have hnames : ∀ {p : String → Prop}, (∀ name ∈ settingNames, p name) ↔
      (∀ name ∈ textNames, p name) ∧ ∀ name ∈ numberNames, p name := List.forall_mem_append
  have hnumbers : ∀ {p : String → Prop}, (∀ name ∈ numberNames, p name) ↔
      p "token_ttl_seconds" ∧ p "leeway_seconds" := by
    intro p
    simp [numberNames]
  constructor
  · rintro ⟨hvalues, hown, habsent⟩
    obtain ⟨hsecret, hissuer, haudience, hreadttl, hreadleeway⟩ := parseConfig_eq_some.mp hvalues
    have hread : ∀ name ∈ textNames,
        jsonGetString text (bytesOf name) = stringMember fields name := by
      simpa [textNames] using ⟨hsecret, hissuer, haudience⟩
    obtain ⟨howntext, hownnumber⟩ := hnames.mp hown
    obtain ⟨hownttl, hownleeway⟩ := hnumbers.mp hownnumber
    obtain ⟨habsentttl, habsentleeway⟩ := hnumbers.mp habsent
    have hfoundtext := fun name hname => (htext name hname).mp ⟨hread name hname, howntext name hname⟩
    have hfoundttl := httl.mp ⟨hreadttl, hownttl, habsentttl⟩
    have hfoundleeway := hleeway.mp ⟨hreadleeway, hownleeway, habsentleeway⟩
    exact {
      own := hnames.mpr ⟨fun name hname => (hfoundtext name hname).1,
        hnumbers.mpr ⟨hfoundttl.1, hfoundleeway.1⟩⟩
      noString := fun name hname => (hfoundtext name hname).2.1
      noNumber := hnumbers.mpr ⟨hfoundttl.2.1, hfoundleeway.2.1⟩
      printable := fun name hname => (hfoundtext name hname).2.2
      leeway := hfoundleeway.2.2 }
  · rintro ⟨hown, hnoString, hnoNumber, hprintable, hnonzero⟩
    obtain ⟨howntext, hownnumber⟩ := hnames.mp hown
    obtain ⟨hownttl, hownleeway⟩ := hnumbers.mp hownnumber
    obtain ⟨hnottl, hnoleeway⟩ := hnumbers.mp hnoNumber
    have hreadtext := fun name hname => (htext name hname).mpr
      ⟨howntext name hname, hnoString name hname, hprintable name hname⟩
    have hreadttl := httl.mpr ⟨hownttl, hnottl, hone⟩
    have hreadleeway := hleeway.mpr ⟨hownleeway, hnoleeway, hnonzero⟩
    exact {
      values := parseConfig_eq_some.mpr ⟨(hreadtext "secret" (by decide)).1,
        (hreadtext "issuer" (by decide)).1, (hreadtext "audience" (by decide)).1, hreadttl.1,
        hreadleeway.1⟩
      own := hnames.mpr ⟨fun name hname => (hreadtext name hname).2,
        hnumbers.mpr ⟨hreadttl.2.1, hreadleeway.2.1⟩⟩
      absent := hnumbers.mpr ⟨hreadttl.2.2, hreadleeway.2.2⟩ }

def integerLess (a b : Json) : Bool :=
  match integerOf? a, integerOf? b with
  | some m, some n => decide (m < n)
  | _, _ => false

lemma comparesIntegers_integerLess : ComparesIntegers integerLess := by
  intro a b m n ha hb
  rw [integerLess, ha, hb]

def noDoubles (_ : UInt64) : List UInt8 := bytesOf "null"

/-- The secret is the name of a setting that is absent. -/
def exampleSettings : List (String × Json) :=
  [("secret", .string "audience"), ("issuer", .string "my-issuer"), ("leeway_seconds", .unsigned 30)]

theorem settings_are_members_example :
    ReadAsWritten (Json.dump noDoubles) exampleSettings (bytesOf
      "\x7b\"issuer\":\"my-issuer\",\"leeway_seconds\":30,\"secret\":\"audience\"\x7d") :=
  (settings_are_members integerLess (fun _ _ => false)
    comparesIntegers_integerLess (dump_documented noDoubles) (by decide) (by decide) (by decide)).mpr
    ⟨by decide +kernel, by decide +kernel, by decide +kernel, by decide +kernel, by decide⟩

def readSettings (fields : List (String × Json)) : Option AuthConfig :=
  if validateConfig integerLess (fun _ _ => false) authConfigSchema "" (.object fields) = .ok none
  then ((Json.object fields).dump noDoubles).toOption.bind fun text => parseConfig (some text)
  else none

/-- An audience that is the name of the secret makes the issuer the secret, a leeway of zero is read
as the default, and a secret with a new line is read with the letter of its escape. -/
theorem settings_not_members :
    readSettings [("audience", .string "secret"), ("issuer", .string "my-issuer"),
        ("secret", .string "s3cr3t")] =
      some { secret := bytesOf "my-issuer", issuer := bytesOf "my-issuer",
             audience := bytesOf "secret" } ∧
    readSettings [("leeway_seconds", .unsigned 0), ("secret", .string "s3cr3t")] =
      some { secret := bytesOf "s3cr3t", leewaySeconds := 60 } ∧
    readSettings [("secret", .string "s3\ncr3t")] = some { secret := bytesOf "s3ncr3t" } := by
  decide

end ShieldRuntime.Proofs
