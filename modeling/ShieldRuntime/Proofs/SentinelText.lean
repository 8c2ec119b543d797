import ShieldRuntime.Library.Delimited
import ShieldRuntime.Library.Fallible
import ShieldRuntime.Lua.Requests

/-!
# The texts of JSON values and the checks on requests

`dump` writes the members of an object in the order of their keys. `send` makes every check before it
looks for the target; `validate_message_payload` looks for the sentinel in the whole text.
-/

namespace ShieldRuntime.Proofs
open Library Transport Lua

section

variable {key : String} {fields : List (String × Json)} {floatText : UInt64 → List UInt8}
  {dump : JsonDump}

section Strings

variable {state : Utf8State} {bytes : List UInt8} {text : String}

lemma dumpEscaped_ok (h : state.accepts bytes = true) (index : Nat) (last : UInt8) :
    dumpEscaped state index last bytes = .ok (bytes.flatMap escapeByte) := by
  induction bytes generalizing state index last with
  | nil =>
    have haccept : state = .accept := by simpa [Utf8State.accepts] using h
    simp [dumpEscaped, haccept]
  | cons b bytes ih =>
    rw [Utf8State.accepts] at h
    rw [dumpEscaped]
    cases hnext : state.next b with
    | none => simp [hnext] at h
    | some =>
      rw [hnext] at h
      simp [ih h, Bind.bind, Except.bind, Pure.pure, Except.pure]

lemma dumpEscaped_error (h : state.accepts bytes = false) (index : Nat) (last : UInt8) :
    ∃ what, dumpEscaped state index last bytes = .error what := by
  induction bytes generalizing state index last with
  | nil =>
    have haccept : state ≠ .accept := by simpa [Utf8State.accepts] using h
    rw [dumpEscaped, if_neg haccept]
    exact ⟨_, rfl⟩
  | cons b bytes ih =>
    rw [Utf8State.accepts] at h
    rw [dumpEscaped]
    cases hnext : state.next b with
    | none => exact ⟨_, rfl⟩
    | some =>
      rw [hnext] at h
      obtain ⟨what, hwhat⟩ := ih h (index + 1) b
      exact ⟨what, by simp [hwhat, Bind.bind, Except.bind]⟩

def quoted (text : String) : List UInt8 := [34] ++ (bytesOf text).flatMap escapeByte ++ [34]

lemma dumpString_ok (h : validUtf8 (bytesOf text) = true) :
    dumpString text = .ok (quoted text) := by
  simp [dumpString, quoted, dumpEscaped_ok h, Bind.bind, Except.bind, Pure.pure, Except.pure]

lemma dumpString_error (h : validUtf8 (bytesOf text) = false) :
    ∃ what, dumpString text = .error what := by
  obtain ⟨what, hwhat⟩ := dumpEscaped_error h 0 0
  exact ⟨what, by simp [dumpString, hwhat, Bind.bind, Except.bind]⟩

lemma dumpString_eq_ok {s : String} {text : List UInt8} (h : dumpString s = .ok text) :
    text = quoted s := by
  cases hvalid : validUtf8 (bytesOf s) with
  | true =>
    rw [dumpString_ok hvalid] at h
    exact (Except.ok.inj h).symm
  | false =>
    obtain ⟨what, hwhat⟩ := dumpString_error hvalid
    rw [hwhat] at h
    cases h

end Strings

section Values

mutual

def jsonStrings : Json → List String
  | .string s => [s]
  | .array items => itemStrings items
  | .object fields => fieldStrings fields
  | .null | .boolean _ | .integer _ | .unsigned _ | .float _ => []

def itemStrings : List Json → List String
  | [] => []
  | item :: items => jsonStrings item ++ itemStrings items

def fieldStrings : List (String × Json) → List String
  | [] => []
  | (key, value) :: fields => key :: (jsonStrings value ++ fieldStrings fields)

end

lemma itemStrings_eq (items : List Json) : itemStrings items = items.flatMap jsonStrings := by
  induction items with
  | nil => rfl
  | cons item items ih => rw [itemStrings, ih, List.flatMap_cons]

lemma fieldStrings_eq (fields : List (String × Json)) :
    fieldStrings fields = fields.flatMap fun field => field.1 :: jsonStrings field.2 := by
  induction fields with
  | nil => rfl
  | cons field fields ih => rw [fieldStrings, ih, List.flatMap_cons, List.cons_append]

variable {text : List UInt8}

lemma dumpMember_eq_ok {value : Except String (List UInt8)}
    (h : dumpMember (key, value) = .ok text) :
    ∃ valueText, value = .ok valueText ∧ text = quoted key ++ [58] ++ valueText := by
  obtain ⟨keyText, hkey, h⟩ := ok_of_bind_ok h
  obtain ⟨valueText, hvalue, h⟩ := ok_of_bind_ok h
  exact ⟨valueText, hvalue, by rw [← Except.ok.inj h, dumpString_eq_ok hkey]⟩

lemma dump_object_eq_ok (hdoc : dump.Documented floatText)
    (h : dump (.object fields) = .ok text) :
    ∃ texts, (fields.insertionSort fun a b => a.1 ≤ b.1).mapM
        (fun field => dumpMember (field.1, dump field.2)) = .ok texts ∧
      text = [123] ++ joinTexts texts ++ [125] := by
  rw [hdoc.object] at h
  obtain ⟨texts, htexts, h⟩ := ok_of_bind_ok h
  exact ⟨texts, htexts, (Except.ok.inj h).symm⟩

lemma joinTexts_split (front : List (List UInt8)) (text : List UInt8) (back : List (List UInt8)) :
    ∃ rest, joinTexts (front ++ text :: back) = front.flatMap (· ++ [44]) ++ text ++ rest ∧
      ∀ b ∈ rest.head?, b = 44 := by
  induction front with
  | nil =>
    cases back with
    | nil => exact ⟨[], by simp [joinTexts], by simp⟩
    | cons next back => exact ⟨44 :: joinTexts (next :: back), by simp [joinTexts], by simp⟩
  | cons first front ih =>
    obtain ⟨rest, hrest, hhead⟩ := ih
    refine ⟨rest, ?_, hhead⟩
    have hjoin : joinTexts (first :: (front ++ text :: back)) =
        first ++ [44] ++ joinTexts (front ++ text :: back) := by
      cases front <;> simp [joinTexts]
    rw [List.cons_append, hjoin, hrest]
    simp

end Values

section Relation

def dumpTokens : List (List UInt8) :=
  [[], bytesOf "null", bytesOf "true", bytesOf "false", [44], [58], [91], [93], [123], [125]]

/-- A relation of texts and the strings in them that the parts of a dump have. -/
structure TextRelation (floatText : UInt64 → List UInt8)
    (R : List UInt8 → List String → Prop) : Prop where
  token : ∀ text ∈ dumpTokens, R text []
  integer : ∀ i : Int, R (bytesOf (toString i)) []
  double : ∀ bits, R (floatText bits) []
  string : ∀ s, R (quoted s) [s]
  append : ∀ {text rest strings more}, R text strings → R rest more →
    R (text ++ rest) (strings ++ more)
  congr : ∀ {text strings strings'}, (∀ s, s ∈ strings ↔ s ∈ strings') → R text strings →
    R text strings'

variable {R : List UInt8 → List String → Prop}

def RelatesValue (dump : JsonDump) (R : List UInt8 → List String → Prop)
    (value : Json) : Prop :=
  ∀ text, dump value = .ok text → R text (jsonStrings value)

variable (hR : TextRelation floatText R)

include hR

namespace TextRelation

variable {texts : List (List UInt8)} {text : List UInt8}

lemma joined {α : Type} {f : α → Except String (List UInt8)} {strings : α → List String}
    {xs : List α} (h : ∀ x ∈ xs, ∀ text, f x = .ok text → R text (strings x))
    (htexts : xs.mapM f = .ok texts) :
    R (joinTexts texts) (xs.flatMap strings) ∧
      R (texts.flatMap (· ++ [44])) (xs.flatMap strings) := by
  induction xs generalizing texts with
  | nil =>
    cases htexts
    exact ⟨hR.token [] (by decide), hR.token [] (by decide)⟩
  | cons x xs ih =>
    obtain ⟨text, rest, hx, hxs, rfl⟩ := ok_of_mapM_cons htexts
    have htext := h x List.mem_cons_self text hx
    have hcomma := hR.append htext (hR.token [44] (by decide))
    obtain ⟨hjoin, hfront⟩ := ih (fun x hmem => h x (List.mem_cons_of_mem _ hmem)) hxs
    refine ⟨?_, by simpa using hR.append hcomma hfront⟩
    cases rest with
    | nil => simpa [joinTexts] using hR.append htext hjoin
    | cons => simpa [joinTexts] using hR.append hcomma hjoin

lemma member {value : Json} (h : RelatesValue dump R value)
    (htext : dumpMember (key, dump value) = .ok text) :
    R text (key :: jsonStrings value) := by
  obtain ⟨valueText, hvalue, rfl⟩ := dumpMember_eq_ok htext
  have hcolon := hR.token [58] (by decide)
  exact hR.append (hR.append (hR.string key) hcolon) (h valueText hvalue)

lemma brackets {strings : List String} (h : R text strings) {left right : UInt8}
    (hleft : [left] ∈ dumpTokens) (hright : [right] ∈ dumpTokens) :
    R ([left] ++ text ++ [right]) strings := by
  simpa using hR.append (hR.append (hR.token [left] hleft) h) (hR.token [right] hright)

variable (hdoc : dump.Documented floatText)

include hdoc

lemma array {items : List Json} (h : ∀ item ∈ items, RelatesValue dump R item) :
    RelatesValue dump R (.array items) := by
  intro text htext
  rw [hdoc.array] at htext
  obtain ⟨texts, htexts, htext⟩ := ok_of_bind_ok htext
  rw [← Except.ok.inj htext, jsonStrings, itemStrings_eq]
  exact hR.brackets (hR.joined (fun item hmem => h item hmem) htexts).1 (by decide) (by decide)

lemma object (h : ∀ field ∈ fields, RelatesValue dump R field.2) :
    RelatesValue dump R (.object fields) := by
  intro text htext
  obtain ⟨texts, htexts, rfl⟩ := dump_object_eq_ok hdoc htext
  have hperm := List.perm_insertionSort (fun a b : String × Json => a.1 ≤ b.1) fields
  have hmembers : ∀ field ∈ fields.insertionSort fun a b => a.1 ≤ b.1, ∀ text,
      dumpMember (field.1, dump field.2) = .ok text →
        R text (field.1 :: jsonStrings field.2) := by
    intro field hmem text hfield
    exact hR.member (h field (hperm.mem_iff.mp hmem)) hfield
  rw [jsonStrings, fieldStrings_eq]
  refine hR.brackets (hR.congr ?_ (hR.joined hmembers htexts).1) (by decide) (by decide)
  intro s
  exact (hperm.flatMap_right _).mem_iff

omit hR hdoc

mutual

/-- The relation holds of the text of every value. -/
theorem value (hR : TextRelation floatText R) (hdoc : dump.Documented floatText) :
    ∀ value : Json, RelatesValue dump R value
  | .null => fun _ h => Except.ok.inj (hdoc.null.symm.trans h) ▸ hR.token _ (by decide)
  | .boolean true => fun _ h =>
    Except.ok.inj ((hdoc.boolean true).symm.trans h) ▸ hR.token _ (by decide)
  | .boolean false => fun _ h =>
    Except.ok.inj ((hdoc.boolean false).symm.trans h) ▸ hR.token _ (by decide)
  | .integer i => fun _ h => Except.ok.inj ((hdoc.integer i).symm.trans h) ▸ hR.integer i
  | .unsigned n => fun _ h => Except.ok.inj ((hdoc.unsigned n).symm.trans h) ▸ hR.integer n
  | .float bits => fun _ h => Except.ok.inj ((hdoc.float bits).symm.trans h) ▸ hR.double bits
  | .string s => fun _ h => dumpString_eq_ok ((hdoc.string s).symm.trans h) ▸ hR.string s
  | .array items => hR.array hdoc (value_items hR hdoc items)
  | .object fields => hR.object hdoc (value_fields hR hdoc fields)

theorem value_items (hR : TextRelation floatText R) (hdoc : dump.Documented floatText) :
    ∀ items : List Json, ∀ item ∈ items, RelatesValue dump R item
  | [], _, hmem => by cases hmem
  | item :: items, other, hmem => by
    rcases List.mem_cons.mp hmem with heq | hmem
    · exact heq ▸ value hR hdoc item
    · exact value_items hR hdoc items other hmem

theorem value_fields (hR : TextRelation floatText R) (hdoc : dump.Documented floatText) :
    ∀ fields : List (String × Json), ∀ field ∈ fields, RelatesValue dump R field.2
  | [], _, hmem => by cases hmem
  | (key, item) :: fields, other, hmem => by
    rcases List.mem_cons.mp hmem with heq | hmem
    · exact heq ▸ value hR hdoc item
    · exact value_fields hR hdoc fields other hmem

end

end TextRelation

end Relation

end

lemma escapeByte_cases (b : UInt8) :
    (b = 34 ∧ escapeByte b = [92, 34]) ∨
      (b ≠ 34 ∧ 34 ∉ escapeByte b ∧ (escapeByte b = [b] ∨ 92 ∈ escapeByte b)) := by
  have hdigit : ∀ n < 16, hexDigit n ≠ 34 := by decide
  by_cases hquote : b = 34
  · exact .inl ⟨hquote, by rw [hquote]; rfl⟩
  refine .inr ⟨hquote, ?_⟩
  unfold escapeByte
  split_ifs with h8 h9 h10 h12 h13 h92 hcontrol
  iterate 6 · exact ⟨by decide, .inr (by decide)⟩
  · have hhigh := hdigit (b.toNat / 16) (by have := b.toNat_lt; omega)
    have hlow := hdigit (b.toNat % 16) (Nat.mod_lt _ (by decide))
    have hlead : (34 : UInt8) ∉ bytesOf "\\u00" := by decide
    refine ⟨?_, .inr (List.mem_append_left _ (by decide))⟩
    simp [hlead, Ne.symm hhigh, Ne.symm hlow]
  · exact ⟨by simpa using Ne.symm hquote, .inl rfl⟩

def PlainWord (word : List UInt8) : Prop := ∀ b ∈ word, escapeByte b = [b]

instance decidablePlainWord (word : List UInt8) : Decidable (PlainWord word) :=
  List.decidableBAll (fun b => escapeByte b = [b]) word

/-- The string ends in `word`, a quote or its start before it. -/
def EndsLike (word text : List UInt8) : Prop := 34 :: word <:+ 34 :: text

instance decidableEndsLike (word text : List UInt8) : Decidable (EndsLike word text) :=
  inferInstanceAs (Decidable (34 :: word <:+ 34 :: text))

section Search

variable {word : List UInt8} (hword : PlainWord word)

include hword

lemma PlainWord.quote_notMem : 34 ∉ word := fun hmem => absurd (hword 34 hmem) (by decide)

lemma PlainWord.backslash_notMem : 92 ∉ word := fun hmem => absurd (hword 92 hmem) (by decide)

lemma escaped_eq_word_iff (text : List UInt8) : text.flatMap escapeByte = word ↔ text = word := by
  constructor
  · intro h
    have hplain : ∀ b ∈ text, escapeByte b = [b] := by
      intro b hb
      have hslash : (92 : UInt8) ∉ escapeByte b := fun hmem =>
        hword.backslash_notMem (h ▸ List.mem_flatMap.mpr ⟨b, hb, hmem⟩)
      rcases escapeByte_cases b with ⟨-, hesc⟩ | ⟨-, -, hesc | hesc⟩
      · exact absurd (hesc ▸ List.mem_cons_self) hslash
      · exact hesc
      · exact absurd hesc hslash
    rw [List.flatMap_congr hplain, List.flatMap_singleton'] at h
    exact h
  · rintro rfl
    rw [List.flatMap_congr hword, List.flatMap_singleton']

lemma scan_escaped (found found' : Bool) (since text : List UInt8) :
    scan 34 word (found, some (since.flatMap escapeByte)) (text.flatMap escapeByte) =
      (found, (scan 34 word (found', some since) text).2.map fun raw =>
        raw.flatMap escapeByte) := by
  induction text generalizing since found' with
  | nil => rfl
  | cons b text ih =>
    rw [List.flatMap_cons, scan_append, scan_cons]
    rcases escapeByte_cases b with ⟨rfl, hesc⟩ | ⟨hquote, hnot, -⟩
    · have hlast : since.flatMap escapeByte ++ [92] ≠ word := fun heq =>
        hword.backslash_notMem (heq ▸ List.mem_append_right _ List.mem_cons_self)
      have hstep : scan (34 : UInt8) word (found, some (since.flatMap escapeByte)) [92, 34] =
          (found, some ([].flatMap escapeByte)) := by
        simp [scan, scanStep, hlast]
      rw [hesc, hstep, ih]
      rfl
    · rw [scan_of_notMem _ hnot, scanStep, if_neg hquote]
      simp only [Option.map_some]
      rw [← ih]
      simp

lemma scan_quoted {state : Bool × Option (List UInt8)} (hstate : state.2 ≠ some word)
    (text : List UInt8) :
    scan 34 word state ([34] ++ text.flatMap escapeByte ++ [34]) =
      (state.1 || decide (EndsLike word text), some []) := by
  have hsince : (scan 34 word (false, some []) text).2 = some word ↔ EndsLike word text := by
    have hscan : scan 34 word (false, some []) text =
        scan 34 word (false, none) (34 :: text) := rfl
    rw [hscan, scan_since_iff]
    exact and_iff_left hword.quote_notMem
  have hopen : scan 34 word state [34] = (state.1, some ([].flatMap escapeByte)) := by
    simp [scan, scanStep, hstate]
  rw [scan_append, scan_append, hopen, scan_escaped hword state.1 false [] text]
  generalize (scan 34 word (false, some []) text).2 = since at hsince ⊢
  simp only [scan, List.foldl_cons, List.foldl_nil, scanStep, if_true, Prod.mk.injEq, and_true]
  congr 1
  rw [Bool.eq_iff_iff, beq_iff_eq, decide_eq_true_eq, ← hsince, Option.map_eq_some_iff]
  simp only [escaped_eq_word_iff hword]
  cases since with
  | none | some => simp

end Search

section Sentinel

def unsupportedWord : List UInt8 := bytesOf "<unsupported>"

lemma containsText_iff (text needle : List UInt8) :
    containsText text needle = true ↔ needle <:+: text := by
  simp only [containsText, List.any_eq_true, List.mem_tails, List.isPrefixOf_iff_prefix]
  exact List.infix_iff_prefix_suffix.trans ⟨fun ⟨t, hp, hs⟩ => ⟨t, hs, hp⟩,
    fun ⟨t, hs, hp⟩ => ⟨t, hp, hs⟩⟩ |>.symm

def sentinelScan (state : Bool × Option (List UInt8)) (text : List UInt8) :
    Bool × Option (List UInt8) :=
  scan 34 unsupportedWord state text

def EndsLikeSentinel (text : String) : Prop := 34 :: unsupportedWord <:+ 34 :: bytesOf text

instance decidableEndsLikeSentinel (text : String) : Decidable (EndsLikeSentinel text) :=
  inferInstanceAs (Decidable (34 :: unsupportedWord <:+ 34 :: bytesOf text))

def Outside (since : Option (List UInt8)) : Prop := ∀ w, since = some w → w.head? ≠ some 60

/-- A scan of `text` finds the sentinel iff some string ends like it. -/
def Scans (text : List UInt8) (strings : List String) : Prop :=
  ∀ state : Bool × Option (List UInt8), Outside state.2 →
    Outside (sentinelScan state text).2 ∧
      ((sentinelScan state text).1 = true ↔
        state.1 = true ∨ ∃ s ∈ strings, EndsLikeSentinel s)

/-- Neither quotes nor the beginning of the sentinel. -/
def Plain (text : List UInt8) : Prop := ∀ b ∈ text, b ≠ 34 ∧ b ≠ 60

instance decidablePlain (text : List UInt8) : Decidable (Plain text) :=
  List.decidableBAll (fun b => b ≠ 34 ∧ b ≠ 60) text

variable {text : List UInt8} {strings : List String}

lemma scans_plain (h : Plain text) : Scans text [] := by
  intro state hstate
  have hquote : (34 : UInt8) ∉ text := fun hmem => (h 34 hmem).1 rfl
  have hscan : sentinelScan state text = (state.1, state.2.map (· ++ text)) :=
    scan_of_notMem state hquote
  rw [hscan]
  refine ⟨?_, by simp⟩
  intro w hw
  obtain ⟨old, hold, rfl⟩ := Option.map_eq_some_iff.mp hw
  cases old with
  | cons b old => simpa using hstate (b :: old) hold
  | nil =>
    cases text with
    | nil => simp
    | cons b =>
      have hb := (h b List.mem_cons_self).2
      simpa using hb

lemma scans_quoted (s : String) : Scans (quoted s) [s] := by
  intro state hstate
  have hscan : sentinelScan state (quoted s) = (state.1 || decide (EndsLikeSentinel s), some []) :=
    scan_quoted (by decide) (fun heq => hstate unsupportedWord heq rfl) (bytesOf s)
  rw [hscan]
  refine ⟨?_, by simp⟩
  intro w hw
  cases hw
  simp

lemma Scans.append {rest : List UInt8} {more : List String} (h : Scans text strings)
    (hrest : Scans rest more) : Scans (text ++ rest) (strings ++ more) := by
  intro state hstate
  have hscan : sentinelScan state (text ++ rest) = sentinelScan (sentinelScan state text) rest :=
    scan_append state text rest
  obtain ⟨hmid, hfound⟩ := h state hstate
  obtain ⟨hend, hfound'⟩ := hrest _ hmid
  rw [hscan]
  refine ⟨hend, ?_⟩
  rw [hfound', hfound, or_assoc]
  simp [or_and_right, exists_or]

lemma Scans.congr {strings' : List String} (h : Scans text strings)
    (hmem : ∀ s, s ∈ strings ↔ s ∈ strings') : Scans text strings' := by
  intro state hstate
  have hsame : (∃ s ∈ strings, EndsLikeSentinel s) ↔ ∃ s ∈ strings', EndsLikeSentinel s := by
    simp only [hmem]
  rw [← hsame]
  exact h state hstate

end Sentinel

section Values

variable {floatText : UInt64 → List UInt8} {dump : JsonDump}

lemma plain_digits (n : Nat) : Plain (bytesOf (toString n)) := by
  intro b hb
  obtain ⟨ch, hch, rfl⟩ := List.mem_map.mp hb
  rw [Nat.toString_eq_ofList_toDigits, String.toList_ofList] at hch
  have hdigit := Nat.isDigit_of_mem_toDigits (by decide) (by decide) hch
  obtain ⟨hlow, hhigh⟩ := Char.isDigit_iff_toNat.mp hdigit
  have hzero : '0'.toNat = 48 := rfl
  have hnine : '9'.toNat = 57 := rfl
  constructor <;>
    · intro heq
      have hnat := congrArg UInt8.toNat heq
      simp only [UInt8.toNat_ofNat', UInt8.reduceToNat] at hnat
      omega

lemma plain_integer (i : Int) : Plain (bytesOf (toString i)) := by
  have hrepr : toString i = if 0 ≤ i then toString i.toNat else "-" ++ toString (-i).toNat :=
    Int.repr_eq_if
  rw [hrepr]
  split
  · exact plain_digits _
  have hsign : Plain (bytesOf "-") := by decide
  intro b hb
  simp only [bytesOf, String.toList_append, List.map_append, List.mem_append] at hb
  rcases hb with hb | hb
  · exact hsign b hb
  · exact plain_digits _ b hb

lemma textRelation_scans (hfloat : ∀ bits, Plain (floatText bits)) :
    TextRelation floatText Scans where
  token := by
    have htokens : ∀ text ∈ dumpTokens, Plain text := by decide
    exact fun text hmem => scans_plain (htokens text hmem)
  integer i := scans_plain (plain_integer i)
  double bits := scans_plain (hfloat bits)
  string := scans_quoted
  append := Scans.append
  congr hmem h := h.congr hmem

/-- The sentinel is found in the text of a value exactly if a string of the value ends like it. -/
theorem containsText_dump (hdoc : dump.Documented floatText)
    (hfloat : ∀ bits, Plain (floatText bits)) {value : Json} {text : List UInt8}
    (h : dump value = .ok text) :
    containsText text unsupportedSentinel = true ↔
      ∃ s ∈ jsonStrings value, EndsLikeSentinel s := by
  have hsentinel : unsupportedSentinel = 34 :: unsupportedWord ++ [34] := rfl
  have hword : (34 : UInt8) ∉ unsupportedWord := by decide
  have hscan := (textRelation_scans hfloat).value hdoc value text h (false, none)
    (fun w hw => by cases hw)
  rw [containsText_iff, hsentinel, ← scan_found_iff hword]
  exact hscan.2.trans (by simp)

end Values

/-- The request passes all checks. -/
structure Checked (dump : JsonDump) (rt : Runtime) (sender : ServiceId)
    (target method : String) (args : Json) : Prop where
  running : rt.registry.stopping = false
  length : 1 ≤ method.length ∧ method.length ≤ 128
  unreserved : ¬"on_".toList <+: method.toList
  permitted : ∀ check, rt.permissionCheck = some check → check sender target method = ""
  size : ∃ text, dump args = .ok text ∧ text.length ≤ maxMessageSize

section

variable {dump : JsonDump} {rt : Runtime} {context : RequestContext}
  {target method : String} {args : Json} {actor : Instance} {msg : ServiceMessage}

lemma validateMessageMethod_ok : validateMessageMethod method false = .ok () ↔
    (1 ≤ method.length ∧ method.length ≤ 128) ∧ ¬"on_".toList <+: method.toList := by
  unfold validateMessageMethod
  by_cases hlength : method.length = 0 ∨ 128 < method.length
  · rw [if_pos hlength]
    refine ⟨nofun, fun h => ?_⟩
    omega
  · rw [if_neg hlength]
    have hwithin : 1 ≤ method.length ∧ method.length ≤ 128 := by omega
    simp [hwithin]

lemma validateMessagePayload_ok (h : validateMessagePayload dump args = .ok (.ok ())) :
    ∃ text, dump args = .ok text ∧ text.length ≤ maxMessageSize ∧
      containsText text unsupportedSentinel = false := by
  unfold validateMessagePayload at h
  cases hdump : dump args with
  | error =>
    rw [hdump] at h
    cases h
  | ok text =>
    rw [hdump] at h
    refine ⟨text, rfl, ?_⟩
    simp only [Bind.bind, Except.bind, Pure.pure, Except.pure] at h
    split at h
    · cases h
    rename_i hsize
    split at h
    · cases h
    · rename_i hfound
      exact ⟨Nat.not_lt.mp hsize, Bool.eq_false_iff.mpr hfound⟩

lemma denial_eq_none {sender : ServiceId} : rt.denial sender target method = none ↔
    ∀ check, rt.permissionCheck = some check → check sender target method = "" := by
  unfold Runtime.denial
  cases rt.permissionCheck with
  | none | some => simp

section

variable (dump : JsonDump) (rt : Runtime) (context : RequestContext) (target method : String) (args : Json)

inductive SendResult :
    Except String (Except String (Instance × ServiceMessage)) → Prop
  | stopping (h : rt.registry.stopping = true) : SendResult (.ok (.error "runtime is stopping"))
  | method {error} (h : validateMessageMethod method false = .error error) :
    SendResult (.ok (.error error))
  | denied {denial} (h : rt.denial context.sender target method = some denial) :
    SendResult
    (.ok (.error ("permission denied: " ++ denial)))
  | raised {what} (h : validateMessagePayload dump args = .error what) :
    SendResult (.error what)
  | payload {error} (hrunning : rt.registry.stopping = false)
    (hmethod : validateMessageMethod method false = .ok ())
    (hdenial : rt.denial context.sender target method = none)
    (h : validateMessagePayload dump args = .ok (.error error)) :
    SendResult (.ok (.error error))
  | dead (h : rt.registry.targetActor target = none)
    (hpayload : validateMessagePayload dump args = .ok (.ok ())) :
    SendResult (.ok (.error ("service dead: " ++ target)))
  | missing (h : rt.registry.targetActor target = none)
    (hpayload : validateMessagePayload dump args = .ok (.ok ())) :
    SendResult
    (.ok (.error ("service not found: " ++ target)))
  | queued {actor : Instance} (hrunning : rt.registry.stopping = false)
    (hmethod : validateMessageMethod method false = .ok ())
    (hdenial : rt.denial context.sender target method = none)
    (hpayload : validateMessagePayload dump args = .ok (.ok ()))
    (h : rt.registry.targetActor target = some actor) :
    SendResult
    (.ok (.ok (actor, { sender := context.sender, method, args, traceId := context.traceId,
                        deadlineMs := context.deadlineMs })))

end

lemma send_result : SendResult dump rt context target method args
    (rt.send dump context target method args) := by
  unfold Runtime.send
  split
  · exact .stopping ‹_›
  rename_i hrunning
  cases hmethod : validateMessageMethod method false with
  | error => exact .method hmethod
  | ok =>
    cases hdenial : rt.denial context.sender target method with
    | some => exact .denied hdenial
    | none =>
      cases hpayload : validateMessagePayload dump args with
      | error => exact .raised hpayload
      | ok result =>
        cases result with
        | error => exact .payload (Bool.eq_false_iff.mpr hrunning) hmethod hdenial hpayload
        | ok =>
          cases hactor : rt.registry.targetActor target with
          | none =>
            simp only [Bind.bind, Except.bind, Pure.pure, Except.pure]
            split
            · exact .dead hactor hpayload
            · exact .missing hactor hpayload
          | some =>
            exact .queued (Bool.eq_false_iff.mpr hrunning) hmethod hdenial hpayload hactor

lemma send_checked (h : rt.send dump context target method args = .ok (.ok (actor, msg))) :
    Checked dump rt context.sender target method args ∧ msg.args = args ∧
      validateMessagePayload dump args = .ok (.ok ()) := by
  have hresult : SendResult dump rt context target method args _ := send_result
  rw [h] at hresult
  cases hresult with
  | queued hrunning hmethod hdenial hpayload =>
    obtain ⟨hlength, hunreserved⟩ := validateMessageMethod_ok.mp hmethod
    obtain ⟨text, hdump, hsize, -⟩ := validateMessagePayload_ok hpayload
    exact ⟨⟨hrunning, hlength, hunreserved, denial_eq_none.mp hdenial, text, hdump, hsize⟩, rfl,
      hpayload⟩

end

section

variable {dump : JsonDump} {sol : Sol2}
  {packedSize : List LuaValue → Nat} {rt : Runtime} {context : RequestContext}
  {target : LuaTarget} {method : String} {args : List LuaValue} {H : Type}
  {modules : Instance → Option (String → ModuleField H)} {handler : H} {received : Json}

lemma shieldSend_reached (h : (shieldSend dump sol rt context target method
    args).reached modules = some (handler, received)) :
    ∃ actor msg, rt.send dump context target.serviceId method
        (argumentsToJson sol args) = .ok (.ok (actor, msg)) ∧
      msg.args = received := by
  unfold shieldSend at h
  split at h
  · cases h
  split at h
  · cases h
  · cases h
  · rename_i actor msg hsend
    obtain ⟨_, -, hreceived⟩ := Option.map_eq_some_iff.mp h
    exact ⟨actor, msg, hsend, (Prod.mk.inj hreceived).2⟩

end

def oneService (stopping : Bool) : Runtime where
  registry := {
    services := fun name => if name = "b" then some 0 else none
    publishedNames := fun name => if name = "b" then some "b" else none
    serviceActors := fun name => if name = "b" then some 0 else none
    stopping }
  permissionCheck := some fun sender _ _ => if sender = "guest" then "no guests" else ""

def oneModule (_ : Instance) : Option (String → ModuleField String) :=
  some fun method => if method ∈ ["on_exit", "greet"] then .function method else .absent

/-- A call from a service that may not send anything reaches the hook `on_exit` of another. -/
lemma call_reaches_hook (dump : JsonDump) (sol : Sol2)
    (packedSize : List LuaValue → Nat) (api : CallApi) (main : Bool) :
    (luaRequest dump sol packedSize (oneService false) { sender := "guest" } (.string "b")
        "on_exit" [] 1 1 (.call api main)).reached oneModule =
      some ("on_exit", argumentsToJson sol []) := by
  cases main with
  | true => rfl
  | false =>
    simp only [luaRequest, shieldCall, coroCall, List.take_nil]
    rfl

/-- Every request that is made through an API and reaches a handler has passed the checks if and
only if the API is `shield.send`. -/
theorem lua_requests_checked (dump : JsonDump) (sol : Sol2)
    (packedSize : List LuaValue → Nat) (api : LuaApi) :
    (∀ (rt : Runtime) (context : RequestContext) (target : LuaTarget) (method : String)
        (args : List LuaValue) (session syncSession : Nat) (H : Type)
        (modules : Instance → Option (String → ModuleField H)) (handler : H) (received : Json),
      (luaRequest dump sol packedSize rt context target method args session
          syncSession api).reached modules = some (handler, received) →
        Checked dump rt context.sender target.serviceId method received) ↔ api = .send := by
  constructor
  · intro h
    cases api with
    | send => rfl
    | call api main =>
      have hchecked := h _ _ _ _ _ _ _ _ _ _ _ (call_reaches_hook dump sol packedSize api main)
      exact absurd (by decide) hchecked.unreserved
  · rintro rfl rt context target method args session syncSession H modules handler received h
    obtain ⟨actor, msg, hsend, rfl⟩ := shieldSend_reached h
    obtain ⟨hchecked, hargs, -⟩ := send_checked hsend
    rw [hargs]
    exact hchecked

variable {floatText : UInt64 → List UInt8} {dump : JsonDump}

lemma ascii_accepted (n : Nat) : Utf8State.accept.accepts (List.replicate n 97) = true := by
  induction n with
  | zero => rfl
  | succ n ih =>
    exact ih

def longString (n : Nat) : String := stringOf (List.replicate n 97)

lemma longString_dump (hdoc : dump.Documented floatText) (n : Nat) :
    ∃ text, dump (.array [.string (longString n)]) = .ok text ∧ n < text.length := by
  have hvalid : validUtf8 (bytesOf (longString n)) = true := by
    rw [longString, bytesOf_stringOf]
    exact ascii_accepted n
  have hlength : (quoted (longString n)).length = n + 2 := by
    have hescape : escapeByte 97 = [97] := by decide
    simp [quoted, longString, List.flatMap_replicate, hescape]
  refine ⟨[91] ++ quoted (longString n) ++ [93], ?_, by simp [hlength]; omega⟩
  simp [hdoc.array, hdoc.string, dumpString_ok hvalid, joinTexts, Bind.bind, Except.bind,
    Pure.pure, Except.pure]

/-- Whatever its arguments, a call from a service that may not send anything reaches the hook
`on_exit` of another service: in a coroutine, and then even while the runtime is stopping, or on
the main thread. -/
theorem call_unchecked :
    (∀ api args, (luaRequest (Json.dump fun _ => []) ⟨fun _ => 0, none⟩ List.length (oneService true)
          { sender := "guest" } (.string "b") "on_exit" args 1 1 (.call api false)).reached
          oneModule =
        some ("on_exit", argumentsToJson ⟨fun _ => 0, none⟩ args)) ∧
      (∀ api args, (luaRequest (Json.dump fun _ => []) ⟨fun _ => 0, none⟩ List.length (oneService false)
          { sender := "guest" } (.string "b") "on_exit" args 1 1 (.call api true)).reached
          oneModule =
        some ("on_exit", argumentsToJson ⟨fun _ => 0, none⟩ args)) ∧
      (oneService false).denial "guest" "b" "on_exit" = some "no guests" ∧
      ∃ args text, Json.dump (fun _ => []) (argumentsToJson ⟨fun _ => 0, none⟩ args) = .ok text ∧
        maxMessageSize < text.length := by
  refine ⟨?_, ?_, by decide, [.string (longString maxMessageSize)], ?_⟩
  · intro api args
    have htake : args.take args.length = args := List.take_length
    simp only [luaRequest, shieldCall, coroCall, htake]
    rfl
  · intro api args
    rfl
  · exact longString_dump (dump_documented _) maxMessageSize

end ShieldRuntime.Proofs
