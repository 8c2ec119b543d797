import ShieldRuntime.Proofs.PackGrammar

/-!
# LuaPack from the encoder to the decoder

`received` is the value that the decoder makes of the bytes of an encoder.
-/

namespace ShieldRuntime.Proofs
open Library Transport Lua

variable {absent : Except String (List UInt8)} {key : PackValue} {e : PackValue × PackValue}
  {entries : List (PackValue × PackValue)} {data : List UInt8}

section Values

variable {motive : PackValue → Prop}

mutual

/-- Induction over a value, with the keys and the values of a table at once. -/
@[elab_as_elim]
theorem pack_induction (atom : ∀ v, (∀ entries, v ≠ .table entries) → motive v)
    (table : ∀ entries, (∀ e ∈ entries, motive e.1 ∧ motive e.2) → motive (.table entries)) :
    ∀ v : PackValue, motive v
  | .table entries => table entries (pack_entries_induction atom table entries)
  | .nil => atom .nil nofun
  | .boolean b => atom (.boolean b) nofun
  | .integer n => atom (.integer n) nofun
  | .float bits => atom (.float bits) nofun
  | .string s => atom (.string s) nofun
  | .handle id => atom (.handle id) nofun
  | .other => atom .other nofun

theorem pack_entries_induction (atom : ∀ v, (∀ entries, v ≠ .table entries) → motive v)
    (table : ∀ entries, (∀ e ∈ entries, motive e.1 ∧ motive e.2) → motive (.table entries)) :
    ∀ (entries : List (PackValue × PackValue)), ∀ e ∈ entries, motive e.1 ∧ motive e.2
  | [], _, h => (List.not_mem_nil h).elim
  | (k, v) :: rest, e, h => by
    rcases List.mem_cons.mp h with rfl | h
    · exact ⟨pack_induction atom table k, pack_induction atom table v⟩
    · exact pack_entries_induction atom table rest e h

end

mutual

def parts : PackValue → List PackValue
  | .table entries => .table entries :: entryParts entries
  | v => [v]

def entryParts : List (PackValue × PackValue) → List PackValue
  | [] => []
  | (k, v) :: rest => parts k ++ parts v ++ entryParts rest

end

/-- The property holds for the value and all values in it. -/
def Everywhere (P : PackValue → Prop) (v : PackValue) : Prop := ∀ w ∈ parts v, P w

variable {P : PackValue → Prop}

lemma Everywhere.here {v : PackValue} (h : Everywhere P v) : P v := by
  refine h v ?_
  cases v <;> simp [parts]

lemma mem_entryParts (he : e ∈ entries) {w : PackValue} (hw : w ∈ parts e.1 ++ parts e.2) :
    w ∈ entryParts entries := by
  induction entries with
  | nil => cases he
  | cons first rest ih =>
    rw [entryParts, List.mem_append]
    rcases List.mem_cons.mp he with rfl | he
    · exact .inl hw
    · exact .inr (ih he)

lemma everywhere_atom {v : PackValue} (hatom : ∀ entries, v ≠ .table entries) (h : P v) :
    Everywhere P v := by
  cases v with
  | table entries => exact absurd rfl (hatom entries)
  | nil | boolean | integer | float | string | handle | other => simpa [Everywhere, parts] using h

lemma everywhere_entryParts (h : ∀ e ∈ entries, Everywhere P e.1 ∧ Everywhere P e.2) :
    ∀ w ∈ entryParts entries, P w := by
  induction entries with
  | nil => simp [entryParts]
  | cons e rest ih =>
    intro w hw
    obtain ⟨⟨hkey, hvalue⟩, hrest⟩ := List.forall_mem_cons.mp h
    simp only [entryParts, List.mem_append] at hw
    rcases hw with (hw | hw) | hw
    · exact hkey w hw
    · exact hvalue w hw
    · exact ih hrest w hw

lemma everywhere_table (hhere : P (.table entries))
    (h : ∀ e ∈ entries, Everywhere P e.1 ∧ Everywhere P e.2) : Everywhere P (.table entries) := by
  intro w hw
  rw [parts] at hw
  rcases List.mem_cons.mp hw with rfl | hw
  · exact hhere
  · exact everywhere_entryParts h w hw

lemma Everywhere.entry (h : Everywhere P (.table entries)) (he : e ∈ entries) :
    Everywhere P e.1 ∧ Everywhere P e.2 := by
  have hinner : ∀ w ∈ parts e.1 ++ parts e.2, P w := fun w hw =>
    h w (by rw [parts]; exact List.mem_cons_of_mem _ (mem_entryParts he hw))
  exact ⟨fun w hw => hinner w (List.mem_append_left _ hw),
    fun w hw => hinner w (List.mem_append_right _ hw)⟩

mutual

/-- Equal up to whole doubles turned integers and entry order. -/
inductive SameValue : PackValue → PackValue → Prop
  | nil : SameValue .nil .nil
  | boolean (b) : SameValue (.boolean b) (.boolean b)
  | integer (n) : SameValue (.integer n) (.integer n)
  | float (bits) : SameValue (.float bits) (.float bits)
  | whole {bits : UInt64} {n : Int} : wholeDouble? bits = some n →
    SameValue (.float bits) (.integer n)
  | string (bytes) : SameValue (.string bytes) (.string bytes)
  | handle (id) : SameValue (.handle id) (.handle id)
  | table {entries matched received : List (PackValue × PackValue)} :
    SameEntries entries matched → matched.Perm received →
    SameValue (.table entries) (.table received)

inductive SameEntries : List (PackValue × PackValue) → List (PackValue × PackValue) → Prop
  | nil : SameEntries [] []
  | cons {k k' v v' rest rest'} :
    SameValue k k' → SameValue v v' → SameEntries rest rest' →
    SameEntries ((k, v) :: rest) ((k', v') :: rest')

end

lemma sameEntries_map {f : PackValue → PackValue}
    (h : ∀ e ∈ entries, SameValue e.1 (f e.1) ∧ SameValue e.2 (f e.2)) :
    SameEntries entries (entries.map fun e => (f e.1, f e.2)) := by
  induction entries with
  | nil => exact .nil
  | cons e rest ih =>
    obtain ⟨hkey, hvalue⟩ := h e List.mem_cons_self
    exact .cons hkey hvalue (ih fun e he => h e (List.mem_cons_of_mem _ he))

def isStringOrInteger : PackValue → Bool
  | .string _ | .integer _ => true
  | _ => false

/-- What the format has room for: no other types, no wide integers, keys of two types. -/
def Packable : PackValue → Prop
  | .integer n => n.natAbs ≤ 2 ^ 53
  | .table entries =>
    entries.Pairwise (fun e e' => e.1.sameKey e'.1 = false) ∧
    ∀ e ∈ entries, isStringOrInteger e.1 = true ∧ e.2.isNil = false
  | .other => False
  | _ => True

lemma isStringOrInteger_keys (h : Packable (.table entries)) :
    ∀ key ∈ entries.map Prod.fst, isStringOrInteger key = true := by
  intro key hkey
  obtain ⟨e, he, rfl⟩ := List.mem_map.mp hkey
  exact (h.2 e he).1

instance : DecidablePred Packable := fun
  | .integer n => inferInstanceAs (Decidable (n.natAbs ≤ 2 ^ 53))
  | .table entries => inferInstanceAs (Decidable (entries.Pairwise (fun e e' => e.1.sameKey e'.1 = false) ∧
      ∀ e ∈ entries, isStringOrInteger e.1 = true ∧ e.2.isNil = false))
  | .other => .isFalse id
  | .nil | .boolean _ | .float _ | .string _ | .handle _ => .isTrue trivial

def fitsInt : PackValue → Bool
  | .integer n => toInt32 n == n
  | _ => true

/-- What `as<int>` makes of an integer key. -/
def intKey : PackValue → Int
  | .integer n => toInt32 n
  | _ => 0

/-- All keys are positive as an `int`, and the largest of these is the number of entries. -/
def takenForArray (limits : PackLimits) (keys : List PackValue) : Bool :=
  keys.all (fun key => decide (0 < intKey key)) &&
    (keys.map fun key => (intKey key).toNat).foldr max 0 == keys.length &&
    decide (keys.length ≤ limits.maxArrayLength)

/-- No key before the last one in the order of the table ends the count of the entries, and a table
is taken for an array only if its keys are within an `int`. A service handle cannot be decoded. -/
def Counted (limits : PackLimits) : PackValue → Prop
  | .table entries =>
    (∀ key ∈ (entries.map Prod.fst).dropLast, 0 < intKey key) ∧
    (takenForArray limits (entries.map Prod.fst) = true →
      ∀ e ∈ entries, fitsInt e.1 = true)
  | .handle _ => False
  | _ => True

instance (limits : PackLimits) : DecidablePred (Counted limits) := fun
  | .table entries => inferInstanceAs (Decidable
      ((∀ key ∈ (entries.map Prod.fst).dropLast, 0 < intKey key) ∧
      (takenForArray limits (entries.map Prod.fst) = true → ∀ e ∈ entries, fitsInt e.1 = true)))
  | .handle _ => .isFalse id
  | .nil | .boolean _ | .integer _ | .float _ | .string _ | .other => .isTrue trivial

instance (P : PackValue → Prop) [DecidablePred P] : DecidablePred (Everywhere P) := fun v =>
  List.decidableBAll P (parts v)

end Values

section Scan

variable {limits : PackLimits} {sol : Sol2} {keys : List PackValue}

lemma scanKeys_cons (h : isStringOrInteger key = true) (keys : List PackValue)
    (shape : TableShape) :
    scanKeys sol (key :: keys) shape =
      if 0 < intKey key then
        scanKeys sol keys { shape with
          maxIndex := max shape.maxIndex (intKey key).toNat
          entryCount := shape.entryCount + 1 }
      else { shape with arrayLike := false, entryCount := shape.entryCount + 1 } := by
  cases key with
  | string => rfl
  | integer n =>
    change _ = if 0 < toInt32 n then scanKeys sol keys { shape with
          maxIndex := max shape.maxIndex (toInt32 n).toNat
          entryCount := shape.entryCount + 1 } else _
    simp only [scanKeys, PackValue.asInt?]
    by_cases h : 0 < toInt32 n
    · rw [if_pos h, if_neg (by omega)]
    · rw [if_neg h, if_pos (by omega)]
  | nil | boolean | float | table | handle | other => cases h

lemma scanKeys_positive (hkeys : ∀ key ∈ keys, isStringOrInteger key = true)
    (h : ∀ key ∈ keys, 0 < intKey key) (shape : TableShape) :
    scanKeys sol keys shape = { shape with
      maxIndex := max shape.maxIndex ((keys.map fun key => (intKey key).toNat).foldr max 0)
      entryCount := shape.entryCount + keys.length } := by
  induction keys generalizing shape with
  | nil => simp [scanKeys]
  | cons key keys ih =>
    obtain ⟨hkey, hkeys⟩ := List.forall_mem_cons.mp hkeys
    obtain ⟨hpos, h⟩ := List.forall_mem_cons.mp h
    rw [scanKeys_cons hkey, if_pos hpos, ih hkeys h]
    simp [Nat.max_assoc, Nat.add_assoc, Nat.add_comm 1]

lemma scanKeys_stopped (hkeys : ∀ key ∈ keys, isStringOrInteger key = true)
    (h : ¬∀ key ∈ keys, 0 < intKey key) (shape : TableShape) :
    (scanKeys sol keys shape).arrayLike = false := by
  induction keys generalizing shape with
  | nil => exact absurd nofun h
  | cons key keys ih =>
    obtain ⟨hkey, hkeys⟩ := List.forall_mem_cons.mp hkeys
    rw [scanKeys_cons hkey]
    split
    · rename_i hpos
      exact ih hkeys (fun hall => h (List.forall_mem_cons.mpr ⟨hpos, hall⟩)) _
    · rfl

/-- All entries are counted exactly if no key before the last one ends the loop. -/
lemma scanKeys_entryCount (sol : Sol2) (hkeys : ∀ key ∈ keys, isStringOrInteger key = true)
    (shape : TableShape) :
    (scanKeys sol keys shape).entryCount ≤ shape.entryCount + keys.length ∧
    ((scanKeys sol keys shape).entryCount = shape.entryCount + keys.length ↔
      ∀ key ∈ keys.dropLast, 0 < intKey key) := by
  induction keys generalizing shape with
  | nil => simp [scanKeys]
  | cons key keys ih =>
    obtain ⟨hkey, hkeys⟩ := List.forall_mem_cons.mp hkeys
    rw [scanKeys_cons hkey, List.length_cons, Nat.add_comm keys.length, ← Nat.add_assoc]
    cases keys with
    | nil => split <;> simp [scanKeys]
    | cons key' keys =>
      rw [List.dropLast_cons_cons, List.forall_mem_cons]
      split
      · rename_i hpos
        simpa only [hpos, true_and] using ih hkeys { shape with
          maxIndex := max shape.maxIndex (intKey key).toNat
          entryCount := shape.entryCount + 1 }
      · rename_i hpos
        simp [hpos]

lemma isArray_scanKeys (hkeys : ∀ key ∈ keys, isStringOrInteger key = true) :
    (scanKeys sol keys {}).isArray limits = takenForArray limits keys := by
  by_cases hpos : ∀ key ∈ keys, 0 < intKey key
  · rw [scanKeys_positive hkeys hpos, Bool.eq_iff_iff]
    simp only [TableShape.isArray, takenForArray, Bool.and_eq_true, beq_iff_eq, decide_eq_true_eq,
      List.all_eq_true, Nat.zero_max, Nat.zero_add, true_and]
    exact ⟨fun ⟨hmax, hsize⟩ => ⟨⟨hpos, hmax⟩, hmax ▸ hsize⟩,
      fun ⟨⟨_, hmax⟩, hsize⟩ => ⟨hmax, hmax ▸ hsize⟩⟩
  · have hstopped : (scanKeys sol keys {}).arrayLike = false := scanKeys_stopped hkeys hpos {}
    rw [Bool.eq_iff_iff]
    simp only [TableShape.isArray, takenForArray, hstopped, Bool.and_eq_true, decide_eq_true_eq,
      List.all_eq_true]
    exact ⟨fun h => absurd h.1.1 Bool.false_ne_true, fun h => absurd h.1.1 hpos⟩

lemma takenForArray_maxIndex (sol : Sol2)
    (hkeys : ∀ key ∈ keys, isStringOrInteger key = true)
    (h : takenForArray limits keys = true) :
    (scanKeys sol keys {}).maxIndex = keys.length ∧ keys.length ≤ limits.maxArrayLength ∧
      ∀ key ∈ keys, 0 < intKey key ∧ (intKey key).toNat ≤ keys.length := by
  simp only [takenForArray, Bool.and_eq_true, List.all_eq_true, decide_eq_true_eq, beq_iff_eq] at h
  obtain ⟨⟨hpos, hmax⟩, hsize⟩ := h
  rw [scanKeys_positive hkeys hpos]
  refine ⟨by simpa using hmax, hsize, fun key hkey => ⟨hpos key hkey, ?_⟩⟩
  rw [← hmax]
  exact List.le_max_of_le' 0 (List.mem_map_of_mem hkey) le_rfl

end Scan

section Received

variable (limits : PackLimits) (sol : Sol2)

def receivedTable (entries : List (TableEntry PackValue)) : List (PackValue × PackValue) :=
  let shape := scanKeys sol (entries.map (·.key)) {}
  if shape.isArray limits then storeItems 1 (arrayItems .nil shape.maxIndex entries) []
  else storePairs (entries.map fun e => (e.keyForm, e.valueForm)) []

mutual

def received : PackValue → PackValue
  | .integer n => receivedNumber (some (roundToDouble n)) 0x43E0000000000000
  | .float bits => receivedNumber (wholeDouble? bits) bits
  | .table entries => .table (receivedTable limits sol (receivedEntries entries))
  | v => v

def receivedEntries : List (PackValue × PackValue) → List (TableEntry PackValue)
  | [] => []
  | (key, value) :: rest =>
    { key, keyForm := received key, valueForm := received value } :: receivedEntries rest

end

variable {limits sol}

lemma receivedEntries_eq (entries : List (PackValue × PackValue)) :
    receivedEntries limits sol entries = entries.map fun e =>
      ⟨e.1, received limits sol e.1, received limits sol e.2⟩ := by
  induction entries with
  | nil => rfl
  | cons e rest ih => rw [receivedEntries, ih, List.map_cons]

lemma encodeEntries_eq (depth : Nat) (entries : List (PackValue × PackValue)) :
    encodeEntries limits sol depth entries = entries.map fun e =>
      ⟨e.1, encodeValue limits sol depth e.1, encodeValue limits sol depth e.2⟩ := by
  induction entries with
  | nil => rfl
  | cons e rest ih => rw [encodeEntries, ih, List.map_cons]

lemma arrayItems_map {α : Type} (absent : α) (size : Nat) (entries : List (PackValue × PackValue))
    (f : PackValue × PackValue → α) (g : PackValue × PackValue → α) :
    arrayItems absent size (entries.map fun e => ⟨e.1, f e, g e⟩) =
      (List.range' 1 size).map fun i =>
        match entries.find? fun e => e.1.isIndex i with
        | some e => g e
        | none => absent := by
  rw [List.range'_eq_map_range, List.map_map]
  refine List.map_congr_left fun i _ => ?_
  rw [List.find?_map, Function.comp_apply, Nat.add_comm 1 i]
  cases hfind : entries.find? fun e => e.1.isIndex (i + 1) with
  | none =>
    have hnone : List.find? ((fun e : TableEntry α => e.key.isIndex (i + 1)) ∘
        fun e => ⟨e.1, f e, g e⟩) entries = none := hfind
    rw [hnone]
    rfl
  | some e =>
    have hsome : List.find? ((fun e : TableEntry α => e.key.isIndex (i + 1)) ∘
        fun e => ⟨e.1, f e, g e⟩) entries = some e := hfind
    rw [hsome]
    rfl

variable {bytes : List UInt8} {encode : PackValue → Except String (List UInt8)}

lemma joinPacked_cons_ok {part : Except String (List UInt8)}
    {parts : List (Except String (List UInt8))} (h : joinPacked (part :: parts) = .ok data) :
    ∃ head tail, part = .ok head ∧ joinPacked parts = .ok tail ∧ data = head ++ tail := by
  obtain ⟨head, hhead, h⟩ := ok_of_bind_ok h
  obtain ⟨tail, htail, h⟩ := ok_of_bind_ok h
  cases h
  exact ⟨head, tail, hhead, htail, rfl⟩

lemma backedItems_of_join {ι : Type} {xs : List ι} {encode : ι → Except String (List UInt8)}
    {value : ι → PackValue} (h : ∀ x ∈ xs, ∀ bytes, encode x = .ok bytes → Packed bytes (value x))
    (hjoin : joinPacked (xs.map encode) = .ok data) (rest : List UInt8) :
    BackedItems (data ++ rest) (xs.map value) data.length := by
  induction xs generalizing data with
  | nil =>
    cases hjoin
    exact .nil rest
  | cons x xs ih =>
    obtain ⟨head, tail, hhead, htail, rfl⟩ := joinPacked_cons_ok hjoin
    have hrest := ih (fun y hy => h y (List.mem_cons_of_mem _ hy)) htail
    rw [List.append_assoc, List.length_append]
    exact .cons (h x List.mem_cons_self head hhead _) (by rwa [List.drop_left])

lemma joinPacked_entries_ok (hjoin : joinPacked ((e :: entries).map fun e =>
      encodeMapEntry ⟨e.1, encode e.1, encode e.2⟩) = .ok data) :
    ∃ keyBytes valueBytes tail, encode e.1 = .ok keyBytes ∧ encode e.2 = .ok valueBytes ∧
      joinPacked (entries.map fun e => encodeMapEntry ⟨e.1, encode e.1, encode e.2⟩) = .ok tail ∧
      data = keyBytes ++ (valueBytes ++ tail) := by
  obtain ⟨head, tail, hhead, htail, rfl⟩ := joinPacked_cons_ok hjoin
  simp only [encodeMapEntry] at hhead
  split at hhead
  · obtain ⟨keyBytes, rest, hkeyBytes, hrest, rfl⟩ := joinPacked_cons_ok hhead
    obtain ⟨valueBytes, none, hvalueBytes, hnone, rfl⟩ := joinPacked_cons_ok hrest
    cases hnone
    exact ⟨keyBytes, valueBytes, tail, hkeyBytes, hvalueBytes, htail, by simp⟩
  · cases hhead

lemma backedPairs_of_join {value : PackValue → PackValue}
    (hkey : ∀ e ∈ entries, tableKey (value e.1) = .ok (value e.1))
    (h : ∀ e ∈ entries, (∀ bytes, encode e.1 = .ok bytes → Packed bytes (value e.1)) ∧
      ∀ bytes, encode e.2 = .ok bytes → Packed bytes (value e.2))
    (hjoin : joinPacked (entries.map fun e => encodeMapEntry ⟨e.1, encode e.1, encode e.2⟩) =
      .ok data) (rest : List UInt8) :
    BackedPairs (data ++ rest) (entries.map fun e => (value e.1, value e.2)) data.length := by
  induction entries generalizing data with
  | nil =>
    cases hjoin
    exact .nil rest
  | cons e entries ih =>
    obtain ⟨keyBytes, valueBytes, tail, hkeyBytes, hvalueBytes, htail, rfl⟩ :=
      joinPacked_entries_ok hjoin
    obtain ⟨hfirst, hsecond⟩ := h e List.mem_cons_self
    have hrest := ih (fun e he => hkey e (List.mem_cons_of_mem _ he))
      (fun e he => h e (List.mem_cons_of_mem _ he)) htail
    rw [List.append_assoc, List.append_assoc, List.length_append, List.length_append,
      ← Nat.add_assoc]
    refine .cons (hfirst _ hkeyBytes _) ?_ (hkey e List.mem_cons_self) ?_
    · rw [List.drop_left]
      exact hsecond _ hvalueBytes _
    · rwa [List.drop_left, List.drop_left]

lemma ok_of_checkDepth {depth : Nat} {result : Except String (List UInt8)}
    (h : checkDepth limits depth result = .ok bytes) : result = .ok bytes := by
  rw [checkDepth] at h
  split at h
  · cases h
  · exact h

lemma received_integer {n : Int} (h : n.natAbs ≤ 2 ^ 53) :
    received limits sol (.integer n) = .integer n := by
  have hrange : -2 ^ 63 ≤ n ∧ n < 2 ^ 63 := by omega
  rw [received, roundToDouble_of_exactDouble (exactDouble_of_le h), receivedNumber, if_pos hrange]

lemma received_key (hkey : isStringOrInteger key = true) (h : Packable key) :
    received limits sol key = key := by
  cases key with
  | string => rfl
  | integer => exact received_integer h
  | nil | boolean | float | table | handle | other => cases hkey

lemma tableKey_of_isStringOrInteger (h : isStringOrInteger key = true) :
    tableKey key = .ok key := by
  cases key with
  | string | integer => rfl
  | nil | boolean | float | table | handle | other => cases h

lemma isNil_received (v : PackValue) : (received limits sol v).isNil = v.isNil := by
  have hnumber : ∀ (value : Option Int) (bits : UInt64), (receivedNumber value bits).isNil = false := by
    intro value bits
    unfold receivedNumber
    split
    · split <;> rfl
    · rfl
  cases v with
  | integer | float =>
    rw [received]
    exact hnumber _ _
  | nil | boolean | string | table | handle | other => rfl

/-- The limits of the encoder are within the words that it writes. -/
structure FitsWords (limits : PackLimits) : Prop where
  string : 5 + limits.maxStringLength < 2 ^ 32
  array : limits.maxArrayLength < 2 ^ 31
  map : limits.maxMapEntries < 2 ^ 32

lemma FitsWords.maxIndex_lt (h : FitsWords limits) {shape : TableShape}
    (harray : shape.isArray limits = true) : shape.maxIndex < 2 ^ 32 := by
  have hbound := h.array
  simp only [TableShape.isArray, Bool.and_eq_true, decide_eq_true_eq] at harray
  omega

lemma packed_string (hlimits : FitsWords limits) {s : List UInt8}
    (h : encodeString limits s = .ok bytes) : Packed bytes (.string s) := by
  rw [encodeString] at h
  split at h
  · split at h
    · cases h
    have hfits := hlimits.string
    cases h
    intro rest
    have hread : s.length = readUint (writeUint s.length 4 .little) .little := by
      rw [readUint_writeUint _ 4 .little (by norm_num) (by norm_num; omega)]
    have hpacked := Backed.string (length_writeUint s.length 4 .little) hread rest
    rw [Nat.mod_eq_of_lt (by omega)] at hpacked
    simpa [length_writeUint, Nat.add_comm, Nat.add_left_comm] using hpacked
  · cases h
    intro rest
    have hlen : s.length = (UInt8.ofNat s.length).toNat := by
      rw [UInt8.toNat_ofNat', Nat.mod_eq_of_lt (by omega)]
    have hpacked := Backed.shortString hlen rest
    rwa [Nat.add_comm] at hpacked

lemma packed_length {tag : UInt8} {size : Nat} {rest : List UInt8} {value : PackValue}
    (h : Backed (tag :: (writeUint size 4 .little ++ (data ++ rest))) value (5 + data.length)) :
    Backed (tag :: (writeUint size 4 .little ++ data) ++ rest) value
      (tag :: (writeUint size 4 .little ++ data)).length := by
  have hlength : (tag :: (writeUint size 4 .little ++ data)).length = 5 + data.length := by
    rw [List.length_cons, List.length_append, length_writeUint]
    omega
  rwa [hlength, List.cons_append, List.append_assoc]

section Table

variable {encode : PackValue → Except String (List UInt8)} {value : PackValue → PackValue}

lemma packed_array {size : Nat} (hsize : size < 2 ^ 32)
    (habsent : ∀ bytes, absent = .ok bytes → Packed bytes .nil)
    (h : ∀ e ∈ entries, ∀ bytes, encode e.2 = .ok bytes → Packed bytes (value e.2))
    (hjoin : joinPacked (arrayItems absent size
      (entries.map fun e => ⟨e.1, encode e.1, encode e.2⟩)) = .ok data) :
    Packed (TypeTag.array.byte :: (writeUint size 4 .little ++ data))
      (.table (storeItems 1 (arrayItems .nil size
        (entries.map fun e => ⟨e.1, value e.1, value e.2⟩)) [])) := by
  rw [arrayItems_map absent size entries (fun e => encode e.1) (fun e => encode e.2)] at hjoin
  rw [arrayItems_map .nil size entries (fun e => value e.1) (fun e => value e.2)]
  intro rest
  refine packed_length (.array (length_writeUint _ _ _) (backedItems_of_join ?_ hjoin rest) ?_)
  · intro i _ bytes hbytes
    cases hfind : entries.find? fun e => e.1.isIndex i with
    | none =>
      simp only [hfind] at hbytes ⊢
      exact habsent bytes hbytes
    | some e =>
      simp only [hfind] at hbytes ⊢
      exact h e (List.mem_of_find?_eq_some hfind) bytes hbytes
  · rw [List.length_map, List.length_range',
      readUint_writeUint _ 4 .little (by norm_num) (by norm_num; omega)]

lemma packed_map {pairs : List (PackValue × PackValue)} {size : Nat} (hlength : pairs.length = size)
    (hsize : size < 2 ^ 32) (h : ∀ rest, BackedPairs (data ++ rest) pairs data.length) :
    Packed (TypeTag.map.byte :: (writeUint size 4 .little ++ data)) (.table (storePairs pairs [])) := by
  intro rest
  refine packed_length (.map (length_writeUint _ _ _) (h rest) ?_)
  rw [hlength, readUint_writeUint _ 4 .little (by norm_num) (by norm_num; omega)]

end Table

lemma encodeTable_ok (h : encodeTable limits sol absent
      (entries.map fun e => ⟨e.1, encode e.1, encode e.2⟩) = .ok bytes) :
    let shape := scanKeys sol (entries.map Prod.fst) {}
    (shape.isArray limits = true ∧ ∃ data,
      joinPacked (arrayItems absent shape.maxIndex
        (entries.map fun e => ⟨e.1, encode e.1, encode e.2⟩)) = .ok data ∧
      bytes = TypeTag.array.byte :: (writeUint shape.maxIndex 4 .little ++ data)) ∨
    (shape.isArray limits = false ∧ shape.entryCount ≤ limits.maxMapEntries ∧ ∃ data,
      joinPacked (entries.map fun e => encodeMapEntry ⟨e.1, encode e.1, encode e.2⟩) = .ok data ∧
      bytes = TypeTag.map.byte :: (writeUint shape.entryCount 4 .little ++ data)) := by
  simp only [encodeTable, List.map_map] at h
  rw [show ((fun e : TableEntry _ => e.key) ∘ fun e : PackValue × PackValue =>
    ⟨e.1, encode e.1, encode e.2⟩) = Prod.fst from rfl] at h
  intro shape
  split at h
  · rename_i harray
    obtain ⟨data, hdata, h⟩ := ok_of_bind_ok h
    cases h
    exact .inl ⟨harray, data, hdata, rfl⟩
  · rename_i harray
    split at h
    · cases h
    rename_i hcount
    obtain ⟨data, hdata, h⟩ := ok_of_bind_ok h
    cases h
    exact .inr ⟨by simpa using harray, Nat.not_lt.mp hcount, data, hdata, rfl⟩

lemma received_table (entries : List (PackValue × PackValue)) :
    received limits sol (.table entries) =
      let shape := scanKeys sol (entries.map Prod.fst) {}
      .table (if shape.isArray limits then
        storeItems 1 (arrayItems .nil shape.maxIndex (entries.map fun e =>
          ⟨e.1, received limits sol e.1, received limits sol e.2⟩)) []
      else storePairs (entries.map fun e =>
        (received limits sol e.1, received limits sol e.2)) []) := by
  rw [received, receivedEntries_eq, receivedTable, List.map_map, List.map_map]
  rfl

/-- What the encoder writes stands for the received value. -/
theorem packed_received (hlimits : FitsWords limits) (v : PackValue) (hpack : Everywhere Packable v)
    (hcount : Everywhere (Counted limits) v) (depth : Nat) (bytes : List UInt8)
    (h : encodeValue limits sol depth v = .ok bytes) :
    Packed bytes (received limits sol v) := by
  induction v using pack_induction generalizing depth bytes with
  | atom v hv =>
    cases v with
    | nil =>
      cases ok_of_checkDepth h
      exact .nil
    | boolean b =>
      cases ok_of_checkDepth h
      exact .boolean b
    | integer | float =>
      cases ok_of_checkDepth h
      exact packed_encodeNumber _ _
    | string => exact packed_string hlimits (ok_of_checkDepth h)
    | table entries => exact absurd rfl (hv entries)
    | handle => exact hcount.here.elim
    | other => exact hpack.here.elim
  | table entries ih =>
    obtain ⟨-, hkeys⟩ := hpack.here
    have hkinds := isStringOrInteger_keys hpack.here
    have hall : (scanKeys sol (entries.map Prod.fst) {}).entryCount = entries.length := by
      simpa using (scanKeys_entryCount sol hkinds {}).2.mpr hcount.here.1
    have hpacked : ∀ e ∈ entries,
        (∀ bytes, encodeValue limits sol (depth + 1) e.1 = .ok bytes →
          Packed bytes (received limits sol e.1)) ∧
        ∀ bytes, encodeValue limits sol (depth + 1) e.2 = .ok bytes →
          Packed bytes (received limits sol e.2) := by
      intro e he
      obtain ⟨hkey, hvalue⟩ := ih e he
      exact ⟨fun bytes => hkey (hpack.entry he).1 (hcount.entry he).1 _ bytes,
        fun bytes => hvalue (hpack.entry he).2 (hcount.entry he).2 _ bytes⟩
    rw [encodeValue, encodeEntries_eq] at h
    rw [received_table]
    rcases encodeTable_ok (ok_of_checkDepth h) with ⟨harray, data, hdata, rfl⟩ |
      ⟨hmap, hfew, data, hdata, rfl⟩
    · simp only [harray, if_true]
      refine packed_array (hlimits.maxIndex_lt harray) ?_ (fun e he => (hpacked e he).2) hdata
      intro bytes hnil rest
      cases ok_of_checkDepth hnil
      exact .nil rest
    · simp only [hmap, Bool.false_eq_true, if_false]
      rw [hall] at hfew ⊢
      refine packed_map (List.length_map _) (hfew.trans_lt hlimits.map)
        (backedPairs_of_join ?_ hpacked hdata)
      intro e he
      obtain ⟨hkey, -⟩ := hkeys e he
      rw [received_key hkey (hpack.entry he).1.here]
      exact tableKey_of_isStringOrInteger hkey

lemma storeEntry_new {value : PackValue} (hnew : ∀ e ∈ entries, e.1.sameKey key = false)
    (hvalue : value.isNil = false) : storeEntry key value entries = entries ++ [(key, value)] := by
  induction entries with
  | nil => simp [storeEntry, hvalue]
  | cons e entries ih =>
    rw [storeEntry, hnew e List.mem_cons_self, ih fun e he => hnew e (List.mem_cons_of_mem _ he)]
    rfl

lemma storePairs_eq {pairs : List (PackValue × PackValue)} (hvalue : ∀ p ∈ pairs, p.2.isNil = false)
    (hkeys : (entries ++ pairs).Pairwise fun e e' => e.1.sameKey e'.1 = false) :
    storePairs pairs entries = entries ++ pairs := by
  induction pairs generalizing entries with
  | nil => rw [storePairs, List.append_nil]
  | cons p pairs ih =>
    have hnew : ∀ e ∈ entries, e.1.sameKey p.1 = false := fun e he =>
      (List.pairwise_append.mp hkeys).2.2 e he p List.mem_cons_self
    rw [storePairs, storeEntry_new hnew (hvalue p List.mem_cons_self),
      ih (fun p hp => hvalue p (List.mem_cons_of_mem _ hp)) (by simpa using hkeys)]
    simp

lemma storeItems_range {item : Nat → PackValue} (count index : Nat)
    (hitem : ∀ k ∈ List.range' index count, (item k).isNil = false)
    (hnew : ∀ e ∈ entries, ∀ k, index ≤ k → e.1.sameKey (.integer k) = false) :
    storeItems index ((List.range' index count).map item) entries =
      entries ++ (List.range' index count).map fun k => (.integer k, item k) := by
  induction count generalizing index entries with
  | zero => simp [storeItems]
  | succ count ih =>
    rw [List.range'_succ, List.map_cons, storeItems,
      storeEntry_new (fun e he => hnew e he index le_rfl)
        (hitem index (by simp [List.range'_succ])), ih (index + 1)]
    · simp
    · intro k hk
      exact hitem k (by rw [List.range'_succ]; exact List.mem_cons_of_mem _ hk)
    · intro e he k hk
      rcases List.mem_append.mp he with he | he
      · exact hnew e he k (by omega)
      obtain rfl := List.mem_singleton.mp he
      simp only [PackValue.sameKey, beq_eq_false_iff_ne, ne_eq, Nat.cast_inj]
      omega

def keyIndex : PackValue → Nat
  | .integer n => n.toNat
  | _ => 0

lemma eq_integer_keyIndex {bound : Nat} (hkind : isStringOrInteger key = true)
    (hfits : fitsInt key = true) (hpos : 0 < intKey key) (hbound : (intKey key).toNat ≤ bound) :
    key = .integer (keyIndex key) ∧ 1 ≤ keyIndex key ∧ keyIndex key ≤ bound := by
  cases key with
  | integer n =>
    have hn : toInt32 n = n := by simpa [fitsInt] using hfits
    rw [intKey, hn] at hpos hbound
    refine ⟨?_, ?_, hbound⟩
    · rw [keyIndex, Int.toNat_of_nonneg hpos.le]
    · rw [keyIndex]
      omega
  | string => cases hpos
  | nil | boolean | float | table | handle | other => cases hkind

lemma find?_isIndex (hdistinct : entries.Pairwise fun e e' => e.1.sameKey e'.1 = false)
    (he : e ∈ entries) {k : Nat} (hk : e.1 = .integer k) :
    entries.find? (fun e => e.1.isIndex k) = some e := by
  induction entries with
  | nil => cases he
  | cons first rest ih =>
    obtain ⟨hfirst, hrest⟩ := List.pairwise_cons.mp hdistinct
    rcases List.mem_cons.mp he with rfl | he
    · exact List.find?_cons_of_pos (by simp [hk, PackValue.isIndex])
    have hother : first.1.isIndex k = false := by
      have hne := hfirst e he
      rw [hk] at hne
      cases hkey : first.1 with
      | integer => simpa [hkey, PackValue.sameKey, PackValue.isIndex] using hne
      | nil | boolean | float | string | table | handle | other => rfl
    rw [List.find?_cons_of_neg (by simp [hother])]
    exact ih hrest he

lemma keyIndex_perm (hdistinct : entries.Pairwise fun e e' => e.1.sameKey e'.1 = false)
    (hkeys : ∀ e ∈ entries, e.1 = .integer (keyIndex e.1) ∧ 1 ≤ keyIndex e.1 ∧
      keyIndex e.1 ≤ entries.length) :
    (entries.map fun e => keyIndex e.1).Perm (List.range' 1 entries.length) := by
  have hnodup : (entries.map fun e => keyIndex e.1).Nodup := by
    refine List.pairwise_map.mpr (hdistinct.imp_of_mem ?_)
    intro e e' he he' hdiff heq
    rw [(hkeys e he).1, (hkeys e' he').1, heq] at hdiff
    simp [PackValue.sameKey] at hdiff
  have hsubset : (entries.map fun e => keyIndex e.1) ⊆ List.range' 1 entries.length := by
    intro k hk
    obtain ⟨e, he, rfl⟩ := List.mem_map.mp hk
    obtain ⟨-, hlow, hhigh⟩ := hkeys e he
    exact List.mem_range'_1.mpr ⟨hlow, by omega⟩
  exact (List.subperm_of_subset hnodup hsubset).perm_of_length_le (by simp)

lemma storeItems_perm (f : PackValue → PackValue) (hf : ∀ v, (f v).isNil = v.isNil)
    (hdistinct : entries.Pairwise fun e e' => e.1.sameKey e'.1 = false)
    (hvalues : ∀ e ∈ entries, e.2.isNil = false)
    (hkeys : ∀ e ∈ entries, e.1 = .integer (keyIndex e.1) ∧ 1 ≤ keyIndex e.1 ∧
      keyIndex e.1 ≤ entries.length) :
    (entries.map fun e => (e.1, f e.2)).Perm
      (storeItems 1 (arrayItems .nil entries.length
        (entries.map fun e => ⟨e.1, f e.1, f e.2⟩)) []) := by
  let item : Nat → PackValue := fun k =>
    match entries.find? fun e => e.1.isIndex k with
    | some e => f e.2
    | none => .nil
  have hperm := keyIndex_perm hdistinct hkeys
  have hitem : ∀ e ∈ entries, item (keyIndex e.1) = f e.2 := by
    intro e he
    simp only [item, find?_isIndex hdistinct he (hkeys e he).1]
  have hnotNil : ∀ k ∈ List.range' 1 entries.length, (item k).isNil = false := by
    intro k hk
    obtain ⟨e, he, rfl⟩ := List.mem_map.mp (hperm.mem_iff.mpr hk)
    rw [hitem e he, hf, hvalues e he]
  have harray : arrayItems .nil entries.length (entries.map fun e => ⟨e.1, f e.1, f e.2⟩) =
      (List.range' 1 entries.length).map item :=
    arrayItems_map .nil entries.length entries (fun e => f e.1) (fun e => f e.2)
  rw [harray, storeItems_range entries.length 1 hnotNil (by simp), List.nil_append]
  have hentries : (entries.map fun e => (e.1, f e.2)) =
      (entries.map fun e => keyIndex e.1).map fun k => (.integer k, item k) := by
    rw [List.map_map]
    refine List.map_congr_left fun e he => ?_
    rw [Function.comp_apply, hitem e he, ← (hkeys e he).1]
  rw [hentries]
  exact hperm.map _

/-- The received value is the same one. -/
theorem sameValue_received (v : PackValue) (hpack : Everywhere Packable v)
    (hcount : Everywhere (Counted limits) v) : SameValue v (received limits sol v) := by
  induction v using pack_induction with
  | atom v hv =>
    cases v with
    | nil => exact .nil
    | boolean b => exact .boolean b
    | integer n =>
      rw [received_integer hpack.here]
      exact .integer n
    | float bits =>
      rw [received]
      cases hwhole : wholeDouble? bits with
      | none => exact .float bits
      | some =>
        rw [receivedNumber]
        split
        · exact .whole hwhole
        · exact .float bits
    | string s => exact .string s
    | table entries => exact absurd rfl (hv entries)
    | handle => exact hcount.here.elim
    | other => exact hpack.here.elim
  | table entries ih =>
    obtain ⟨hdistinct, hentries⟩ := hpack.here
    have hkinds := isStringOrInteger_keys hpack.here
    have hkey : ∀ e ∈ entries, received limits sol e.1 = e.1 := fun e he =>
      received_key (hentries e he).1 (hpack.entry he).1.here
    have hsame := sameEntries_map (f := received limits sol) fun e he =>
      ⟨(ih e he).1 (hpack.entry he).1 (hcount.entry he).1,
        (ih e he).2 (hpack.entry he).2 (hcount.entry he).2⟩
    have hpairs : (entries.map fun e =>
        (received limits sol e.1, received limits sol e.2)) =
        entries.map fun e => (e.1, received limits sol e.2) :=
      List.map_congr_left fun e he => by rw [hkey e he]
    rw [hpairs] at hsame
    rw [received_table]
    refine .table hsame ?_
    split
    · rename_i harray
      rw [isArray_scanKeys hkinds] at harray
      obtain ⟨hmax, -, hindices⟩ := takenForArray_maxIndex sol hkinds harray
      rw [hmax, List.length_map]
      refine storeItems_perm _ isNil_received hdistinct (fun e he => (hentries e he).2) ?_
      intro e he
      obtain ⟨hpos, hbound⟩ := hindices e.1 (List.mem_map_of_mem he)
      rw [List.length_map] at hbound
      exact eq_integer_keyIndex (hentries e he).1 (hcount.here.2 harray e he) hpos hbound
    · rw [hpairs, storePairs_eq, List.nil_append]
      · intro p hp
        obtain ⟨e, he, rfl⟩ := List.mem_map.mp hp
        rw [isNil_received, (hentries e he).2]
      · rw [List.nil_append]
        exact List.pairwise_map.mpr hdistinct

section Converse

lemma backed_array_inv {len : List UInt8} {w : PackValue} {n : Nat} (hword : len.length = 4)
    (h : Backed (TypeTag.array.byte :: (len ++ data)) w n) :
    ∃ items k, BackedItems data items k ∧ items.length = readUint len .little ∧
      w = .table (storeItems 1 items []) ∧ n = 5 + k := by
  have hdecode := decodeValue_of_backed h _ le_rfl
  rw [List.length_cons, decodeValue_array _ hword] at hdecode
  have hsound := decodeItems_sound (decodeValue_sound (len ++ data).length) (readUint len .little) 1
    data [] 5
  rw [hdecode] at hsound
  exact hsound

lemma backed_map_inv {len : List UInt8} {w : PackValue} {n : Nat} (hword : len.length = 4)
    (h : Backed (TypeTag.map.byte :: (len ++ data)) w n) :
    ∃ pairs k, BackedPairs data pairs k ∧ pairs.length = readUint len .little ∧
      w = .table (storePairs pairs []) ∧ n = 5 + k := by
  have hdecode := decodeValue_of_backed h _ le_rfl
  rw [List.length_cons, decodeValue_map _ hword] at hdecode
  have hsound := decodeEntries_sound (decodeValue_sound (len ++ data).length) (readUint len .little)
    data [] 5
  rw [hdecode] at hsound
  exact hsound

lemma length_storeEntry_le (key value : PackValue) (entries : List (PackValue × PackValue)) :
    (storeEntry key value entries).length ≤ entries.length + 1 := by
  induction entries with
  | nil => rw [storeEntry]; split <;> simp
  | cons e entries ih =>
    rw [storeEntry]
    split
    · split
      · simp only [List.length_cons]
        omega
      · simp
    · simpa using ih

lemma storeEntry_grows {value : PackValue}
    (h : entries.length + 1 ≤ (storeEntry key value entries).length) :
    storeEntry key value entries = entries ++ [(key, value)] ∧ value.isNil = false := by
  induction entries with
  | nil =>
    rw [storeEntry] at h ⊢
    split at h
    · simp at h
    · rename_i hnil
      simp [hnil]
  | cons e entries ih =>
    rw [storeEntry] at h ⊢
    split at h
    · split at h <;> simp at h
    · rename_i hother
      obtain ⟨heq, hnil⟩ := ih (by simpa using h)
      rw [if_neg hother, heq]
      exact ⟨rfl, hnil⟩

lemma length_storePairs_le (pairs entries : List (PackValue × PackValue)) :
    (storePairs pairs entries).length ≤ entries.length + pairs.length := by
  induction pairs generalizing entries with
  | nil => simp [storePairs]
  | cons p pairs ih =>
    have hstore := length_storeEntry_le p.1 p.2 entries
    have hrest := ih (storeEntry p.1 p.2 entries)
    rw [storePairs, List.length_cons]
    omega

/-- A table that has as many entries as were stored has those. -/
lemma storePairs_grows {pairs : List (PackValue × PackValue)}
    (h : entries.length + pairs.length ≤ (storePairs pairs entries).length) :
    storePairs pairs entries = entries ++ pairs ∧ ∀ p ∈ pairs, p.2.isNil = false := by
  induction pairs generalizing entries with
  | nil => simp [storePairs]
  | cons p pairs ih =>
    rw [storePairs] at h ⊢
    have hrest := length_storePairs_le pairs (storeEntry p.1 p.2 entries)
    have hstore := length_storeEntry_le p.1 p.2 entries
    rw [List.length_cons] at h
    have hgrows : entries.length + 1 ≤ (storeEntry p.1 p.2 entries).length := by omega
    obtain ⟨heq, hnil⟩ := storeEntry_grows hgrows
    obtain ⟨hpairs, hnils⟩ : storePairs pairs (storeEntry p.1 p.2 entries) = _ ∧ _ := ih (by omega)
    rw [hpairs, heq]
    exact ⟨by simp, List.forall_mem_cons.mpr ⟨hnil, hnils⟩⟩

def numbered : Nat → List PackValue → List (PackValue × PackValue)
  | _, [] => []
  | index, item :: items => (.integer index, item) :: numbered (index + 1) items

lemma storeItems_eq_storePairs (index : Nat) (items : List PackValue)
    (entries : List (PackValue × PackValue)) :
    storeItems index items entries = storePairs (numbered index items) entries := by
  induction items generalizing index entries with
  | nil => rfl
  | cons item items ih => rw [storeItems, numbered, storePairs, ih]

lemma length_numbered (index : Nat) (items : List PackValue) :
    (numbered index items).length = items.length := by
  induction items generalizing index with
  | nil => rfl
  | cons item items ih => rw [numbered, List.length_cons, List.length_cons, ih]

lemma sameEntries_inv {matched : List (PackValue × PackValue)} (h : SameEntries entries matched) :
    matched.length = entries.length ∧
    ∀ p ∈ matched, ∃ e ∈ entries, SameValue e.1 p.1 ∧ SameValue e.2 p.2 := by
  induction entries generalizing matched with
  | nil =>
    cases h
    simp
  | cons e entries ih =>
    obtain ⟨k, v⟩ := e
    cases h with
    | cons hkey hvalue hrest =>
      obtain ⟨hlength, hmatched⟩ := ih hrest
      refine ⟨by simp [hlength], List.forall_mem_cons.mpr ⟨⟨(k, v), by simp, hkey, hvalue⟩, ?_⟩⟩
      intro p hp
      obtain ⟨e', he', hsame⟩ := hmatched p hp
      exact ⟨e', List.mem_cons_of_mem _ he', hsame⟩

lemma sameKey_self (h : isStringOrInteger key = true) : key.sameKey key = true := by
  cases key with
  | string | integer => simp [PackValue.sameKey]
  | nil | boolean | float | table | handle | other => cases h

lemma entry_unique (hdistinct : entries.Pairwise fun e e' => e.1.sameKey e'.1 = false)
    {e' : PackValue × PackValue} (he' : e' ∈ entries) (he : e ∈ entries) (hkeys : e'.1 = e.1)
    (hkind : isStringOrInteger e.1 = true) : e' = e := by
  have hsame : e'.1.sameKey e.1 = true ∧ e.1.sameKey e'.1 = true := by
    rw [hkeys]
    exact ⟨sameKey_self hkind, sameKey_self hkind⟩
  induction entries with
  | nil => cases he
  | cons first rest ih =>
    obtain ⟨hfirst, hrest⟩ := List.pairwise_cons.mp hdistinct
    rcases List.mem_cons.mp he' with rfl | he' <;> rcases List.mem_cons.mp he with rfl | he
    · rfl
    · exact absurd (hfirst e he) (by simp [hsame.1])
    · exact absurd (hfirst e' ‹_›) (by simp [hsame.2])
    · exact ih hrest he' he

lemma eq_of_sameValue_key {key' : PackValue} (h : isStringOrInteger key = true)
    (hsame : SameValue key key') : key = key' := by
  cases hsame with
  | string | integer => rfl
  | nil | boolean | float | whole | table | handle => cases h

/-- The entries of equal tables under one key have equal values. -/
lemma sameValue_of_key {received : List (PackValue × PackValue)} (hpack : Packable (.table entries))
    (hsame : SameValue (.table entries) (.table received)) :
    received.length = entries.length ∧
    ∀ p ∈ received, ∀ e ∈ entries, e.1 = p.1 → SameValue e.2 p.2 := by
  obtain ⟨hdistinct, hentries⟩ := hpack
  cases hsame with
  | @table _ matched _ hmatched hperm =>
    obtain ⟨hlength, hfrom⟩ := sameEntries_inv hmatched
    refine ⟨hperm.length_eq.symm.trans hlength, fun p hp e he hkey => ?_⟩
    obtain ⟨e', he', hkey', hvalue⟩ := hfrom p (hperm.mem_iff.mpr hp)
    have hkeys : e'.1 = e.1 := (eq_of_sameValue_key (hentries e' he').1 hkey').trans hkey.symm
    rwa [← entry_unique hdistinct he' he hkeys (hentries e he).1]

/-- If what the decoder makes of the bytes of a value equals it, the entries are counted right. -/
def CountedIfSame (limits : PackLimits) (sol : Sol2) (depth : Nat) (v : PackValue) : Prop :=
  ∀ bytes, encodeValue limits sol depth v = .ok bytes → ∀ rest w n, Backed (bytes ++ rest) w n →
    SameValue v w → Everywhere (Counted limits) v

variable {depth n k : Nat} {rest : List UInt8} {v w : PackValue}

lemma backed_exact (hlimits : FitsWords limits) (hpack : Everywhere Packable v)
    (hcount : Everywhere (Counted limits) v) (h : encodeValue limits sol depth v = .ok bytes)
    (hback : Backed (bytes ++ rest) w n) : w = received limits sol v ∧ n = bytes.length :=
  backed_unique hback (packed_received hlimits v hpack hcount depth bytes h rest)

lemma everywhere_counted_key (h : isStringOrInteger key = true) : Everywhere (Counted limits) key := by
  cases key with
  | string | integer => exact everywhere_atom nofun trivial
  | nil | boolean | float | table | handle | other => cases h

lemma counted_of_pairs (hlimits : FitsWords limits) {pairs : List (PackValue × PackValue)}
    (hpack : ∀ e ∈ entries, isStringOrInteger e.1 = true ∧ Everywhere Packable e.1 ∧
      Everywhere Packable e.2)
    (ih : ∀ e ∈ entries, CountedIfSame limits sol depth e.2)
    (hjoin : joinPacked (entries.map fun e => encodeMapEntry
      ⟨e.1, encodeValue limits sol depth e.1, encodeValue limits sol depth e.2⟩) = .ok data)
    (hpairs : BackedPairs (data ++ rest) pairs k) (hlength : pairs.length = entries.length)
    (hsame : ∀ p ∈ pairs, ∀ e ∈ entries, e.1 = p.1 → SameValue e.2 p.2) :
    ∀ e ∈ entries, Everywhere (Counted limits) e.2 := by
  induction entries generalizing data pairs k with
  | nil => simp
  | cons e entries ihEntries =>
    obtain ⟨keyBytes, valueBytes, tail, hkeyBytes, hvalueBytes, htail, rfl⟩ :=
      joinPacked_entries_ok hjoin
    obtain ⟨⟨hkind, hkeyPack, hvaluePack⟩, hpack⟩ := List.forall_mem_cons.mp hpack
    obtain ⟨hcounted, ih⟩ := List.forall_mem_cons.mp ih
    cases hpairs with
    | nil => cases hlength
    | cons hkey hvalue hstored hrest =>
      rw [List.append_assoc, List.append_assoc] at hkey hvalue hrest
      -- the key is read as it is, and the value right behind it
      obtain ⟨rfl, rfl⟩ := backed_exact hlimits hkeyPack (everywhere_counted_key hkind) hkeyBytes hkey
      rw [received_key hkind hkeyPack.here, tableKey_of_isStringOrInteger hkind] at hstored
      cases hstored
      rw [List.drop_left] at hvalue hrest
      have hfirst := hcounted valueBytes hvalueBytes _ _ _ hvalue
        (hsame _ List.mem_cons_self e List.mem_cons_self rfl)
      obtain ⟨-, rfl⟩ := backed_exact hlimits hvaluePack hfirst hvalueBytes hvalue
      rw [List.drop_left] at hrest
      exact List.forall_mem_cons.mpr ⟨hfirst, ihEntries hpack ih htail hrest (by simpa using hlength)
        fun p hp e he => hsame p (List.mem_cons_of_mem _ hp) e (List.mem_cons_of_mem _ he)⟩

lemma eq_integer_of_isIndex {i : Nat} (h : key.isIndex i = true) : key = .integer i := by
  cases key with
  | integer => simpa [PackValue.isIndex] using h
  | nil | boolean | float | string | table | handle | other => cases h

lemma counted_of_items (hlimits : FitsWords limits) {items : List PackValue} {count index : Nat}
    (hpack : ∀ e ∈ entries, Everywhere Packable e.2)
    (ih : ∀ e ∈ entries, CountedIfSame limits sol depth e.2)
    (hjoin : joinPacked ((List.range' index count).map fun i =>
      match entries.find? fun e => e.1.isIndex i with
      | some e => encodeValue limits sol depth e.2
      | none => encodeValue limits sol depth .nil) = .ok data)
    (hitems : BackedItems (data ++ rest) items k) (hlength : items.length = count)
    (hnil : ∀ p ∈ numbered index items, p.2.isNil = false)
    (hsame : ∀ p ∈ numbered index items, ∀ e ∈ entries, e.1 = p.1 → SameValue e.2 p.2) :
    ∀ i ∈ List.range' index count, ∃ e ∈ entries, e.1 = .integer i ∧
      Everywhere (Counted limits) e.2 := by
  induction count generalizing index data items k with
  | zero => simp
  | succ count ihCount =>
    rw [List.range'_succ, List.map_cons] at hjoin
    obtain ⟨head, tail, hhead, htail, rfl⟩ := joinPacked_cons_ok hjoin
    cases hitems with
    | nil => cases hlength
    | @cons _ item items n m hitem hrest =>
      rw [List.append_assoc] at hitem hrest
      obtain ⟨hfirst, hnil⟩ := List.forall_mem_cons.mp hnil
      obtain ⟨hsameFirst, hsame⟩ := List.forall_mem_cons.mp hsame
      cases hfind : entries.find? fun e => e.1.isIndex index with
      | none =>
        -- an index without an entry is read as nil, which is not stored
        rw [hfind] at hhead
        cases ok_of_checkDepth hhead
        obtain ⟨rfl, -⟩ := backed_unique hitem (.nil _)
        cases hfirst
      | some e =>
        rw [hfind] at hhead
        have he := List.mem_of_find?_eq_some hfind
        have hkey := eq_integer_of_isIndex
          (List.find?_some (p := fun e : PackValue × PackValue => e.1.isIndex index) hfind)
        have hcounted := ih e he head hhead _ _ _ hitem (hsameFirst e he hkey)
        obtain ⟨-, rfl⟩ := backed_exact hlimits (hpack e he) hcounted hhead hitem
        rw [List.drop_left] at hrest
        rw [List.range'_succ]
        exact List.forall_mem_cons.mpr ⟨⟨e, he, hkey, hcounted⟩,
          ihCount htail hrest (by simpa using hlength) hnil hsame⟩

/-- Entries that have all the indices up to their number have no other keys. -/
lemma keys_of_indices (h : ∀ i ∈ List.range' 1 entries.length, ∃ e ∈ entries, e.1 = .integer i)
    (he : e ∈ entries) : ∃ i ∈ List.range' 1 entries.length, e.1 = .integer i := by
  have hnodup : ((List.range' 1 entries.length).map fun i : Nat => PackValue.integer i).Nodup :=
    List.Nodup.map (fun a b hab => by simpa using hab) List.nodup_range'
  have hsubset : ((List.range' 1 entries.length).map fun i : Nat => PackValue.integer i) ⊆
      entries.map Prod.fst := by
    intro key hkey
    obtain ⟨i, hi, rfl⟩ := List.mem_map.mp hkey
    obtain ⟨e, he, hkey⟩ := h i hi
    exact hkey ▸ List.mem_map_of_mem he
  have hperm := (List.subperm_of_subset hnodup hsubset).perm_of_length_le (by simp)
  obtain ⟨i, hi, hkey⟩ := List.mem_map.mp (hperm.mem_iff.mpr (List.mem_map_of_mem he))
  exact ⟨i, hi, hkey.symm⟩

variable (hlimits : FitsWords limits)
include hlimits

section

variable (hpack : Everywhere Packable (.table entries))
  (ih : ∀ e ∈ entries, CountedIfSame limits sol depth e.2)
include hpack ih

lemma counted_array {items : List PackValue}
    (htaken : takenForArray limits (entries.map Prod.fst) = true)
    (hjoin : joinPacked ((List.range' 1 entries.length).map fun i =>
      match entries.find? fun e => e.1.isIndex i with
      | some e => encodeValue limits sol depth e.2
      | none => encodeValue limits sol depth .nil) = .ok data)
    (hitems : BackedItems (data ++ rest) items k) (hlength : items.length = entries.length)
    (hsame : SameValue (.table entries) (.table (storeItems 1 items []))) :
    Everywhere (Counted limits) (.table entries) := by
  have hkinds := isStringOrInteger_keys hpack.here
  obtain ⟨-, hsize, hindices⟩ := takenForArray_maxIndex sol hkinds htaken
  obtain ⟨hall, hvalues⟩ := sameValue_of_key hpack.here hsame
  rw [storeItems_eq_storePairs] at hall hvalues
  have hgrows : ([] : List (PackValue × PackValue)).length + (numbered 1 items).length ≤
      (storePairs (numbered 1 items) []).length := by
    rw [hall, length_numbered, hlength, List.length_nil, Nat.zero_add]
  obtain ⟨hstored, hnil⟩ := storePairs_grows hgrows
  rw [hstored, List.nil_append] at hvalues
  have hcounted := counted_of_items hlimits (fun e he => (hpack.entry he).2) ih hjoin hitems hlength
    hnil hvalues
  have hkeys : ∀ e ∈ entries, ∃ i ∈ List.range' 1 entries.length, e.1 = .integer i := fun e he =>
    keys_of_indices (fun i hi => (hcounted i hi).imp fun _ h => ⟨h.1, h.2.1⟩) he
  refine everywhere_table ⟨?_, fun _ e he => ?_⟩ fun e he => ?_
  · exact fun key hkey => (hindices key (List.mem_of_mem_dropLast hkey)).1
  · obtain ⟨i, hi, hkey⟩ := hkeys e he
    have hbound := hlimits.array
    rw [List.mem_range'_1] at hi
    rw [List.length_map] at hsize
    simp only [hkey, fitsInt, toInt32, beq_iff_eq]
    omega
  · obtain ⟨hkind, -⟩ := hpack.here.2 e he
    obtain ⟨i, hi, hkey⟩ := hkeys e he
    obtain ⟨e', he', hkey', hvalue⟩ := hcounted i hi
    rw [entry_unique hpack.here.1 he' he (hkey'.trans hkey.symm) hkind] at hvalue
    exact ⟨everywhere_counted_key hkind, hvalue⟩

lemma counted_map {pairs : List (PackValue × PackValue)}
    (htaken : takenForArray limits (entries.map Prod.fst) = false)
    (hjoin : joinPacked (entries.map fun e => encodeMapEntry
      ⟨e.1, encodeValue limits sol depth e.1, encodeValue limits sol depth e.2⟩) = .ok data)
    (hpairs : BackedPairs (data ++ rest) pairs k)
    (hlength : pairs.length = (scanKeys sol (entries.map Prod.fst) {}).entryCount)
    (hsame : SameValue (.table entries) (.table (storePairs pairs []))) :
    Everywhere (Counted limits) (.table entries) := by
  have hkinds := isStringOrInteger_keys hpack.here
  obtain ⟨hall, hvalues⟩ := sameValue_of_key hpack.here hsame
  obtain ⟨hle, hcount⟩ := scanKeys_entryCount sol hkinds {}
  have hstored := length_storePairs_le pairs []
  -- the table has no more entries than were counted, and no fewer than there are
  simp only [List.length_map, Nat.zero_add] at hle hcount
  rw [List.length_nil, Nat.zero_add] at hstored
  have hgrows : ([] : List (PackValue × PackValue)).length + pairs.length ≤
      (storePairs pairs []).length := by
    rw [List.length_nil]
    omega
  obtain ⟨heq, -⟩ := storePairs_grows hgrows
  rw [heq, List.nil_append] at hvalues
  have hcounted := counted_of_pairs hlimits
    (fun e he => ⟨(hpack.here.2 e he).1, hpack.entry he⟩) ih hjoin hpairs (by omega) hvalues
  refine everywhere_table ⟨hcount.mp (by omega), fun h => ?_⟩ fun e he => ?_
  · rw [htaken] at h
    cases h
  · exact ⟨everywhere_counted_key (hpack.here.2 e he).1, hcounted e he⟩

end

theorem countedIfSame (v : PackValue) (hpack : Everywhere Packable v)
    (depth : Nat) : CountedIfSame limits sol depth v := by
  induction v using pack_induction generalizing depth with
  | atom v hv =>
    intro bytes h rest w n hback hsame
    refine everywhere_atom hv ?_
    cases v with
    | handle =>
      cases hsame
      generalize bytes ++ rest = input at hback
      cases hback
    | table entries => exact absurd rfl (hv entries)
    | nil | boolean | integer | float | string | other => trivial
  | table entries ih =>
    intro bytes h rest w n hback hsame
    have hkinds := isStringOrInteger_keys hpack.here
    have ih : ∀ e ∈ entries, CountedIfSame limits sol (depth + 1) e.2 := fun e he =>
      (ih e he).2 (hpack.entry he).2 (depth + 1)
    rw [encodeValue, encodeEntries_eq] at h
    rcases encodeTable_ok (ok_of_checkDepth h) with ⟨htaken, data, hjoin, rfl⟩ |
      ⟨htaken, hfew, data, hjoin, rfl⟩
    · rw [isArray_scanKeys hkinds] at htaken
      obtain ⟨hmax, hsize, -⟩ := takenForArray_maxIndex sol hkinds htaken
      rw [hmax, List.length_map, arrayItems_map _ _ _ (fun e => encodeValue limits sol (depth + 1) e.1)
        (fun e => encodeValue limits sol (depth + 1) e.2)] at hjoin
      rw [hmax, List.length_map, List.cons_append, List.append_assoc] at hback
      obtain ⟨items, k, hitems, hcount, rfl, -⟩ := backed_array_inv (length_writeUint _ _ _) hback
      have hbound := hlimits.array
      rw [List.length_map] at hsize
      rw [readUint_writeUint _ 4 .little (by norm_num) (by norm_num; omega)] at hcount
      exact counted_array hlimits hpack ih htaken hjoin hitems hcount hsame
    · rw [isArray_scanKeys hkinds] at htaken
      rw [List.cons_append, List.append_assoc] at hback
      obtain ⟨pairs, k, hpairs, hcount, rfl, -⟩ := backed_map_inv (length_writeUint _ _ _) hback
      have hbound := hlimits.map
      rw [readUint_writeUint _ 4 .little (by norm_num) (by norm_num; omega)] at hcount
      exact counted_map hlimits hpack ih htaken hjoin hpairs hcount hsame

end Converse

end Received

lemma fitsWords_default : FitsWords {} := ⟨by decide, by decide, by decide⟩

def packedTable : PackValue :=
  .table [(.integer 2, .table [(.string [120], .float 0x3FF8000000000000)]),
    (.integer 1, .string [97])]

def packedTableBytes : List UInt8 :=
  [0x4C, 0x50, 1, 0, 7, 2, 0, 0, 0, 5, 1, 97, 8, 1, 0, 0, 0, 5, 1, 120, 4, 0, 0, 0, 0, 0, 0, 0xF8, 0x3F]

def twoKeys : PackValue :=
  .table [(.string [97], .boolean true), (.string [98], .boolean true)]

/-- Values read one after another, by advancing over the header and what the decoder reports. -/
def unpackValues : Nat → List UInt8 → Option (List PackValue × List UInt8)
  | 0, bytes => some ([], bytes)
  | count + 1, bytes =>
    match packDecode bytes with
    | .ok value consumed =>
      (unpackValues count (bytes.drop (4 + consumed))).map fun (values, rest) =>
        (value :: values, rest)
    | _ => none

end ShieldRuntime.Proofs
