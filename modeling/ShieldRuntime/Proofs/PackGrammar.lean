import ShieldRuntime.Lua.Pack
import ShieldRuntime.Proofs.UnsupportedValues
import ShieldRuntime.Proofs.EnvelopeStream

/-!
# The LuaPack format and its decoder

`Backed` says what the input begins with, where every declared length is backed by as many bytes or
elements of it. The decoder accepts exactly that, and reads beyond the input exactly if it comes to a
long string whose length wraps around. A Lua integer is read as a double before it becomes a JSON
number or a LuaPack value.
-/

namespace ShieldRuntime.Proofs
open Transport Lua

@[simp] lemma ofByte?_byte (tag : TypeTag) : TypeTag.ofByte? tag.byte = some tag := by
  cases tag <;> rfl

lemma byte_of_ofByte? {b : UInt8} {tag : TypeTag} (h : TypeTag.ofByte? b = some tag) :
    b = tag.byte := by
  have hfound := List.find?_some h
  exact (beq_iff_eq.mp hfound).symm

def storeItems : Nat → List PackValue → List (PackValue × PackValue) → List (PackValue × PackValue)
  | _, [], entries => entries
  | index, item :: items, entries =>
    storeItems (index + 1) items (storeEntry (.integer index) item entries)

def storePairs : List (PackValue × PackValue) → List (PackValue × PackValue) →
    List (PackValue × PackValue)
  | [], entries => entries
  | (key, value) :: rest, entries => storePairs rest (storeEntry key value entries)

mutual

/-- The input begins with the value, and all of the bytes that the value declares are there. The
decoder goes on behind `consumed` of them, which for a long string is a sum of 32-bit numbers. -/
inductive Backed : (data : List UInt8) → PackValue → (consumed : Nat) → Prop
  | nil (rest) : Backed (TypeTag.nil.byte :: rest) .nil 1
  | boolean (b rest) :
    Backed ((if b then TypeTag.true.byte else TypeTag.false.byte) :: rest) (.boolean b) 1
  | integer {word} (hword : word.length = 8) (rest) :
    Backed (TypeTag.integer.byte :: (word ++ rest)) (.integer (toInt64 (readUint word .little))) 9
  | number {word} (hword : word.length = 8) (rest) :
    Backed (TypeTag.number.byte :: (word ++ rest))
      (.float (UInt64.ofNat (readUint word .little))) 9
  | shortString {len bytes} (hlen : bytes.length = len.toNat) (rest) :
    Backed (TypeTag.shortString.byte :: len :: (bytes ++ rest)) (.string bytes) (2 + bytes.length)
  | string {len bytes} (hword : len.length = 4) (hlen : bytes.length = readUint len .little) (rest) :
    Backed (TypeTag.string.byte :: (len ++ (bytes ++ rest))) (.string bytes)
      ((5 + bytes.length) % 2 ^ 32)
  | array {len data items n} (hword : len.length = 4) (hitems : BackedItems data items n)
    (hcount : items.length = readUint len .little) :
    Backed (TypeTag.array.byte :: (len ++ data)) (.table (storeItems 1 items [])) (5 + n)
  | map {len data pairs n} (hword : len.length = 4) (hpairs : BackedPairs data pairs n)
    (hcount : pairs.length = readUint len .little) :
    Backed (TypeTag.map.byte :: (len ++ data)) (.table (storePairs pairs [])) (5 + n)

inductive BackedItems : List UInt8 → List PackValue → Nat → Prop
  | nil (rest) : BackedItems rest [] 0
  | cons {data item items n m} : Backed data item n → BackedItems (data.drop n) items m →
    BackedItems data (item :: items) (n + m)

inductive BackedPairs : List UInt8 → List (PackValue × PackValue) → Nat → Prop
  | nil (rest) : BackedPairs rest [] 0
  | cons {data key stored value pairs n m k} :
    Backed data key n → Backed (data.drop n) value m → tableKey key = .ok stored →
    BackedPairs ((data.drop n).drop m) pairs k →
    BackedPairs data ((stored, value) :: pairs) (n + m + k)

end

mutual

/-- The decoder comes to a long string that declares more bytes than there are, and a length to which
the size of its header cannot be added in 32 bits. -/
inductive Overreads : List UInt8 → Prop
  | string {len data} (hword : len.length = 4) (hmissing : data.length < readUint len .little)
    (hwraps : 2 ^ 32 ≤ 5 + readUint len .little) : Overreads (TypeTag.string.byte :: (len ++ data))
  | array {len data} (hword : len.length = 4) (h : ItemsOverread (readUint len .little) data) :
    Overreads (TypeTag.array.byte :: (len ++ data))
  | map {len data} (hword : len.length = 4) (h : PairsOverread (readUint len .little) data) :
    Overreads (TypeTag.map.byte :: (len ++ data))

inductive ItemsOverread : (count : Nat) → List UInt8 → Prop
  | here {count data} : Overreads data → ItemsOverread (count + 1) data
  | later {count data item n} : Backed data item n → ItemsOverread count (data.drop n) →
    ItemsOverread (count + 1) data

inductive PairsOverread : (count : Nat) → List UInt8 → Prop
  | key {count data} : Overreads data → PairsOverread (count + 1) data
  | value {count data key n} : Backed data key n → Overreads (data.drop n) →
    PairsOverread (count + 1) data
  | later {count data key stored value n m} :
    Backed data key n → Backed (data.drop n) value m → tableKey key = .ok stored →
    PairsOverread count ((data.drop n).drop m) → PairsOverread (count + 1) data

end

section Equations

variable {word len : List UInt8}

lemma cut_word {size : Nat} (hword : word.length = size) (data : List UInt8) :
    ¬(word ++ data).length < size ∧ (word ++ data).take size = word ∧
      (word ++ data).drop size = data := by
  subst hword
  exact ⟨by simp, List.take_left, List.drop_left⟩

lemma decodeValue_integer (fuel : Nat) (hword : word.length = 8) (rest : List UInt8) :
    decodeValue (fuel + 1) (TypeTag.integer.byte :: (word ++ rest)) =
      .ok (.integer (toInt64 (readUint word .little))) 9 := by
  obtain ⟨hlong, htake, -⟩ := cut_word hword rest
  simp only [decodeValue, ofByte?_byte, if_neg hlong, htake]

lemma decodeValue_number (fuel : Nat) (hword : word.length = 8) (rest : List UInt8) :
    decodeValue (fuel + 1) (TypeTag.number.byte :: (word ++ rest)) =
      .ok (.float (UInt64.ofNat (readUint word .little))) 9 := by
  obtain ⟨hlong, htake, -⟩ := cut_word hword rest
  simp only [decodeValue, ofByte?_byte, if_neg hlong, htake]

lemma decodeValue_shortString (fuel : Nat) (len : UInt8) (data : List UInt8) :
    decodeValue (fuel + 1) (TypeTag.shortString.byte :: len :: data) =
      if data.length < len.toNat then .error "truncated short string data"
      else .ok (.string (data.take len.toNat)) (2 + len.toNat) := by
  simp only [decodeValue, ofByte?_byte]

section

variable (fuel : Nat) (hword : len.length = 4) (data : List UInt8)
include fuel hword data

lemma decodeValue_string :
    decodeValue (fuel + 1) (TypeTag.string.byte :: (len ++ data)) =
      if data.length + 5 < (5 + readUint len .little) % 2 ^ 32 then .error "truncated string data"
      else if data.length < readUint len .little then .overread (readUint len .little) data.length
      else .ok (.string (data.take (readUint len .little))) ((5 + readUint len .little) % 2 ^ 32) := by
  obtain ⟨hlong, htake, hdrop⟩ := cut_word hword data
  have hlength : (len ++ data).length = 4 + data.length := by simp [hword]
  have hpresent : 4 + data.length - 4 = data.length := by omega
  have hsize : 4 + data.length + 1 = data.length + 5 := by omega
  simp only [decodeValue, ofByte?_byte, if_neg hlong, htake, hdrop]
  simp only [hlength, hpresent, hsize, Nat.add_lt_add_iff_left]

lemma decodeValue_array :
    decodeValue (fuel + 1) (TypeTag.array.byte :: (len ++ data)) =
      decodeItems (decodeValue fuel) (readUint len .little) 1 data [] 5 := by
  obtain ⟨hlong, htake, hdrop⟩ := cut_word hword data
  simp only [decodeValue, ofByte?_byte, if_neg hlong, htake, hdrop]

lemma decodeValue_map :
    decodeValue (fuel + 1) (TypeTag.map.byte :: (len ++ data)) =
      decodeEntries (decodeValue fuel) (readUint len .little) data [] 5 := by
  obtain ⟨hlong, htake, hdrop⟩ := cut_word hword data
  simp only [decodeValue, ofByte?_byte, if_neg hlong, htake, hdrop]

end

end Equations

section Accepted

lemma drop_fits {data : List UInt8} {fuel : Nat} (n : Nat) (h : data.length ≤ fuel) :
    (data.drop n).length ≤ fuel := by
  rw [List.length_drop]
  omega

lemma body_fits {tag : UInt8} {len data : List UInt8} {fuel : Nat}
    (h : (tag :: (len ++ data)).length ≤ fuel + 1) : data.length ≤ fuel := by
  simp only [List.length_cons, List.length_append] at h
  omega

mutual

/-- The decoder gives the value that the input begins with. -/
theorem decodeValue_of_backed {data : List UInt8} {value : PackValue} {n : Nat} :
    Backed data value n → ∀ fuel, data.length ≤ fuel → decodeValue fuel data = .ok value n
  | .nil rest, fuel + 1, _ => by simp [decodeValue]
  | .boolean b rest, fuel + 1, _ => by cases b <;> simp [decodeValue]
  | .integer hword rest, fuel + 1, _ => decodeValue_integer fuel hword rest
  | .number hword rest, fuel + 1, _ => decodeValue_number fuel hword rest
  | @Backed.shortString len bytes hlen rest, fuel + 1, _ => by
    have hthere : ¬(bytes ++ rest).length < len.toNat := by simp [hlen]
    rw [decodeValue_shortString, if_neg hthere, ← hlen, List.take_left]
  | @Backed.string len bytes hword hlen rest, fuel + 1, _ => by
    have hthere : ¬(bytes ++ rest).length < bytes.length := by simp
    have hchecked : ¬(bytes ++ rest).length + 5 < (5 + bytes.length) % 2 ^ 32 := by
      have hsum := Nat.mod_le (5 + bytes.length) (2 ^ 32)
      rw [List.length_append]
      omega
    rw [decodeValue_string fuel hword, ← hlen, if_neg hchecked, if_neg hthere, List.take_left]
  | @Backed.array len data items n hword hitems hcount, fuel + 1, hfuel => by
    rw [decodeValue_array fuel hword, ← hcount,
      decodeItems_of_backed hitems 1 [] 5 fuel (body_fits hfuel)]
  | @Backed.map len data pairs n hword hpairs hcount, fuel + 1, hfuel => by
    rw [decodeValue_map fuel hword, ← hcount,
      decodeEntries_of_backed hpairs [] 5 fuel (body_fits hfuel)]

theorem decodeItems_of_backed {data : List UInt8} {items : List PackValue} {n : Nat} :
    BackedItems data items n → ∀ (index : Nat) (entries : List (PackValue × PackValue))
      (consumed fuel : Nat), data.length ≤ fuel →
      decodeItems (decodeValue fuel) items.length index data entries consumed =
        .ok (.table (storeItems index items entries)) (consumed + n)
  | .nil _, _, _, _, _, _ => rfl
  | @BackedItems.cons data item items n m hitem hitems, index, entries, consumed, fuel, hfuel => by
    have hinner : (data.drop n).length ≤ fuel := drop_fits n hfuel
    simp only [List.length_cons, decodeItems, decodeValue_of_backed hitem fuel hfuel,
      decodeItems_of_backed hitems _ _ _ fuel hinner, storeItems, Nat.add_assoc]

theorem decodeEntries_of_backed {data : List UInt8} {pairs : List (PackValue × PackValue)} {n : Nat} :
    BackedPairs data pairs n → ∀ (entries : List (PackValue × PackValue)) (consumed fuel : Nat),
      data.length ≤ fuel →
      decodeEntries (decodeValue fuel) pairs.length data entries consumed =
        .ok (.table (storePairs pairs entries)) (consumed + n)
  | .nil _, _, _, _, _ => rfl
  | @BackedPairs.cons data key stored value pairs n m k hkey hvalue hstored hpairs, entries, consumed,
      fuel, hfuel => by
    have hafterKey : (data.drop n).length ≤ fuel := drop_fits n hfuel
    have hinner : ((data.drop n).drop m).length ≤ fuel := drop_fits m hafterKey
    simp only [List.length_cons, decodeEntries, decodeValue_of_backed hkey fuel hfuel,
      decodeValue_of_backed hvalue fuel hafterKey, hstored,
      decodeEntries_of_backed hpairs _ _ fuel hinner, storePairs, Nat.add_assoc]

end

/-- An input begins with one value at most. -/
theorem backed_unique {data : List UInt8} {v w : PackValue} {n m : Nat} (h : Backed data v n)
    (h' : Backed data w m) : v = w ∧ n = m := by
  have heq := (decodeValue_of_backed h _ le_rfl).symm.trans (decodeValue_of_backed h' _ le_rfl)
  exact Decoded.ok.inj heq

mutual

theorem decodeValue_of_overreads {data : List UInt8} :
    Overreads data → ∀ fuel, data.length ≤ fuel →
      ∃ length present, decodeValue fuel data = .overread length present
  | @Overreads.string len data hword hmissing hwraps, fuel + 1, _ => by
    -- the wrapped sum is below the size of the header
    have hchecked : ¬data.length + 5 < (5 + readUint len .little) % 2 ^ 32 := by
      have hlen := readUint_lt len .little (by omega)
      rw [hword] at hlen
      omega
    exact ⟨_, _, by rw [decodeValue_string fuel hword, if_neg hchecked, if_pos hmissing]⟩
  | @Overreads.array len data hword h, fuel + 1, hfuel => by
    rw [decodeValue_array fuel hword]
    exact decodeItems_of_overread h 1 [] 5 fuel (body_fits hfuel)
  | @Overreads.map len data hword h, fuel + 1, hfuel => by
    rw [decodeValue_map fuel hword]
    exact decodeEntries_of_overread h [] 5 fuel (body_fits hfuel)

theorem decodeItems_of_overread {count : Nat} {data : List UInt8} :
    ItemsOverread count data → ∀ (index : Nat) (entries : List (PackValue × PackValue))
      (consumed fuel : Nat), data.length ≤ fuel → ∃ length present,
        decodeItems (decodeValue fuel) count index data entries consumed = .overread length present
  | .here h, _, _, _, fuel, hfuel => by
    obtain ⟨length, present, h⟩ := decodeValue_of_overreads h fuel hfuel
    exact ⟨length, present, by rw [decodeItems, h]⟩
  | .later hitem h, _, _, _, fuel, hfuel => by
    simp only [decodeItems, decodeValue_of_backed hitem fuel hfuel]
    exact decodeItems_of_overread h _ _ _ fuel (drop_fits _ hfuel)

theorem decodeEntries_of_overread {count : Nat} {data : List UInt8} :
    PairsOverread count data → ∀ (entries : List (PackValue × PackValue)) (consumed fuel : Nat),
      data.length ≤ fuel → ∃ length present,
        decodeEntries (decodeValue fuel) count data entries consumed = .overread length present
  | .key h, _, _, fuel, hfuel => by
    obtain ⟨length, present, h⟩ := decodeValue_of_overreads h fuel hfuel
    exact ⟨length, present, by rw [decodeEntries, h]⟩
  | .value hkey h, _, _, fuel, hfuel => by
    obtain ⟨length, present, h⟩ := decodeValue_of_overreads h fuel (drop_fits _ hfuel)
    exact ⟨length, present, by simp only [decodeEntries, decodeValue_of_backed hkey fuel hfuel, h]⟩
  | @PairsOverread.later _ _ _ _ _ n m hkey hvalue hstored h, _, _, fuel, hfuel => by
    have hafterKey := drop_fits n hfuel
    simp only [decodeEntries, decodeValue_of_backed hkey fuel hfuel,
      decodeValue_of_backed hvalue fuel hafterKey, hstored]
    exact decodeEntries_of_overread h _ _ fuel (drop_fits m hafterKey)

end

mutual

theorem consumed_le_of_backed {data : List UInt8} {value : PackValue} {n : Nat} :
    Backed data value n → n ≤ data.length
  | .nil rest | .boolean b rest => by simp
  | .integer hword rest | .number hword rest => by simp [hword]
  | .shortString hlen rest => by
    simp only [List.length_cons, List.length_append]
    omega
  | @Backed.string len bytes hword hlen rest => by
    have hsum := Nat.mod_le (5 + bytes.length) (2 ^ 32)
    simp only [List.length_cons, List.length_append, hword]
    omega
  | .array hword hitems _ => by
    have hinner := consumed_le_of_backedItems hitems
    simp only [List.length_cons, List.length_append, hword]
    omega
  | .map hword hpairs _ => by
    have hinner := consumed_le_of_backedPairs hpairs
    simp only [List.length_cons, List.length_append, hword]
    omega

theorem consumed_le_of_backedItems {data : List UInt8} {items : List PackValue} {n : Nat} :
    BackedItems data items n → n ≤ data.length
  | .nil _ => Nat.zero_le _
  | .cons hitem hitems => by
    have hfirst := consumed_le_of_backed hitem
    have hrest := consumed_le_of_backedItems hitems
    rw [List.length_drop] at hrest
    omega

theorem consumed_le_of_backedPairs {data : List UInt8} {pairs : List (PackValue × PackValue)}
    {n : Nat} : BackedPairs data pairs n → n ≤ data.length
  | .nil _ => Nat.zero_le _
  | .cons hkey hvalue _ hpairs => by
    have hfirst := consumed_le_of_backed hkey
    have hsecond := consumed_le_of_backed hvalue
    have hrest := consumed_le_of_backedPairs hpairs
    rw [List.length_drop] at hsecond hrest
    rw [List.length_drop] at hrest
    omega

end

end Accepted

section Sound

/-- A decoded value has the first property, and a read beyond the input the second. -/
def Outcome (P : PackValue → Nat → Prop) (Q : Prop) : Decoded → Prop
  | .ok value consumed => P value consumed
  | .overread _ _ => Q
  | .error _ | .raised _ => True

lemma Outcome.imp {P P' : PackValue → Nat → Prop} {Q Q' : Prop} {result : Decoded}
    (h : Outcome P Q result) (hP : ∀ value n, P value n → P' value n) (hQ : Q → Q') :
    Outcome P' Q' result := by
  cases result with
  | ok value n => exact hP value n h
  | overread => exact hQ h
  | error | raised => trivial

variable {decode : List UInt8 → Decoded}

section

variable (hdecode : ∀ data, Outcome (Backed data) (Overreads data) (decode data))
include hdecode

lemma decodeItems_sound
    (count index : Nat) (data : List UInt8) (entries : List (PackValue × PackValue))
    (consumed : Nat) :
    Outcome (fun value n => ∃ items k, BackedItems data items k ∧ items.length = count ∧
        value = .table (storeItems index items entries) ∧ n = consumed + k)
      (ItemsOverread count data) (decodeItems decode count index data entries consumed) := by
  induction count generalizing index data entries consumed with
  | zero => exact ⟨[], 0, .nil data, rfl, rfl, rfl⟩
  | succ count ih =>
    have hfirst := hdecode data
    rw [decodeItems]
    cases hresult : decode data with
    | ok item n =>
      rw [hresult] at hfirst
      refine (ih (index + 1) (data.drop n) _ (consumed + n)).imp ?_ fun h => ItemsOverread.later hfirst h
      rintro value _ ⟨items, k, hitems, hcount, rfl, rfl⟩
      exact ⟨item :: items, n + k, .cons hfirst hitems, by rw [List.length_cons, hcount], rfl,
        Nat.add_assoc ..⟩
    | overread =>
      rw [hresult] at hfirst
      exact ItemsOverread.here hfirst
    | error | raised => trivial

lemma decodeEntries_sound
    (count : Nat) (data : List UInt8) (entries : List (PackValue × PackValue)) (consumed : Nat) :
    Outcome (fun value n => ∃ pairs k, BackedPairs data pairs k ∧ pairs.length = count ∧
        value = .table (storePairs pairs entries) ∧ n = consumed + k)
      (PairsOverread count data) (decodeEntries decode count data entries consumed) := by
  induction count generalizing data entries consumed with
  | zero => exact ⟨[], 0, .nil data, rfl, rfl, rfl⟩
  | succ count ih =>
    have hkey := hdecode data
    rw [decodeEntries]
    cases hkeyResult : decode data with
    | ok key n =>
      rw [hkeyResult] at hkey
      have hvalue := hdecode (data.drop n)
      cases hvalueResult : decode (data.drop n) with
      | ok value m =>
        rw [hvalueResult] at hvalue
        simp only
        rw [hvalueResult]
        simp only
        cases hstored : tableKey key with
        | ok stored =>
          refine (ih ((data.drop n).drop m) _ (consumed + n + m)).imp ?_
            fun h => PairsOverread.later hkey hvalue hstored h
          rintro table _ ⟨pairs, k, hpairs, hcount, rfl, rfl⟩
          exact ⟨(stored, value) :: pairs, n + m + k, .cons hkey hvalue hstored hpairs,
            by rw [List.length_cons, hcount], rfl, by omega⟩
        | error => trivial
      | overread =>
        rw [hvalueResult] at hvalue
        simp only
        rw [hvalueResult]
        exact PairsOverread.value hkey hvalue
      | error | raised =>
        simp only
        rw [hvalueResult]
        trivial
    | overread =>
      rw [hkeyResult] at hkey
      exact PairsOverread.key hkey
    | error | raised => trivial

end

lemma exists_word {rest : List UInt8} (size : Nat) (h : ¬rest.length < size) :
    ∃ word data, rest = word ++ data ∧ word.length = size :=
  ⟨rest.take size, rest.drop size, (List.take_append_drop size rest).symm, by
    rw [List.length_take]
    omega⟩

def headerSize : TypeTag → Nat
  | .integer | .number => 8
  | .shortString => 1
  | .string | .array | .map => 4
  | .nil | .false | .true | .serviceHandle | .extension => 0

lemma decodeValue_truncated (fuel : Nat) (kind : TypeTag) (rest : List UInt8)
    (h : rest.length < headerSize kind) :
    ∃ text, decodeValue (fuel + 1) (kind.byte :: rest) = .error text := by
  cases kind with
  | nil | false | true | serviceHandle | extension => exact absurd h (Nat.not_lt_zero _)
  | integer | number | string | array | map =>
    simp only [headerSize] at h
    simp only [decodeValue, ofByte?_byte, if_pos h]
    exact ⟨_, rfl⟩
  | shortString =>
    have hrest : rest = [] := List.length_eq_zero_iff.mp (by simpa [headerSize] using h)
    subst hrest
    exact ⟨_, rfl⟩

lemma decodeValue_header_sound {fuel : Nat}
    (ih : ∀ data, Outcome (Backed data) (Overreads data) (decodeValue fuel data)) (kind : TypeTag)
    (header data : List UInt8) (hheader : header.length = headerSize kind) :
    Outcome (Backed (kind.byte :: (header ++ data))) (Overreads (kind.byte :: (header ++ data)))
      (decodeValue (fuel + 1) (kind.byte :: (header ++ data))) := by
  cases kind with
  | nil => exact .nil _
  | false => exact .boolean false _
  | true => exact .boolean true _
  | integer =>
    rw [decodeValue_integer fuel hheader]
    exact .integer hheader data
  | number =>
    rw [decodeValue_number fuel hheader]
    exact .number hheader data
  | shortString =>
    obtain ⟨len, rfl⟩ := List.length_eq_one_iff.mp hheader
    rw [List.singleton_append, decodeValue_shortString]
    split
    · trivial
    rename_i hthere
    obtain ⟨bytes, tail, rfl, hbytes⟩ := exists_word len.toNat hthere
    rw [← hbytes, List.take_left]
    exact .shortString hbytes tail
  | string =>
    rw [decodeValue_string fuel hheader]
    split
    · trivial
    split
    · rename_i hchecked hmissing
      -- otherwise the sum is the size of the string with its header
      refine Overreads.string hheader hmissing ?_
      by_contra hsmall
      rw [Nat.mod_eq_of_lt (Nat.lt_of_not_le hsmall)] at hchecked
      omega
    · rename_i hthere
      obtain ⟨bytes, tail, rfl, hbytes⟩ := exists_word _ hthere
      rw [← hbytes, List.take_left]
      exact .string hheader hbytes tail
  | array =>
    rw [decodeValue_array fuel hheader]
    refine (decodeItems_sound ih _ 1 data [] 5).imp ?_ fun h => .array hheader h
    rintro value _ ⟨items, k, hitems, hcount, rfl, rfl⟩
    exact .array hheader hitems hcount
  | map =>
    rw [decodeValue_map fuel hheader]
    refine (decodeEntries_sound ih _ data [] 5).imp ?_ fun h => .map hheader h
    rintro value _ ⟨pairs, k, hpairs, hcount, rfl, rfl⟩
    exact .map hheader hpairs hcount
  | serviceHandle | extension => trivial

/-- The decoder accepts nothing else, and reads beyond the input for no other reason. -/
theorem decodeValue_sound (fuel : Nat) (data : List UInt8) :
    Outcome (Backed data) (Overreads data) (decodeValue fuel data) := by
  induction fuel generalizing data with
  | zero => trivial
  | succ fuel ih =>
    cases data with
    | nil => trivial
    | cons tag rest =>
      cases htag : TypeTag.ofByte? tag with
      | none =>
        simp only [decodeValue, htag]
        trivial
      | some kind =>
        obtain rfl := byte_of_ofByte? htag
        by_cases hshort : rest.length < headerSize kind
        · obtain ⟨text, htext⟩ := decodeValue_truncated fuel kind rest hshort
          rw [htext]
          trivial
        · obtain ⟨header, data, rfl, hheader⟩ := exists_word _ hshort
          exact decodeValue_header_sound ih kind header data hheader

end Sound

/-- The bytes are those of the value, whatever follows them. -/
def Packed (bytes : List UInt8) (value : PackValue) : Prop :=
  ∀ rest, Backed (bytes ++ rest) value bytes.length

/-- The integer is a double. -/
def ExactDouble (n : Int) : Prop := ∃ (m : Int) (e : Nat), n = m * 2 ^ e ∧ m.natAbs ≤ 2 ^ 53

variable {n : Int}

lemma unit_dvd_of_exactDouble (h : ExactDouble n) : 2 ^ (n.natAbs.log2 - 52) ∣ n.natAbs := by
  obtain ⟨m, e, rfl, hm⟩ := h
  have habs : (m * 2 ^ e).natAbs = m.natAbs * 2 ^ e := by
    rw [Int.natAbs_mul, Int.natAbs_pow]
    rfl
  rw [habs]
  rcases Nat.eq_zero_or_pos m.natAbs with hzero | hpos
  · simp [hzero]
  have hlog : (m.natAbs * 2 ^ e).log2 = m.natAbs.log2 + e := by
    rw [Nat.log2_eq_log_two, Nat.log2_eq_log_two]
    induction e with
    | zero => simp
    | succ e ih =>
      rw [pow_succ, ← mul_assoc, Nat.log_mul_base (by norm_num) (by positivity),
        ih (by rw [Int.natAbs_mul, Int.natAbs_pow]; rfl)]
      omega
  rw [hlog]
  rcases Nat.lt_or_eq_of_le hm with hlt | heq
  · have hsmall : m.natAbs.log2 < 53 := (Nat.log2_lt (by omega)).mpr hlt
    have hexp : m.natAbs.log2 + e - 52 ≤ e := by omega
    exact (pow_dvd_pow 2 hexp).trans (Dvd.intro_left _ rfl)
  · rw [heq, Nat.log2_two_pow, ← pow_add]
    exact pow_dvd_pow 2 (by omega)

/-- An integer that is a double is not rounded. -/
theorem roundToDouble_of_exactDouble (h : ExactDouble n) : roundToDouble n = n := by
  have hdvd := unit_dvd_of_exactDouble h
  have hpos : 0 < 2 ^ (n.natAbs.log2 - 52) := by positivity
  have hrest : n.natAbs % 2 ^ (n.natAbs.log2 - 52) = 0 := Nat.mod_eq_zero_of_dvd hdvd
  have hkept : ¬(2 ^ (n.natAbs.log2 - 52) < 2 * (n.natAbs % 2 ^ (n.natAbs.log2 - 52)) ∨
      (2 * (n.natAbs % 2 ^ (n.natAbs.log2 - 52)) = 2 ^ (n.natAbs.log2 - 52) ∧
        n.natAbs / 2 ^ (n.natAbs.log2 - 52) % 2 = 1)) := by
    omega
  simp only [roundToDouble, if_neg hkept, Nat.div_mul_cancel hdvd]
  split <;> omega

/-- What an integer is rounded to is a double. -/
lemma exactDouble_roundToDouble (n : Int) : ExactDouble (roundToDouble n) := by
  have hlow : n.natAbs / 2 ^ (n.natAbs.log2 - 52) < 2 ^ 53 := by
    rw [Nat.div_lt_iff_lt_mul (by positivity), ← pow_add]
    exact Nat.lt_log2_self.trans_le (Nat.pow_le_pow_right (by norm_num) (by omega))
  obtain ⟨rounded, hrounded, heq⟩ : ∃ rounded : Nat, rounded ≤ 2 ^ 53 ∧ roundToDouble n =
      if n < 0 then -((rounded * 2 ^ (n.natAbs.log2 - 52) : Nat) : Int)
      else (rounded * 2 ^ (n.natAbs.log2 - 52) : Nat) := by
    refine ⟨_, ?_, rfl⟩
    split <;> omega
  rw [heq]
  split
  · exact ⟨-rounded, n.natAbs.log2 - 52, by push_cast; ring, by simpa using hrounded⟩
  · exact ⟨rounded, n.natAbs.log2 - 52, by push_cast; rfl, by simpa using hrounded⟩

lemma exactDouble_of_le (h : n.natAbs ≤ 2 ^ 53) : ExactDouble n := ⟨n, 0, by simp, h⟩

lemma toInt64_emod (h : -2 ^ 63 ≤ n ∧ n < 2 ^ 63) : toInt64 (n % 2 ^ 64) = n := by
  rw [toInt64]
  omega

def receivedNumber (value : Option Int) (bits : UInt64) : PackValue :=
  match value with
  | some n => if -2 ^ 63 ≤ n ∧ n < 2 ^ 63 then .integer n else .float bits
  | none => .float bits

lemma packed_integer (h : -2 ^ 63 ≤ n ∧ n < 2 ^ 63) :
    Packed (TypeTag.integer.byte :: writeUint (n % 2 ^ 64).toNat 8 .little) (.integer n) := by
  have hread : readUint (writeUint (n % 2 ^ 64).toNat 8 .little) .little = (n % 2 ^ 64).toNat :=
    readUint_writeUint _ 8 .little (by norm_num) (by omega)
  have hvalue : toInt64 ((n % 2 ^ 64).toNat : Int) = n := by
    rw [Int.toNat_of_nonneg (by omega), toInt64_emod h]
  intro rest
  have hpacked := Backed.integer (length_writeUint (n % 2 ^ 64).toNat 8 .little) rest
  rw [hread, hvalue] at hpacked
  simpa [length_writeUint] using hpacked

lemma packed_float (bits : UInt64) :
    Packed (TypeTag.number.byte :: writeUint bits.toNat 8 .little) (.float bits) := by
  have hread : readUint (writeUint bits.toNat 8 .little) .little = bits.toNat :=
    readUint_writeUint _ 8 .little (by norm_num) (by simpa using bits.toNat_lt)
  intro rest
  have hpacked := Backed.number (length_writeUint bits.toNat 8 .little) rest
  rw [hread, UInt64.ofNat_toNat] at hpacked
  simpa [length_writeUint] using hpacked

lemma packed_encodeNumber (value : Option Int) (bits : UInt64) :
    Packed (encodeNumber value bits) (receivedNumber value bits) := by
  cases value with
  | none => exact packed_float bits
  | some n =>
    by_cases h : -2 ^ 63 ≤ n ∧ n < 2 ^ 63
    · simpa only [encodeNumber, receivedNumber, if_pos h] using packed_integer h
    · simpa only [encodeNumber, receivedNumber, if_neg h] using packed_float bits

lemma packDecode_of_packed {payload : List UInt8} {value : PackValue} (h : Packed payload value)
    (rest : List UInt8) :
    packDecode ([0x4C, 0x50, 1, 0] ++ (payload ++ rest)) = .ok value payload.length := by
  have hdecode := decodeValue_of_backed (h rest) _ le_rfl
  simpa [packDecode] using hdecode

lemma received_get {makeSessionHandle : Option (String → String → Option LuaValue)}
    {items : List Json} {values : List LuaValue} (h : Received makeSessionHandle items values)
    {i : Nat} {item : Json} (hitem : items[i]? = some item) :
    ∃ value, values[i]? = some value ∧ jsonToLua makeSessionHandle item = .ok value := by
  induction h generalizing i with
  | nil => simp at hitem
  | @cons first value items values hfirst _ ih =>
    cases i with
    | zero =>
      obtain rfl : first = item := by simpa using hitem
      exact ⟨value, by simp, hfirst⟩
    | succ =>
      exact ih hitem

/-- An integer is the same one in the JSON of a message, in the arguments of the handler and after
LuaPack if and only if it is a double. -/
theorem integers_survive_messages (sol : Sol2)
    (makeSessionHandle : Option (String → String → Option LuaValue)) (n : Int)
    (hrange : -2 ^ 63 ≤ n ∧ n < 2 ^ 63) :
    (luaToJson sol (.integer n) = some (.integer n) ∧
      jsonToLua makeSessionHandle (.integer n) = .ok (.integer n) ∧
      (∀ before after values,
        itemsToLua makeSessionHandle
            (argumentItems (argumentsToJson sol (before ++ .integer n :: after))) = .ok values →
        values[before.length]? = some (.integer n)) ∧
      ∃ bytes, packEncode {} sol (.integer n) = .ok bytes ∧
        packDecode bytes = .ok (.integer n) 9) ↔ ExactDouble n := by
  constructor
  · rintro ⟨hjson, -⟩
    have hround : roundToDouble n = n := by
      rw [luaToJson, doubleToJson] at hjson
      split_ifs at hjson
      · simpa using hjson
      · cases hjson
    rw [← hround]
    exact exactDouble_roundToDouble n
  intro hexact
  have hround := roundToDouble_of_exactDouble hexact
  have hjson : luaToJson sol (.integer n) = some (.integer n) := by
    rw [luaToJson, hround, doubleToJson, if_pos hrange]
  have hlua : jsonToLua makeSessionHandle (.integer n) = .ok (.integer n) := by rw [jsonToLua]
  refine ⟨hjson, hlua, ?_, ?_⟩
  · intro before after values hvalues
    have hitem : (argumentItems (argumentsToJson sol
        (before ++ .integer n :: after)))[before.length]? = some (.integer n) := by
      simp [argumentsToJson, argumentItems, argumentToJson, hjson]
    obtain ⟨value, hvalue, hread⟩ := received_get (itemsToLua_eq_ok.mp hvalues) hitem
    cases hread
    exact hvalue
  · have hnumber : encodeNumber (some n) 0x43E0000000000000 =
        TypeTag.integer.byte :: writeUint (n % 2 ^ 64).toNat 8 .little := by
      rw [encodeNumber, if_pos hrange]
    refine ⟨[0x4C, 0x50, 1, 0] ++ encodeNumber (some n) 0x43E0000000000000, ?_, ?_⟩
    · rw [packEncode, encodeValue, hround]
      rfl
    · have hdecode := packDecode_of_packed (packed_integer hrange) []
      rwa [List.append_nil, List.length_cons, length_writeUint, ← hnumber] at hdecode

theorem integers_survive_messages_large :
    luaToJson ⟨fun _ => 0, none⟩ (.integer (-2 ^ 63)) = some (.integer (-2 ^ 63)) ∧
    jsonToLua none (.integer (-2 ^ 63)) = .ok (.integer (-2 ^ 63)) ∧
    (∀ before after values,
      itemsToLua none (argumentItems
          (argumentsToJson ⟨fun _ => 0, none⟩ (before ++ .integer (-2 ^ 63) :: after))) = .ok values →
      values[before.length]? = some (.integer (-2 ^ 63))) ∧
    ∃ bytes, packEncode {} ⟨fun _ => 0, none⟩ (.integer (-2 ^ 63)) = .ok bytes ∧
      packDecode bytes = .ok (.integer (-2 ^ 63)) 9 :=
  (integers_survive_messages ⟨fun _ => 0, none⟩ none (-2 ^ 63) (by norm_num)).mpr
    ⟨-1, 63, by norm_num, by norm_num⟩

/-- The first integer that is no double is received as its neighbour. -/
theorem integer_rounded_in_messages :
    luaToJson ⟨fun _ => 0, none⟩ (.integer (2 ^ 53 + 1)) = some (.integer (2 ^ 53)) ∧
    packEncode {} ⟨fun _ => 0, none⟩ (.integer (2 ^ 53 + 1)) =
      .ok [0x4C, 0x50, 1, 0, 3, 0, 0, 0, 0, 0, 0, 0x20, 0] ∧
    packDecode [0x4C, 0x50, 1, 0, 3, 0, 0, 0, 0, 0, 0, 0x20, 0] = .ok (.integer (2 ^ 53)) 9 := by
  have hround : roundToDouble (2 ^ 53 + 1) = 2 ^ 53 := by decide +kernel
  have hnumber : encodeNumber (some (2 ^ 53)) 0x43E0000000000000 =
      [3, 0, 0, 0, 0, 0, 0, 0x20, 0] := by decide +kernel
  have hpacked := packed_encodeNumber (some (2 ^ 53)) 0x43E0000000000000
  refine ⟨?_, ?_, packDecode_of_packed hpacked []⟩
  · rw [luaToJson, hround]
    rfl
  · rw [packEncode, encodeValue, hround, hnumber]
    rfl

end ShieldRuntime.Proofs
