import ShieldRuntime.Proofs.PackRoundTrip

/-!
# Values one after another

What the encoder writes for a table ends in the encodings of other values. A decoder that leaves some
of them unread goes on in the middle of the table, but it never comes to the end of the bytes that
were written before the values it was asked for are read.
-/

namespace ShieldRuntime.Proofs
open Library Lua Transport

variable {limits : PackLimits} {sol : Sol2} {bytes data rest : List UInt8} {v w : PackValue}
  {depth n count : Nat} {entries : List (PackValue × PackValue)}

/-- The encodings of some values one after the other. -/
inductive PackedStream (limits : PackLimits) (sol : Sol2) : List UInt8 → (count : Nat) → Prop
  | nil : PackedStream limits sol [] 0
  | cons {depth v head tail count} (hhead : encodeValue limits sol depth v = .ok head)
    (htail : PackedStream limits sol tail count) : PackedStream limits sol (head ++ tail) (count + 1)

lemma PackedStream.append {data' : List UInt8} {count' : Nat} (h : PackedStream limits sol data count)
    (h' : PackedStream limits sol data' count') :
    PackedStream limits sol (data ++ data') (count + count') := by
  induction h with
  | nil => simpa using h'
  | @cons depth v head tail count hhead htail ih =>
    rw [List.append_assoc, Nat.add_right_comm]
    exact .cons hhead ih

lemma stream_of_join {ι : Type} {xs : List ι} {encode : ι → Except String (List UInt8)}
    (hencode : ∀ x ∈ xs, ∃ depth v, encode x = encodeValue limits sol depth v)
    (h : joinPacked (xs.map encode) = .ok data) : PackedStream limits sol data xs.length := by
  induction xs generalizing data with
  | nil =>
    cases h
    exact .nil
  | cons x xs ih =>
    obtain ⟨⟨depth, v, hx⟩, hxs⟩ := List.forall_mem_cons.mp hencode
    obtain ⟨head, tail, hhead, htail, rfl⟩ := joinPacked_cons_ok h
    exact .cons (hx.symm.trans hhead) (ih hxs htail)

lemma stream_of_entries (h : joinPacked (entries.map fun e => encodeMapEntry
      ⟨e.1, encodeValue limits sol depth e.1, encodeValue limits sol depth e.2⟩) = .ok data) :
    PackedStream limits sol data (2 * entries.length) := by
  induction entries generalizing data with
  | nil =>
    cases h
    exact .nil
  | cons e entries ih =>
    obtain ⟨keyBytes, valueBytes, tail, hkey, hvalue, htail, rfl⟩ := joinPacked_entries_ok h
    exact .cons hkey (.cons hvalue (ih htail))

lemma entryCount_le (sol : Sol2) (keys : List PackValue) (shape : TableShape) :
    (scanKeys sol keys shape).entryCount ≤ shape.entryCount + keys.length := by
  induction keys generalizing shape with
  | nil => exact le_rfl
  | cons key keys ih =>
    rw [scanKeys, List.length_cons]
    split
    · dsimp only
      omega
    · split
      · dsimp only
        omega
      · refine (ih _).trans ?_
        dsimp only
        omega

/-- The bytes of a table: the number of the values that the decoder is to read, and the values. -/
def TableBytes (limits : PackLimits) (sol : Sol2) (bytes : List UInt8) : Prop :=
  ∃ size count data, PackedStream limits sol data count ∧ size < 2 ^ 32 ∧
    ((bytes = TypeTag.array.byte :: (writeUint size 4 .little ++ data) ∧ size ≤ count) ∨
      (bytes = TypeTag.map.byte :: (writeUint size 4 .little ++ data) ∧ 2 * size ≤ count))

lemma tableBytes_of_encode (hlimits : FitsWords limits)
    (h : encodeValue limits sol depth (.table entries) = .ok bytes) : TableBytes limits sol bytes := by
  rw [encodeValue, encodeEntries_eq] at h
  rcases encodeTable_ok (ok_of_checkDepth h) with ⟨harray, data, hdata, rfl⟩ |
    ⟨-, hfew, data, hdata, rfl⟩
  · rw [arrayItems_map _ _ entries (fun e => encodeValue limits sol (depth + 1) e.1)
      (fun e => encodeValue limits sol (depth + 1) e.2)] at hdata
    have hstream : PackedStream limits sol data
        (List.range' 1 (scanKeys sol (entries.map Prod.fst) {}).maxIndex).length := by
      refine stream_of_join (fun i _ => ?_) hdata
      cases entries.find? fun e => e.1.isIndex i with
      | none => exact ⟨depth + 1, .nil, by simp only [encodeValue]⟩
      | some e => exact ⟨depth + 1, e.2, rfl⟩
    rw [List.length_range'] at hstream
    exact ⟨_, _, data, hstream, hlimits.maxIndex_lt harray, .inl ⟨rfl, le_rfl⟩⟩
  · refine ⟨_, _, data, stream_of_entries hdata, hfew.trans_lt hlimits.map, .inr ⟨rfl, ?_⟩⟩
    have hcount := entryCount_le sol (entries.map Prod.fst) {}
    simp only [List.length_map] at hcount
    omega

/-- What the encoder writes: the bytes of a value that takes them all, those of a table, or those of a
service handle. -/
lemma encodeValue_shape (hlimits : FitsWords limits)
    (hsol : ∀ form packed, sol.userdata = some (form, .ok packed) →
      ∃ depth entries, encodeValue limits sol depth (.table entries) = .ok packed)
    (h : encodeValue limits sol depth v = .ok bytes) :
    (∃ w, Packed bytes w) ∨ TableBytes limits sol bytes ∨
      ∃ tail, bytes = TypeTag.serviceHandle.byte :: tail := by
  cases v with
  | nil =>
    cases ok_of_checkDepth h
    exact .inl ⟨.nil, .nil⟩
  | boolean b =>
    cases ok_of_checkDepth h
    exact .inl ⟨.boolean b, .boolean b⟩
  | integer | float =>
    cases ok_of_checkDepth h
    exact .inl ⟨_, packed_encodeNumber _ _⟩
  | string => exact .inl ⟨_, packed_string hlimits (ok_of_checkDepth h)⟩
  | table => exact .inr (.inl (tableBytes_of_encode hlimits h))
  | handle id =>
    rw [encodeValue] at h
    replace h := ok_of_checkDepth h
    split at h
    · rename_i form packed huserdata
      subst h
      obtain ⟨depth, entries, htable⟩ := hsol form bytes huserdata
      exact .inr (.inl (tableBytes_of_encode hlimits htable))
    · obtain ⟨tail, -, h⟩ := ok_of_bind_ok h
      cases h
      exact .inr (.inr ⟨tail, rfl⟩)
  | other => cases ok_of_checkDepth h

lemma not_backed_serviceHandle (tail : List UInt8) :
    ¬Backed (TypeTag.serviceHandle.byte :: tail) w n := by
  intro h
  have hdecode := decodeValue_of_backed h _ le_rfl
  simp [decodeValue] at hdecode

/-- Behind what was consumed there are still the encodings of at least `count` values. -/
def LeavesStream (limits : PackLimits) (sol : Sol2) (data : List UInt8) (n : Nat)
    (rest : List UInt8) (count : Nat) : Prop :=
  ∃ left more, data.drop n = left ++ rest ∧ PackedStream limits sol left more ∧ count ≤ more

/-- A value that is read takes at most one of the values of a stream. -/
def TakesOne (limits : PackLimits) (sol : Sol2) (data : List UInt8) : Prop :=
  ∀ w n stream rest count, Backed data w n → data = stream ++ rest →
    PackedStream limits sol stream (count + 1) → LeavesStream limits sol data n rest count

lemma backedItems_of_pairs {pairs : List (PackValue × PackValue)} (h : BackedPairs data pairs n) :
    ∃ items, BackedItems data items n ∧ items.length = 2 * pairs.length := by
  induction pairs generalizing data n with
  | nil =>
    cases h
    exact ⟨[], .nil _, rfl⟩
  | cons pair pairs ih =>
    cases h with
    | @cons _ key stored value _ first second others hkey hvalue hstored hpairs =>
      obtain ⟨items, hitems, hlength⟩ := ih hpairs
      refine ⟨key :: value :: items, ?_, by simp only [List.length_cons]; omega⟩
      rw [Nat.add_assoc]
      exact .cons hkey (.cons hvalue hitems)

section Loops

variable {size total : Nat} {stream : List UInt8}
  (ih : ∀ data : List UInt8, data.length < size → TakesOne limits sol data)
include ih

lemma items_leave {items : List PackValue} (hsize : data.length < size)
    (h : BackedItems data items n) (hdata : data = stream ++ rest)
    (hstream : PackedStream limits sol stream total) (hcount : items.length + count ≤ total) :
    LeavesStream limits sol data n rest count := by
  induction items generalizing data n stream total with
  | nil =>
    cases h
    exact ⟨stream, total, hdata, hstream, by simpa using hcount⟩
  | cons item items ihItems =>
    cases h with
    | @cons _ _ _ first others hitem hitems =>
      rw [List.length_cons] at hcount
      obtain ⟨more, rfl⟩ := Nat.exists_eq_add_of_le' (show 1 ≤ total by omega)
      obtain ⟨left, more', hleft, hmore, hle⟩ :=
        ih data hsize item first stream rest more hitem hdata hstream
      have hrest := ihItems (by rw [List.length_drop]; omega) hitems hleft hmore (by omega)
      rwa [LeavesStream, List.drop_drop] at hrest

end Loops

lemma drop_header (tag : UInt8) (size k : Nat) (data : List UInt8) :
    (tag :: (writeUint size 4 .little ++ data)).drop (5 + k) = data.drop k := by
  have hword : (writeUint size 4 .little).length = 4 := length_writeUint _ _ _
  rw [show 5 + k = (writeUint size 4 .little).length + k + 1 by omega, List.drop_succ_cons,
    List.drop_length_add_append]

lemma table_assoc (tag : UInt8) (word items tail rest : List UInt8) :
    tag :: (word ++ items) ++ tail ++ rest = tag :: (word ++ ((items ++ tail) ++ rest)) := by
  simp

theorem takesOne (hlimits : FitsWords limits)
    (hsol : ∀ form packed, sol.userdata = some (form, .ok packed) →
      ∃ depth entries, encodeValue limits sol depth (.table entries) = .ok packed)
    (data : List UInt8) : TakesOne limits sol data := by
  induction hsize : data.length using Nat.strong_induction_on generalizing data with
  | h size ih =>
    intro w n stream rest count h hdata hstream
    have hinner : ∀ data' : List UInt8, data'.length < size → TakesOne limits sol data' :=
      fun data' hdata' => ih _ hdata' data' rfl
    cases hstream with
    | @cons depth v head tail _ hhead htail =>
      subst hdata
      rcases encodeValue_shape hlimits hsol hhead with ⟨w', hpacked⟩ |
        ⟨size', total, items, hitems, hfits, ⟨rfl, hle⟩ | ⟨rfl, hle⟩⟩ | ⟨bytes, rfl⟩
      · -- the value is read to its end
        rw [List.append_assoc] at h ⊢
        obtain ⟨-, rfl⟩ := backed_unique h (hpacked (tail ++ rest))
        exact ⟨tail, count, by simp, htail, le_rfl⟩
      · rw [table_assoc] at h hsize ⊢
        obtain ⟨read, k, hread, hlength, -, rfl⟩ := backed_array_inv (length_writeUint _ _ _) h
        rw [readUint_writeUint _ 4 .little (by norm_num) (by norm_num; omega)] at hlength
        rw [LeavesStream, drop_header]
        refine items_leave hinner ?_ hread rfl (hitems.append htail) (by omega)
        simp only [List.length_cons, List.length_append] at hsize ⊢
        omega
      · rw [table_assoc] at h hsize ⊢
        obtain ⟨read, k, hread, hlength, -, rfl⟩ := backed_map_inv (length_writeUint _ _ _) h
        obtain ⟨values, hvalues, hdouble⟩ := backedItems_of_pairs hread
        rw [readUint_writeUint _ 4 .little (by norm_num) (by norm_num; omega)] at hlength
        rw [LeavesStream, drop_header]
        refine items_leave hinner ?_ hvalues rfl (hitems.append htail) (by omega)
        simp only [List.length_cons, List.length_append] at hsize ⊢
        omega
      · exact absurd h (not_backed_serviceHandle _)

/-- The decoder never reports the length of the encoding: the header is not counted. For a value that
it gives back it reports exactly the header less. -/
theorem consumed_lacks_header (sol : Sol2) (v w : PackValue) (bytes rest : List UInt8) (n : Nat)
    (hsol : ∀ form packed, sol.userdata = some (form, .ok packed) →
      ∃ depth entries, encodeValue {} sol depth (.table entries) = .ok packed)
    (h : packEncode {} sol v = .ok bytes) (hdecode : packDecode (bytes ++ rest) = .ok w n) :
    n ≠ bytes.length ∧
      (Everywhere Packable v → Everywhere (Counted {}) v → n + 4 = bytes.length) := by
  obtain ⟨payload, hpayload, hbytes⟩ := ok_of_bind_ok h
  cases hbytes
  have hlength : ([0x4C, 0x50, 1, 0] ++ payload).length = payload.length + 4 := by simp
  have hvalue : decodeValue (payload ++ rest).length (payload ++ rest) = .ok w n := by
    simpa [packDecode] using hdecode
  have hback := decodeValue_sound (payload ++ rest).length (payload ++ rest)
  rw [hvalue] at hback
  constructor
  · have hstream : PackedStream {} sol payload 1 := by
      simpa using PackedStream.cons hpayload .nil
    obtain ⟨left, more, hleft, -⟩ := takesOne fitsWords_default hsol (payload ++ rest) w n payload rest
      0 hback rfl hstream
    have hbound := consumed_le_of_backed hback
    have hsame := congrArg List.length hleft
    simp only [List.length_drop, List.length_append] at hsame hbound
    omega
  · intro hpack hcount
    obtain ⟨-, rfl⟩ := backed_exact fitsWords_default hpack hcount hpayload hback
    exact hlength.symm

theorem consumed_lacks_header_table :
    ∃ w n, packDecode (packedTableBytes ++ [1, 2]) = .ok w n ∧ n ≠ packedTableBytes.length ∧
      n + 4 = packedTableBytes.length := by
  have h : packEncode {} ⟨fun _ => 0, none⟩ packedTable = .ok packedTableBytes := rfl
  have hdecode : packDecode (packedTableBytes ++ [1, 2]) = .ok _ _ := rfl
  obtain ⟨hne, hexact⟩ := consumed_lacks_header ⟨fun _ => 0, none⟩ packedTable _ packedTableBytes
    [1, 2] _ nofun h hdecode
  exact ⟨_, _, hdecode, hne, hexact (by decide) (by decide)⟩

/-- A nil takes five bytes, and one is reported. The next value does not begin behind that one. -/
theorem consumed_without_header :
    packEncode {} ⟨fun _ => 0, none⟩ .nil = .ok [0x4C, 0x50, 1, 0, 0] ∧
    packDecode [0x4C, 0x50, 1, 0, 0, 0x4C, 0x50, 1, 0, 0] = .ok .nil 1 ∧
    packDecode (List.drop 1 [0x4C, 0x50, 1, 0, 0, 0x4C, 0x50, 1, 0, 0]) =
      .error "invalid LuaPack magic bytes" :=
  ⟨rfl, rfl, rfl⟩

end ShieldRuntime.Proofs
