import Mathlib.Data.Nat.Digits.Lemmas
import ShieldRuntime.Transport.Envelope

/-!
# Envelopes as incremental decoders

The integer fields of the headers are positional notation in base 256. Each round of the four `feed`
loops is stable under more input, and cuts a frame written by `encode` back whole.
-/

namespace ShieldRuntime.Proofs
open Library Transport

section

lemma ofDigits_range_digits (w n : Nat) :
    Nat.ofDigits 256 ((List.range w).map fun i => n / 256 ^ i % 256) = n % 256 ^ w := by
  induction w with
  | zero => simp [Nat.mod_one]
  | succ w ih =>
    rw [List.range_succ, List.map_append, Nat.ofDigits_append, ih, Nat.mod_pow_succ]
    simp

lemma two_pow_mul_eight (k : Nat) : (2 : Nat) ^ (k * 8) = 256 ^ k := by
  rw [Nat.mul_comm, Nat.pow_mul]

lemma shiftLeft_lt_word {v i j : Nat} (hv : v < 256 ^ i) (h : i + j ≤ 8) :
    v <<< (j * 8) < 2 ^ 64 := by
  rw [Nat.shiftLeft_eq, two_pow_mul_eight]
  calc
    v * 256 ^ j < 256 ^ i * 256 ^ j := Nat.mul_lt_mul_of_pos_right hv (by positivity)
    _ = 256 ^ (i + j) := (pow_add _ _ _).symm
    _ ≤ 256 ^ 8 := Nat.pow_le_pow_right (by norm_num) h
    _ = 2 ^ 64 := by norm_num

lemma or_shift_eq_add (v b k : Nat) (hv : v < 256 ^ k) (hb : b < 256) (hk : k < 8) :
    v ||| (b <<< (k * 8)) % 2 ^ 64 = v + 256 ^ k * b := by
  have hlt : b <<< (k * 8) < 2 ^ 64 := shiftLeft_lt_word (i := 1) hb (by omega)
  have hv2 : v < 2 ^ (k * 8) := by
    rw [two_pow_mul_eight]
    exact hv
  rw [Nat.mod_eq_of_lt hlt, Nat.or_comm, ← Nat.shiftLeft_add_eq_or_of_lt hv2, Nat.shiftLeft_eq,
    two_pow_mul_eight]
  ring

lemma shift_or_eq_add (v b k : Nat) (hv : v < 256 ^ k) (hb : b < 256) (hk : k < 8) :
    (v <<< 8) % 2 ^ 64 ||| b = v * 256 + b := by
  have hlt : v <<< 8 < 2 ^ 64 := shiftLeft_lt_word (j := 1) hv (by omega)
  rw [Nat.mod_eq_of_lt hlt, ← Nat.shiftLeft_add_eq_or_of_lt (by simpa using hb), Nat.shiftLeft_eq]

variable (data : List UInt8)

-- The accumulator of the little-endian loop holds the digits below the current index.
lemma readUint_little_loop (k v : Nat) (hv : v < 256 ^ k)
    (hlen : k + data.length ≤ 8) :
    (data.zipIdx k).foldl (fun value p => value ||| (p.1.toNat <<< (p.2 * 8)) % 2 ^ 64) v =
      v + 256 ^ k * Nat.ofDigits 256 (data.map UInt8.toNat) := by
  induction data generalizing k v with
  | nil => simp
  | cons b data ih =>
    rw [List.length_cons] at hlen
    have hb : b.toNat < 256 := b.toNat_lt
    have hs : v + 256 ^ k * b.toNat < 256 ^ (k + 1) := by
      rw [pow_succ]
      nlinarith
    rw [List.zipIdx_cons, List.foldl_cons, or_shift_eq_add v b.toNat k hv hb (by omega),
      ih (k + 1) _ hs (by omega), List.map_cons, Nat.ofDigits_cons]
    ring

lemma readUint_big_loop (k v : Nat) (hv : v < 256 ^ k)
    (hlen : k + data.length ≤ 8) :
    data.foldl (fun value byte => (value <<< 8) % 2 ^ 64 ||| byte.toNat) v =
      v * 256 ^ data.length + Nat.ofDigits 256 (data.map UInt8.toNat).reverse := by
  induction data generalizing k v with
  | nil => simp
  | cons b data ih =>
    rw [List.length_cons] at hlen
    have hb : b.toNat < 256 := b.toNat_lt
    have hs : v * 256 + b.toNat < 256 ^ (k + 1) := by
      rw [pow_succ]
      nlinarith
    rw [List.foldl_cons, shift_or_eq_add v b.toNat k hv hb (by omega), ih (k + 1) _ hs (by omega),
      List.map_cons, List.reverse_cons, Nat.ofDigits_append]
    simp only [List.length_cons, List.length_reverse, List.length_map, Nat.ofDigits_singleton]
    ring

theorem readUint_eq_ofDigits (endian : Endian) (h : data.length ≤ 8) :
    readUint data endian =
      match endian with
      | .big => Nat.ofDigits 256 (data.map UInt8.toNat).reverse
      | .little => Nat.ofDigits 256 (data.map UInt8.toNat) := by
  cases endian with
  | big => simpa [readUint] using readUint_big_loop data 0 0 (by norm_num) (by omega)
  | little => simpa [readUint] using readUint_little_loop data 0 0 (by norm_num) (by omega)

@[simp] lemma length_writeUint (value width : Nat) (endian : Endian) :
    (writeUint value width endian).length = width := by
  cases endian <;> simp [writeUint]

lemma toNat_writeUint_little (value width : Nat) :
    (writeUint value width .little).map UInt8.toNat =
      (List.range width).map fun i => value / 256 ^ i % 256 := by
  rw [writeUint, List.map_map]
  apply List.map_congr_left
  intro i _
  have hand : (value >>> (i * 8)) &&& 0xff = value / 256 ^ i % 256 := by
    rw [Nat.shiftRight_eq_div_pow, two_pow_mul_eight]
    exact Nat.and_two_pow_sub_one_eq_mod _ 8
  have hlt : value / 256 ^ i % 256 < 256 := Nat.mod_lt _ (by norm_num)
  rw [Function.comp_apply, hand, UInt8.toNat_ofNat', Nat.mod_eq_of_lt (by simpa using hlt)]

lemma writeUint_big_eq_reverse (value width : Nat) :
    writeUint value width .big = (writeUint value width .little).reverse := by
  apply List.ext_getElem (by simp)
  intro i h1 h2
  simp [writeUint, List.getElem_reverse]

/-- A field that fits its width reads back, in both byte orders. -/
theorem readUint_writeUint (value width : Nat) (endian : Endian) (hw : width ≤ 8)
    (hv : value < 256 ^ width) : readUint (writeUint value width endian) endian = value := by
  have hlittle : Nat.ofDigits 256 ((writeUint value width .little).map UInt8.toNat) = value := by
    rw [toNat_writeUint_little, ofDigits_range_digits, Nat.mod_eq_of_lt hv]
  rw [readUint_eq_ofDigits _ _ (by simpa using hw)]
  cases endian with
  | big =>
    simpa only [writeUint_big_eq_reverse, List.map_reverse, List.reverse_reverse] using hlittle
  | little => exact hlittle

lemma lt_of_mem_map_toNat : ∀ x ∈ data.map UInt8.toNat, x < 256 := by
  intro x hx
  obtain ⟨b, -, rfl⟩ := List.mem_map.mp hx
  exact b.toNat_lt

lemma readUint_lt (endian : Endian) (h : data.length ≤ 8) :
    readUint data endian < 256 ^ data.length := by
  rw [readUint_eq_ofDigits data endian h]
  cases endian with
  | big =>
    have hlt := Nat.ofDigits_lt_base_pow_length (b := 256) (by norm_num)
      (fun x hx => lt_of_mem_map_toNat data x (List.mem_reverse.mp hx))
    simpa using hlt
  | little =>
    simpa using Nat.ofDigits_lt_base_pow_length (by norm_num) (lt_of_mem_map_toNat data)

lemma readUint_inj {a b : List UInt8} {endian : Endian} (ha : a.length ≤ 8)
    (hlen : a.length = b.length) (h : readUint a endian = readUint b endian) : a = b := by
  have hinj : Function.Injective (List.map UInt8.toNat) :=
    List.map_injective_iff.mpr fun _ _ => UInt8.toNat_inj.mp
  rw [readUint_eq_ofDigits a endian ha, readUint_eq_ofDigits b endian (by omega)] at h
  apply hinj
  cases endian with
  | big =>
    apply List.reverse_injective
    exact Nat.ofDigits_inj_of_len_eq (by norm_num) (by simpa using hlen)
      (fun x hx => lt_of_mem_map_toNat a x (List.mem_reverse.mp hx))
      (fun x hx => lt_of_mem_map_toNat b x (List.mem_reverse.mp hx)) h
  | little =>
    exact Nat.ofDigits_inj_of_len_eq (by norm_num) (by simpa using hlen) (lt_of_mem_map_toNat a)
      (lt_of_mem_map_toNat b) h

/-- The fields are canonical: the value read from some bytes is written as these bytes. -/
theorem writeUint_readUint (endian : Endian) (h : data.length ≤ 8) :
    writeUint (readUint data endian) data.length endian = data := by
  have hback := readUint_writeUint _ _ endian h (readUint_lt data endian h)
  exact readUint_inj (by simpa using h) (length_writeUint _ _ _) hback

variable {width : Nat}

section

variable (h : validIntegerWidth width = true)
include h

lemma validIntegerWidth_cases :
    width = 1 ∨ width = 2 ∨ width = 4 ∨ width = 8 := by
  simpa [validIntegerWidth, or_assoc] using h

lemma pos_of_validIntegerWidth : 0 < width := by
  rcases validIntegerWidth_cases h with rfl | rfl | rfl | rfl <;> norm_num

lemma le_eight_of_validIntegerWidth : width ≤ 8 := by
  rcases validIntegerWidth_cases h with rfl | rfl | rfl | rfl <;> norm_num

end

lemma lt_of_fitsWidth {value : Nat} (h64 : value < 2 ^ 64) (hw : width ≤ 8)
    (h : fitsWidth value width = true) : value < 256 ^ width := by
  unfold fitsWidth at h
  split at h
  · have hw8 : width = 8 := by omega
    subst hw8
    exact h64
  · rw [← two_pow_mul_eight]
    simpa using h

end

section

variable {name : String} {config : EnvelopeConfig} {headerSize lengthField : Nat}
  {buffer : List UInt8}

section
variable {header p : Packet} {n : Nat}

lemma cutFrame_emit (h : cutFrame name config headerSize lengthField header buffer = .emit p n) :
    ∃ payloadLen,
      bodyLengthFromField lengthField headerSize config.lengthIncludesHeader = some payloadLen ∧
      payloadLen ≤ sizeMax - headerSize ∧
      ¬(0 < config.maxFrameSize ∧ config.maxFrameSize < payloadLen) ∧
      payloadLen + headerSize ≤ buffer.length ∧ n = payloadLen + headerSize ∧
      p = { header with
        body := (buffer.drop headerSize).take payloadLen
        rawFrame := buffer.take (payloadLen + headerSize) } := by
  revert h
  fun_cases cutFrame name config headerSize lengthField header buffer <;> rintro ⟨⟩
  exact ⟨_, ‹_›, by omega, ‹_›, by omega, rfl, rfl⟩

lemma cutFrame_emit_append (more : List UInt8)
    (h : cutFrame name config headerSize lengthField header buffer = .emit p n) :
    cutFrame name config headerSize lengthField header (buffer ++ more) = .emit p n ∧
      headerSize ≤ n ∧ n ≤ buffer.length := by
  obtain ⟨payloadLen, hb, hover, hmax, hlen, rfl, rfl⟩ := cutFrame_emit h
  have hlen' : ¬(buffer ++ more).length < payloadLen + headerSize := by
    rw [List.length_append]
    omega
  have hdrop : ((buffer ++ more).drop headerSize).take payloadLen =
      (buffer.drop headerSize).take payloadLen := by
    rw [List.drop_append_of_le_length (by omega),
      List.take_append_of_le_length (by rw [List.length_drop]; omega)]
  refine ⟨?_, by omega, hlen⟩
  simp only [cutFrame, hb]
  rw [if_neg (by omega), if_neg hmax, if_neg hlen', hdrop, List.take_append_of_le_length hlen]

lemma body_bound_of_cutFrame
    (h : cutFrame name config headerSize lengthField header buffer = .emit p n) :
    ¬(0 < config.maxFrameSize ∧ config.maxFrameSize < p.body.length) := by
  obtain ⟨payloadLen, -, -, hmax, hlen, -, rfl⟩ := cutFrame_emit h
  simp only [List.length_take, List.length_drop]
  omega

lemma length_lt_of_cutFrame_wait (hmax : 0 < config.maxFrameSize)
    (h : cutFrame name config headerSize lengthField header buffer = .wait) :
    buffer.length < headerSize + config.maxFrameSize := by
  revert h
  fun_cases cutFrame name config headerSize lengthField header buffer <;> rintro ⟨⟩
  omega

lemma idFrame_emit {idError : String} {header : Nat → Packet}
    (h : idFrameLook name idError header config buffer = .emit p n) :
    config.routeIdBytes + config.lengthBytes ≤ buffer.length ∧
      readUint (buffer.take config.routeIdBytes) config.endian < 2 ^ 32 ∧
      cutFrame name config (config.routeIdBytes + config.lengthBytes)
        (readUint ((buffer.drop config.routeIdBytes).take config.lengthBytes) config.endian)
        (header (readUint (buffer.take config.routeIdBytes) config.endian)) buffer = .emit p n := by
  simp only [idFrameLook] at h
  split at h
  · cases h
  split at h
  · cases h
  · exact ⟨by omega, by omega, h⟩

end

variable {e : String}

lemma cutFrame_fail_append {header : Packet} (more : List UInt8)
    (h : cutFrame name config headerSize lengthField header buffer = .fail e) :
    cutFrame name config headerSize lengthField header (buffer ++ more) = .fail e := by
  revert h
  fun_cases cutFrame name config headerSize lengthField header buffer <;> rintro ⟨⟩ <;>
    simp [cutFrame, *]

/-- A packet keeps the bytes it was read from. -/
def Faithful (buffer : List UInt8) : Look String Packet → Prop
  | .wait => True
  | .fail e => e ≠ ""
  | .emit p n => p.rawFrame = buffer.take n

lemma cutFrame_faithful (name : String) (config : EnvelopeConfig) (headerSize lengthField : Nat)
    (header : Packet) (buffer : List UInt8) :
    Faithful buffer (cutFrame name config headerSize lengthField header buffer) := by
  have hne : ∀ text : String, text ≠ "" → name ++ text ≠ "" := by
    intro text ht hcat
    exact ht (String.append_eq_empty_iff.mp hcat).2
  unfold cutFrame
  split
  · exact hne _ (by decide)
  split
  · exact hne _ (by decide)
  split
  · exact hne _ (by decide)
  split
  · trivial
  · rfl

lemma idFrame_incremental (name idError : String) (header : Nat → Packet) (config : EnvelopeConfig)
    (hw : 0 < config.lengthBytes) : Incremental (idFrameLook name idError header config) := by
  apply incremental_of_header (config.routeIdBytes + config.lengthBytes) (by omega)
    (fun bytes buffer =>
      if 2 ^ 32 - 1 < readUint (bytes.take config.routeIdBytes) config.endian then .fail idError
      else cutFrame name config (config.routeIdBytes + config.lengthBytes)
        (readUint (bytes.drop config.routeIdBytes) config.endian)
        (header (readUint (bytes.take config.routeIdBytes) config.endian)) buffer)
  · intro buffer
    have hid : (buffer.take (config.routeIdBytes + config.lengthBytes)).take config.routeIdBytes =
        buffer.take config.routeIdBytes := by
      rw [List.take_take, Nat.min_eq_left (by omega)]
    have hlen : (buffer.take (config.routeIdBytes + config.lengthBytes)).drop config.routeIdBytes =
        (buffer.drop config.routeIdBytes).take config.lengthBytes := by
      rw [List.drop_take, Nat.add_sub_cancel_left]
    rw [hid, hlen]
    rfl
  · intro bytes buffer p n more h
    split at h
    · cases h
    rename_i hid
    rw [if_neg hid]
    exact cutFrame_emit_append more h
  · intro bytes buffer e more h
    split at h
    · rename_i hid
      rw [if_pos hid, h]
    rename_i hid
    rw [if_neg hid]
    exact cutFrame_fail_append more h

lemma delimiter_incremental (config : EnvelopeConfig) :
    Incremental (DelimiterEnvelope.look config) := by
  have hemit : ∀ {buffer p n} (more : List UInt8), DelimiterEnvelope.look config buffer = .emit p n →
      DelimiterEnvelope.look config (buffer ++ more) = .emit p n ∧ 0 < n ∧ n ≤ buffer.length := by
    intro buffer p n more h
    unfold DelimiterEnvelope.look at h ⊢
    rw [List.findIdx?_append]
    cases hf : buffer.findIdx? (· == config.delimiter) with
    | none =>
      simp only [hf] at h
      split at h <;> cases h
    | some bodyLen =>
      obtain ⟨hlt, -⟩ := List.findIdx?_eq_some_iff_getElem.mp hf
      simp only [hf, Option.some_or] at h ⊢
      split at h
      · cases h
      rename_i hmax
      rw [if_neg hmax, List.take_append_of_le_length (by omega),
        List.take_append_of_le_length (by omega)]
      cases h
      exact ⟨rfl, by omega, by omega⟩
  constructor
  · intro buffer p n h
    exact (hemit [] h).2.1
  · intro buffer p n h
    exact (hemit [] h).2.2
  · intro buffer p n more h
    exact (hemit more h).1
  · intro buffer e more h
    unfold DelimiterEnvelope.look at h ⊢
    rw [List.findIdx?_append]
    cases hf : buffer.findIdx? (· == config.delimiter) with
    | none =>
      simp only [hf, Option.none_or] at h ⊢
      split at h
      · rename_i hmax
        -- The limit is already exceeded, wherever the next delimiter stands.
        cases hm : more.findIdx? (· == config.delimiter) with
        | none =>
          have hlong : 0 < config.maxFrameSize ∧
              config.maxFrameSize < (buffer ++ more).length := by
            rw [List.length_append]
            omega
          simp only [Option.map_none, if_pos hlong]
          exact h
        | some j =>
          have hlong : 0 < config.maxFrameSize ∧ config.maxFrameSize < j + buffer.length := by
            omega
          simp only [Option.map_some, if_pos hlong]
          exact h
      · cases h
    | some bodyLen =>
      simp only [hf, Option.some_or] at h ⊢
      split at h
      · rename_i hmax
        rw [if_pos hmax, h]
      · cases h

def HasValidWidths (kind : EnvelopeKind) (config : EnvelopeConfig) : Prop :=
  (createEnvelope kind config).widthError = none

instance (kind : EnvelopeKind) (config : EnvelopeConfig) :
    Decidable (HasValidWidths kind config) :=
  inferInstanceAs (Decidable ((createEnvelope kind config).widthError = none))

lemma lengthBytes_pos {env : Envelope} (h : env.widthError = none) (hkind : env.kind ≠ .delimiter) :
    0 < env.config.lengthBytes := by
  unfold Envelope.widthError at h
  cases hk : env.kind with
  | lenPrefix =>
    simp only [hk, ite_eq_left_iff, reduceCtorEq, imp_false, not_not] at h
    exact pos_of_validIntegerWidth h
  | idLen | typeLen =>
    simp only [hk, ite_eq_left_iff, reduceCtorEq, imp_false, not_not, Bool.and_eq_true] at h
    exact pos_of_validIntegerWidth h.2
  | delimiter => exact absurd hk hkind

variable (env : Envelope)

def frameHeaderSize : Nat :=
  match env.kind with
  | .lenPrefix => env.config.lengthBytes
  | .idLen | .typeLen => env.config.routeIdBytes + env.config.lengthBytes
  | .delimiter => 0

/-- A length prefix is the header of an id envelope with an id of no bytes. -/
lemma lenPrefix_look_eq (config : EnvelopeConfig) :
    LenPrefixEnvelope.look config =
      idFrameLook "lenprefix" "lenprefix" (fun _ => {}) { config with routeIdBytes := 0 } := by
  funext buffer
  have hid : readUint (buffer.take 0) config.endian = 0 := by
    cases config.endian <;> rfl
  simp only [LenPrefixEnvelope.look, idFrameLook, hid, Nat.zero_add, List.drop_zero]
  rfl

lemma envelope_look_cases :
    env.kind = .delimiter ∧ env.look = DelimiterEnvelope.look env.config ∨
      env.kind ≠ .delimiter ∧ ∃ name idError header routeIdBytes, idError ≠ "" ∧
        routeIdBytes + env.config.lengthBytes = frameHeaderSize env ∧
        env.look = idFrameLook name idError header { env.config with routeIdBytes } := by
  unfold Envelope.look frameHeaderSize
  cases env.kind with
  | lenPrefix =>
    exact .inr ⟨nofun, _, _, _, 0, by decide, Nat.zero_add _, lenPrefix_look_eq env.config⟩
  | idLen | typeLen =>
    exact .inr ⟨nofun, _, _, _, env.config.routeIdBytes, by decide, rfl, rfl⟩
  | delimiter => exact .inl ⟨rfl, rfl⟩

lemma envelope_incremental (h : env.widthError = none) : Incremental env.look := by
  rcases envelope_look_cases env with ⟨-, hlook⟩ | ⟨hk, _, _, _, _, -, -, hlook⟩ <;> rw [hlook]
  · exact delimiter_incremental _
  · exact idFrame_incremental _ _ _ _ (lengthBytes_pos h hk)

lemma envelope_look_nil (h : env.widthError = none) : env.look [] = .wait := by
  rcases envelope_look_cases env with ⟨-, hlook⟩ | ⟨hk, _, _, _, _, -, -, hlook⟩ <;> rw [hlook]
  · simp [DelimiterEnvelope.look]
  · simp [idFrameLook, lengthBytes_pos h hk]

lemma envelope_faithful (buffer : List UInt8) :
    Faithful buffer (env.look buffer) := by
  rcases envelope_look_cases env with ⟨-, hlook⟩ | ⟨-, _, _, _, _, hid, -, hlook⟩ <;> rw [hlook]
  · simp only [DelimiterEnvelope.look]
    split
    · split
      · change "delimiter frame too large" ≠ ""
        decide
      · trivial
    · split
      · change "delimiter frame too large" ≠ ""
        decide
      · rfl
  · simp only [idFrameLook]
    split
    · trivial
    split
    · exact hid
    · exact cutFrame_faithful ..

lemma envelope_fail_ne (h : env.look buffer = .fail e) : e ≠ "" := by
  have hfaithful := envelope_faithful env buffer
  rwa [h] at hfaithful

def settleEnvelope : Except String (List UInt8) → Envelope
  | .ok rest => { env with buffer := rest, error := "" }
  | .error message => { env with buffer := [], error := message }

lemma feed_bytes (h : env.widthError = none) (data : List UInt8) :
    env.feed (.bytes data) =
      ((decode env.look (env.buffer ++ data)).1,
        settleEnvelope env (decode env.look (env.buffer ++ data)).2) := by
  simp only [Envelope.feed, h]
  cases hd : decode env.look (env.buffer ++ data) with
  | mk packets result => cases result <;> rfl

lemma hasError_settle (h : env.widthError = none) (buffer : List UInt8) :
    (settleEnvelope env (decode env.look buffer).2).hasError = true ↔
      ∃ e, (decode env.look buffer).2 = .error e := by
  cases hd : (decode env.look buffer).2 with
  | ok => simp [settleEnvelope, Envelope.hasError]
  | error =>
    obtain ⟨seen, hs⟩ := decode_error_of_look (envelope_incremental env h) buffer hd
    simpa [settleEnvelope, Envelope.hasError] using envelope_fail_ne env hs

lemma feedChunks_eq_decodeChunks (h : env.widthError = none) (he : env.error = "")
    (chunks : List (List UInt8)) :
    env.feedChunks chunks =
      ((decodeChunks env.look env.buffer chunks).1,
        settleEnvelope env (decodeChunks env.look env.buffer chunks).2) := by
  induction chunks generalizing env with
  | nil =>
    simp only [Envelope.feedChunks, decodeChunks, settleEnvelope]
    rw [← he]
  | cons chunk chunks ih =>
    have herr := hasError_settle env h (env.buffer ++ chunk)
    simp only [Envelope.feedChunks, decodeChunks, feed_bytes env h]
    cases hd : decode env.look (env.buffer ++ chunk) with
    | mk packets result =>
      simp only [hd] at herr
      cases result with
      | error e => simp only [herr.mpr ⟨e, rfl⟩, ite_true]
      | ok rest =>
        have hno : (settleEnvelope env (.ok rest)).hasError = false := by
          simpa using herr
        have hi := ih (settleEnvelope env (.ok rest)) h rfl
        simp only [hno, Bool.false_eq_true, ite_false, hi]
        rfl

/-- Feeding a stream in any chunks, up to the first error, returns the packets of feeding it
whole; the two report an error together and otherwise retain the same buffer. -/
theorem envelope_feed_chunks (kind : EnvelopeKind) (config : EnvelopeConfig)
    (h : HasValidWidths kind config) (chunks : List (List UInt8)) :
    let whole := (createEnvelope kind config).feed (.bytes chunks.flatten)
    let parts := (createEnvelope kind config).feedChunks chunks
    parts.1 = whole.1 ∧ parts.2.hasError = whole.2.hasError ∧
      (whole.2.hasError = false → parts.2.buffer = whole.2.buffer) := by
  intro whole parts
  have hl := envelope_incremental _ h
  have hnil := envelope_look_nil _ h
  have hparts := feedChunks_eq_decodeChunks (createEnvelope kind config) h rfl chunks
  have hbuf : (createEnvelope kind config).buffer = [] := rfl
  rw [decodeChunks_eq hl _ (by rw [hbuf]; exact hnil) chunks, ← feed_bytes _ h] at hparts
  have heq : parts = whole := hparts
  rw [heq]
  exact ⟨rfl, rfl, fun _ => rfl⟩

theorem envelope_feed_chunks_lenPrefix_cut : HasValidWidths .lenPrefix { lengthBytes := 2 } ∧
      ((createEnvelope .lenPrefix { lengthBytes := 2 }).feedChunks [[0], [], [1, 7, 0]]).1 =
        ((createEnvelope .lenPrefix { lengthBytes := 2 }).feed (.bytes [0, 1, 7, 0])).1 :=
  ⟨by decide, (envelope_feed_chunks .lenPrefix { lengthBytes := 2 } (by decide)
    [[0], [], [1, 7, 0]]).1⟩

end

def lengthFieldOf (config : EnvelopeConfig) (headerSize : Nat) (body : List UInt8) : Nat :=
  if config.lengthIncludesHeader then body.length + headerSize else body.length

section

variable (config : EnvelopeConfig) (headerSize : Nat) (body : List UInt8)
  (hmax : headerSize + body.length ≤ vectorMaxSize)
include config headerSize body hmax

lemma bodyLengthFromField_lengthFieldOf :
    bodyLengthFromField (lengthFieldOf config headerSize body) headerSize
      config.lengthIncludesHeader = some body.length := by
  unfold vectorMaxSize at hmax
  unfold bodyLengthFromField lengthFieldOf sizeMax
  cases config.lengthIncludesHeader with
  | false =>
    have hle : ¬(2 ^ 64 - 1 < body.length) := by omega
    simp only [Bool.not_false, Bool.false_eq_true, ite_false, ite_true]
    rw [if_neg hle]
  | true =>
    have hle : ¬(body.length + headerSize < headerSize ∨
        2 ^ 64 - 1 < body.length + headerSize) := by omega
    simp only [Bool.not_true, Bool.false_eq_true, ite_false, ite_true]
    rw [if_neg hle, Nat.add_sub_cancel]

lemma lengthFieldOf_lt : lengthFieldOf config headerSize body < 2 ^ 64 := by
  unfold vectorMaxSize at hmax
  unfold lengthFieldOf
  split <;> omega

end

def exceedsLimit (config : EnvelopeConfig) (body : List UInt8) : Prop :=
  0 < config.maxFrameSize ∧ config.maxFrameSize < body.length

instance (config : EnvelopeConfig) (body : List UInt8) : Decidable (exceedsLimit config body) :=
  inferInstanceAs (Decidable (_ ∧ _))

lemma cutFrame_complete (name : String) (config : EnvelopeConfig) (header : Packet)
    {headerSize : Nat} {headerBytes : List UInt8} (hheader : headerBytes.length = headerSize)
    (body more : List UInt8) (hmax : headerSize + body.length ≤ vectorMaxSize) :
    cutFrame name config headerSize (lengthFieldOf config headerSize body) header
      (headerBytes ++ body ++ more) =
      if exceedsLimit config body then .fail (name ++ " frame too large")
      else .emit { header with body := body, rawFrame := headerBytes ++ body }
        (headerBytes ++ body).length := by
  subst hheader
  have hover : ¬(sizeMax - headerBytes.length < body.length) := by
    unfold vectorMaxSize at hmax
    unfold sizeMax
    omega
  have hlen : ¬((headerBytes ++ body ++ more).length < body.length + headerBytes.length) := by
    simp only [List.length_append]
    omega
  have hbody : ((headerBytes ++ body ++ more).drop headerBytes.length).take body.length = body := by
    rw [List.append_assoc, List.drop_left, List.take_left]
  have hraw : (headerBytes ++ body ++ more).take (body.length + headerBytes.length) =
      headerBytes ++ body := by
    rw [Nat.add_comm, ← List.length_append, List.take_left]
  unfold cutFrame
  rw [bodyLengthFromField_lengthFieldOf config _ body hmax]
  simp only [if_neg hover, if_neg hlen, hbody, hraw]
  rw [List.length_append, Nat.add_comm headerBytes.length]
  rfl

def decodedPacket (kind : EnvelopeKind) (packet : Packet) (frame : List UInt8) : Packet :=
  match kind with
  | .lenPrefix => { body := packet.body, rawFrame := frame }
  | .idLen => { routeId := packet.routeId, body := packet.body, rawFrame := frame }
  | .typeLen =>
    { routeId := TypeLenEnvelope.typeId packet
      kind := (TypeLenEnvelope.typeId packet).toUInt16
      body := packet.body
      rawFrame := frame }
  | .delimiter => { body := packet.body, rawFrame := frame }

lemma wrapped_lengthField (config : EnvelopeConfig) (headerSize total : Nat) (body : List UInt8)
    (htotal : total = body.length + headerSize) (hmax : headerSize + body.length ≤ vectorMaxSize) :
    (if config.lengthIncludesHeader = true then total % 2 ^ 64 else body.length) =
      lengthFieldOf config headerSize body := by
  have hlt := lengthFieldOf_lt config headerSize body hmax
  unfold lengthFieldOf at hlt ⊢
  split
  · rename_i hi
    rw [if_pos hi] at hlt
    rw [htotal, Nat.mod_eq_of_lt hlt]
  · rfl

/-- The header with an id, and the body. A length prefix has an id of no bytes. -/
def idFrame (config : EnvelopeConfig) (value : Nat) (body : List UInt8) : List UInt8 :=
  writeUint value config.routeIdBytes config.endian ++
    writeUint (lengthFieldOf config (config.routeIdBytes + config.lengthBytes) body)
      config.lengthBytes config.endian ++ body

/-- The numbers of the header fit their widths. -/
structure HeaderFits (config : EnvelopeConfig) (value : Nat) (body : List UInt8) : Prop where
  routeWidth : config.routeIdBytes ≤ 8
  route : value < 256 ^ config.routeIdBytes
  lengthWidth : config.lengthBytes ≤ 8
  length : lengthFieldOf config (config.routeIdBytes + config.lengthBytes) body <
    256 ^ config.lengthBytes
  size : config.routeIdBytes + config.lengthBytes + body.length ≤ vectorMaxSize

variable {config : EnvelopeConfig} {packet : Packet} {frame : List UInt8} {name idError : String}
  {id : Packet → UInt32}

lemma lenPrefix_frame (config : EnvelopeConfig) (body : List UInt8) :
    idFrame { config with routeIdBytes := 0 } 0 body =
      writeUint (lengthFieldOf config config.lengthBytes body) config.lengthBytes config.endian ++
        body := by
  have hid : writeUint 0 0 config.endian = [] := by
    cases config.endian <;> rfl
  simp only [idFrame, hid, Nat.zero_add]
  rfl

lemma lenPrefix_encode_ok (henc : LenPrefixEnvelope.encode config packet = .ok frame) :
    validIntegerWidth config.lengthBytes = true ∧
      HeaderFits { config with routeIdBytes := 0 } 0 packet.body ∧
      frame = idFrame { config with routeIdBytes := 0 } 0 packet.body := by
  revert henc
  fun_cases LenPrefixEnvelope.encode config packet <;> rintro ⟨⟩
  case case4 hw field hfit hmax =>
    rw [Bool.not_eq_true', Bool.not_eq_false] at hw hfit
    have hle := Nat.le_of_not_lt hmax
    have hw8 := le_eight_of_validIntegerWidth hw
    have hlt := lengthFieldOf_lt config config.lengthBytes packet.body hle
    have hfield : field = lengthFieldOf config config.lengthBytes packet.body :=
      wrapped_lengthField config config.lengthBytes _ packet.body rfl hle
    rw [hfield] at hfit ⊢
    have hlength := lt_of_fitsWidth hlt hw8 hfit
    refine ⟨hw, ⟨Nat.zero_le 8, Nat.one_pos, hw8, ?_, ?_⟩, (lenPrefix_frame config _).symm⟩
    · rwa [Nat.zero_add]
    · rwa [Nat.zero_add]

lemma idFrame_encode_ok (henc : idFrameEncode name idError id config packet = .ok frame) :
    (validIntegerWidth config.routeIdBytes && validIntegerWidth config.lengthBytes) = true ∧
      HeaderFits config (id packet).toNat packet.body ∧
      frame = idFrame config (id packet).toNat packet.body := by
  revert henc
  fun_cases idFrameEncode name idError id config packet <;> rintro ⟨⟩
  case case5 hw hid field hfit hmax =>
    rw [← Bool.not_and, Bool.not_eq_true', Bool.not_eq_false] at hw
    rw [Bool.not_eq_true', Bool.not_eq_false] at hid hfit
    have hw' := Bool.and_eq_true_iff.mp hw
    have hle := Nat.le_of_not_lt hmax
    have hr8 := le_eight_of_validIntegerWidth hw'.1
    have hw8 := le_eight_of_validIntegerWidth hw'.2
    have hlt := lengthFieldOf_lt config (config.routeIdBytes + config.lengthBytes) packet.body hle
    have hid64 : (id packet).toNat < 2 ^ 64 := lt_trans (id packet).toNat_lt (by norm_num)
    have hfield : field = lengthFieldOf config _ packet.body :=
      wrapped_lengthField config _ _ packet.body (Nat.add_assoc _ _ _) hle
    rw [hfield] at hfit ⊢
    exact ⟨hw, ⟨hr8, lt_of_fitsWidth hid64 hr8 hid, hw8, lt_of_fitsWidth hlt hw8 hfit, hle⟩, rfl⟩

lemma idFrame_look_frame {header : Nat → Packet} {value : Nat} {body : List UInt8}
    (h : HeaderFits config value body) (hvalue : value < 2 ^ 32) (more : List UInt8) :
    idFrameLook name idError header config (idFrame config value body ++ more) =
      if exceedsLimit config body then .fail (name ++ " frame too large")
      else .emit { header value with body := body, rawFrame := idFrame config value body }
        (idFrame config value body).length := by
  unfold idFrame
  set field := lengthFieldOf config (config.routeIdBytes + config.lengthBytes) body
  set idBytes := writeUint value config.routeIdBytes config.endian with hidBytes
  set lengthBytes := writeUint field config.lengthBytes config.endian with hlengthBytes
  have hidLen : idBytes.length = config.routeIdBytes := length_writeUint _ _ _
  have hlengthLen : lengthBytes.length = config.lengthBytes := length_writeUint _ _ _
  have hheader : (idBytes ++ lengthBytes).length = config.routeIdBytes + config.lengthBytes := by
    rw [List.length_append, hidLen, hlengthLen]
  have hshort : ¬((idBytes ++ lengthBytes ++ body ++ more).length <
      config.routeIdBytes + config.lengthBytes) := by
    simp only [List.length_append] at hheader ⊢
    omega
  have hreadId : readUint ((idBytes ++ lengthBytes ++ body ++ more).take config.routeIdBytes)
      config.endian = value := by
    rw [List.append_assoc, List.append_assoc, List.take_left' hidLen, hidBytes,
      readUint_writeUint _ _ _ h.routeWidth h.route]
  have hreadField : readUint (((idBytes ++ lengthBytes ++ body ++ more).drop
      config.routeIdBytes).take config.lengthBytes) config.endian = field := by
    rw [List.append_assoc, List.append_assoc, List.drop_left' hidLen, List.take_left' hlengthLen,
      hlengthBytes, readUint_writeUint _ _ _ h.lengthWidth h.length]
  have hid32 : ¬(2 ^ 32 - 1 < value) := by omega
  simp only [idFrameLook, if_neg hshort, hreadId, if_neg hid32, hreadField]
  exact cutFrame_complete name config (header value) hheader body more h.size

lemma typeId_kind (id : UInt32) : UInt16.ofNat (id.toNat &&& 0xffff) = id.toUInt16 := by
  apply UInt16.toNat_inj.mp
  rw [UInt16.toNat_ofNat', UInt32.toNat_toUInt16]
  have hand : id.toNat &&& 0xffff = id.toNat % 2 ^ 16 := Nat.and_two_pow_sub_one_eq_mod _ 16
  rw [hand, Nat.mod_mod]

/-- One round of `feed` cuts a freshly encoded frame back, whatever follows it, unless its body
is over the limit that `encode` does not check. -/
theorem envelope_look_encode (env : Envelope) (hk : env.kind ≠ .delimiter) (packet : Packet)
    (frame : List UInt8) (henc : env.encodeFrame packet = .ok frame) (more : List UInt8) :
    env.look (frame ++ more) =
      if exceedsLimit env.config packet.body then .fail (env.kind.label ++ " frame too large")
      else .emit (decodedPacket env.kind packet frame) frame.length := by
  unfold Envelope.encodeFrame at henc
  unfold Envelope.look
  cases hkind : env.kind with
  | lenPrefix =>
    simp only [hkind] at henc
    obtain ⟨-, hfits, rfl⟩ := lenPrefix_encode_ok henc
    simp only [lenPrefix_look_eq]
    exact idFrame_look_frame hfits (by decide) more
  | idLen =>
    simp only [hkind] at henc
    obtain ⟨-, hfits, rfl⟩ := idFrame_encode_ok henc
    refine (idFrame_look_frame hfits (UInt32.toNat_lt _) more).trans ?_
    simp only [decodedPacket, UInt32.ofNat_toNat, EnvelopeKind.label]
  | typeLen =>
    simp only [hkind] at henc
    obtain ⟨-, hfits, rfl⟩ := idFrame_encode_ok henc
    refine (idFrame_look_frame hfits (UInt32.toNat_lt _) more).trans ?_
    simp only [decodedPacket, UInt32.ofNat_toNat, typeId_kind, EnvelopeKind.label]
  | delimiter => exact (hk hkind).elim

lemma widthError_of_encode (env : Envelope) (henc : env.encodeFrame packet = .ok frame) :
    env.widthError = none := by
  unfold Envelope.encodeFrame at henc
  unfold Envelope.widthError
  cases hk : env.kind with
  | lenPrefix =>
    simp only [hk] at henc
    exact if_pos (lenPrefix_encode_ok henc).1
  | idLen | typeLen =>
    simp only [hk] at henc
    exact if_pos (idFrame_encode_ok henc).1
  | delimiter => rfl

/-- Feeding the concatenation of encoded packets to a fresh envelope of the same configuration
returns these packets, each with its own frame, and leaves nothing behind. -/
theorem envelope_round_trip (kind : EnvelopeKind) (hk : kind ≠ .delimiter)
    (config : EnvelopeConfig) (hl : validIntegerWidth config.lengthBytes = true)
    (hr : validIntegerWidth config.routeIdBytes = true)
    (packets : List Packet) (frames : List (List UInt8)) (henc : List.Forall₂ (fun packet frame =>
      (createEnvelope kind config).encodeFrame packet = .ok frame) packets frames)
    (hsize : ∀ packet ∈ packets,
      config.maxFrameSize = 0 ∨ packet.body.length ≤ config.maxFrameSize) :
    let fed := (createEnvelope kind config).feed (.bytes frames.flatten)
    fed.2.hasError = false ∧ fed.2.buffer = [] ∧
      fed.1 = List.zipWith (decodedPacket kind) packets frames := by
  have hw : (createEnvelope kind config).widthError = none := by
    have hl0 : config.lengthBytes ≠ 0 := (pos_of_validIntegerWidth hl).ne'
    have hr0 : config.routeIdBytes ≠ 0 := (pos_of_validIntegerWidth hr).ne'
    cases kind <;> simp [createEnvelope, envelopeConfig, Envelope.widthError, hl, hr, hl0, hr0]
  have hmax : (createEnvelope kind config).config.maxFrameSize = config.maxFrameSize := by
    cases kind <;> rfl
  have hcut : List.Forall₂ (fun frame packet => ∀ more,
      (createEnvelope kind config).look (frame ++ more) = .emit packet frame.length)
      frames (List.zipWith (decodedPacket kind) packets frames) := by
    induction henc with
    | nil => exact .nil
    | @cons packet frame packets frames hhead _ ih =>
      refine .cons (fun more => ?_) (ih fun p hp => hsize p (List.mem_cons_of_mem _ hp))
      have hfits : ¬exceedsLimit (createEnvelope kind config).config packet.body := by
        have h := hsize packet List.mem_cons_self
        unfold exceedsLimit
        omega
      rw [envelope_look_encode (createEnvelope kind config) hk packet frame hhead, if_neg hfits]
      rfl
  have hdecode := decode_frames (envelope_incremental _ hw) (envelope_look_nil _ hw) hcut
  have hbuf : (createEnvelope kind config).buffer = [] := rfl
  rw [feed_bytes _ hw, hbuf, List.nil_append, hdecode]
  exact ⟨rfl, rfl, rfl⟩

theorem envelope_round_trip_typeLen_pair : let config : EnvelopeConfig :=
      { endian := .little, lengthBytes := 2, routeIdBytes := 1, lengthIncludesHeader := true }
    let packets : List Packet := [{ routeId := 7, body := [1, 2] }, { kind := 3, body := [] }]
    let frames : List (List UInt8) := [[7, 5, 0, 1, 2], [3, 3, 0]]
    ((createEnvelope .typeLen config).feed (.bytes frames.flatten)).1 =
      List.zipWith (decodedPacket .typeLen) packets frames :=
  (envelope_round_trip .typeLen (by decide)
    { endian := .little, lengthBytes := 2, routeIdBytes := 1, lengthIncludesHeader := true }
    (by decide) (by decide) [{ routeId := 7, body := [1, 2] }, { kind := 3, body := [] }]
    [[7, 5, 0, 1, 2], [3, 3, 0]] (.cons (by decide) (.cons (by decide) .nil)) (by decide)).2.2

end ShieldRuntime.Proofs
