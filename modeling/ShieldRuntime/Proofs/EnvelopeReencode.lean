import ShieldRuntime.Proofs.EnvelopeStream

/-!
# Encoding what was decoded

Every header that `feed` accepts is the one that `encode` writes for its packet.
-/

namespace ShieldRuntime.Proofs
open Library Transport

lemma fitsWidth_of_lt {value width : Nat} (h : value < 256 ^ width) :
    fitsWidth value width = true := by
  unfold fitsWidth
  split
  · rfl
  · rw [two_pow_mul_eight]
    simpa using h

variable {config : EnvelopeConfig} {headerSize n : Nat} {body buffer : List UInt8} {p : Packet}

lemma lengthFieldOf_of_bodyLength {field : Nat}
    (h : bodyLengthFromField field headerSize config.lengthIncludesHeader = some body.length) :
    lengthFieldOf config headerSize body = field := by
  unfold bodyLengthFromField at h
  unfold lengthFieldOf
  cases hi : config.lengthIncludesHeader with
  | false =>
    rw [hi] at h
    simp only [Bool.not_false, ite_true, Option.ite_none_left_eq_some, Option.some.injEq] at h
    simpa using h.2.symm
  | true =>
    rw [hi] at h
    simp only [Bool.not_true, Bool.false_eq_true, ite_false, Option.ite_none_left_eq_some,
      Option.some.injEq] at h
    rw [if_pos rfl]
    omega

lemma cutFrame_parts {name : String} {lengthField : Nat} {header : Packet}
    (h : cutFrame name config headerSize lengthField header buffer = .emit p n) :
    p = { header with body := p.body, rawFrame := p.rawFrame } ∧
      p.rawFrame = buffer.take headerSize ++ p.body ∧
      p.rawFrame.length = headerSize + p.body.length ∧
      lengthFieldOf config headerSize p.body = lengthField := by
  obtain ⟨payloadLen, hb, -, -, hlen, -, rfl⟩ := cutFrame_emit h
  have hbody : ((buffer.drop headerSize).take payloadLen).length = payloadLen := by
    rw [List.length_take, List.length_drop]
    omega
  refine ⟨rfl, ?_, ?_, lengthFieldOf_of_bodyLength (by rw [hb, hbody])⟩
  · rw [Nat.add_comm payloadLen, List.take_add]
  · rw [hbody, List.length_take]
    omega

lemma idFrame_emit_frame {name idError : String} {header : Nat → Packet}
    (hr : config.routeIdBytes ≤ 8) (hw : config.lengthBytes ≤ 8)
    (h : idFrameLook name idError header config buffer = .emit p n)
    (hsize : p.rawFrame.length ≤ vectorMaxSize) :
    ∃ value < 2 ^ 32, p = { header value with body := p.body, rawFrame := p.rawFrame } ∧
      HeaderFits config value p.body ∧ p.rawFrame = idFrame config value p.body := by
  obtain ⟨hshort, hlt, hcut⟩ := idFrame_emit h
  obtain ⟨hp, hraw, hlen, hfield⟩ := cutFrame_parts hcut
  rw [hlen] at hsize
  set idBytes := buffer.take config.routeIdBytes with hidBytes
  set lengthBytes := (buffer.drop config.routeIdBytes).take config.lengthBytes with hlengthBytes
  have hidLen : idBytes.length = config.routeIdBytes := by
    rw [hidBytes, List.length_take]
    omega
  have hlengthLen : lengthBytes.length = config.lengthBytes := by
    rw [hlengthBytes, List.length_take, List.length_drop]
    omega
  have hidLt := readUint_lt idBytes config.endian (by omega)
  have hidWrite := writeUint_readUint idBytes config.endian (by omega)
  have hlengthLt := readUint_lt lengthBytes config.endian (by omega)
  have hlengthWrite := writeUint_readUint lengthBytes config.endian (by omega)
  rw [hidLen] at hidLt hidWrite
  rw [hlengthLen, ← hfield] at hlengthLt hlengthWrite
  refine ⟨_, hlt, hp, ⟨hr, hidLt, hw, hlengthLt, hsize⟩, ?_⟩
  rw [idFrame, hidWrite, hlengthWrite, hraw, List.take_add]

lemma lenPrefix_encode_emit (hw : validIntegerWidth config.lengthBytes = true)
    (h : LenPrefixEnvelope.look config buffer = .emit p n)
    (hsize : p.rawFrame.length ≤ vectorMaxSize) :
    LenPrefixEnvelope.encode config p = .ok p.rawFrame := by
  rw [lenPrefix_look_eq] at h
  have hw8 := le_eight_of_validIntegerWidth hw
  obtain ⟨value, -, -, hfits, hraw⟩ := idFrame_emit_frame (Nat.zero_le 8) (by exact hw8) h hsize
  obtain rfl : value = 0 := Nat.lt_one_iff.mp hfits.route
  have hlt := hfits.length
  have hle := hfits.size
  rw [Nat.zero_add] at hlt hle
  change lengthFieldOf config config.lengthBytes p.body < _ at hlt
  rw [hraw, lenPrefix_frame, LenPrefixEnvelope.encode,
    wrapped_lengthField config config.lengthBytes _ p.body rfl hle]
  simp only [hw, fitsWidth_of_lt hlt, Nat.not_lt.mpr hle, Bool.not_true, Bool.false_eq_true,
    ite_false]

lemma idFrame_encode_emit {name idError idError' : String} {header : Nat → Packet}
    {id : Packet → UInt32} (hid : ∀ value body rawFrame, value < 2 ^ 32 →
      (id { header value with body := body, rawFrame := rawFrame }).toNat = value)
    (hr : validIntegerWidth config.routeIdBytes = true)
    (hw : validIntegerWidth config.lengthBytes = true)
    (h : idFrameLook name idError header config buffer = .emit p n)
    (hsize : p.rawFrame.length ≤ vectorMaxSize) :
    idFrameEncode name idError' id config p = .ok p.rawFrame := by
  obtain ⟨value, hlt, hp, hfits, hraw⟩ := idFrame_emit_frame (le_eight_of_validIntegerWidth hr)
    (le_eight_of_validIntegerWidth hw) h hsize
  have hvalue : (id p).toNat = value := by
    rw [hp]
    exact hid _ _ _ hlt
  rw [hraw, idFrameEncode, wrapped_lengthField config (config.routeIdBytes + config.lengthBytes) _
    p.body (Nat.add_assoc _ _ _) hfits.size, hvalue]
  simp only [hr, hw, fitsWidth_of_lt hfits.route, fitsWidth_of_lt hfits.length,
    Nat.not_lt.mpr hfits.size, Bool.not_true, Bool.or_self, Bool.false_eq_true, ite_false, idFrame]

lemma typeId_of_header (value : Nat) (body rawFrame : List UInt8) (h : value < 2 ^ 32) :
    (TypeLenEnvelope.typeId
      { routeId := UInt32.ofNat value
        kind := UInt16.ofNat (value &&& 0xffff)
        body := body
        rawFrame := rawFrame }).toNat = value := by
  have hback : (UInt32.ofNat value).toNat = value := by
    rw [UInt32.toNat_ofNat', Nat.mod_eq_of_lt h]
  unfold TypeLenEnvelope.typeId
  split
  · exact hback
  rename_i hzero
  have hz : UInt32.ofNat value = 0 := not_not.mp hzero
  have h0 : value = 0 := by
    rw [← hback, hz]
    rfl
  subst h0
  rfl

lemma delimiter_emit (h : DelimiterEnvelope.look config buffer = .emit p n) :
    p.rawFrame = p.body ++ [config.delimiter] ∧ config.delimiter ∉ p.body ∧
      ¬(0 < config.maxFrameSize ∧ config.maxFrameSize < p.body.length) := by
  unfold DelimiterEnvelope.look at h
  split at h
  · split at h <;> cases h
  rename_i bodyLen hf
  obtain ⟨hlt, hat, hbefore⟩ := List.findIdx?_eq_some_iff_getElem.mp hf
  split at h
  · cases h
  rename_i hmax
  cases h
  refine ⟨?_, ?_, ?_⟩
  · change buffer.take (bodyLen + 1) = buffer.take bodyLen ++ [config.delimiter]
    rw [List.take_succ_eq_append_getElem hlt, beq_iff_eq.mp hat]
  · intro hmem
    obtain ⟨i, hi, hget⟩ := List.mem_iff_getElem.mp hmem
    rw [List.length_take] at hi
    rw [List.getElem_take] at hget
    have hne := hbefore i (by omega)
    simp [hget] at hne
  · rw [List.length_take, Nat.min_eq_left hlt.le]
    exact hmax

/-- A packet that a round of `feed` cuts is encoded as its own bytes. -/
theorem envelope_encode_emit (env : Envelope) (hw : env.widthError = none)
    (h : env.look buffer = .emit p n) (hsize : p.rawFrame.length ≤ vectorMaxSize) :
    env.encodeFrame p = .ok p.rawFrame := by
  unfold Envelope.widthError at hw
  unfold Envelope.look at h
  unfold Envelope.encodeFrame
  cases hk : env.kind with
  | lenPrefix =>
    simp only [hk, ite_eq_left_iff, reduceCtorEq, imp_false, not_not] at hw h
    exact lenPrefix_encode_emit hw h hsize
  | idLen =>
    simp only [hk, ite_eq_left_iff, reduceCtorEq, imp_false, not_not, Bool.and_eq_true] at hw h
    apply idFrame_encode_emit _ hw.1 hw.2 h hsize
    intro value body rawFrame hlt
    exact (UInt32.toNat_ofNat' ..).trans (Nat.mod_eq_of_lt hlt)
  | typeLen =>
    simp only [hk, ite_eq_left_iff, reduceCtorEq, imp_false, not_not, Bool.and_eq_true] at hw h
    exact idFrame_encode_emit typeId_of_header hw.1 hw.2 h hsize
  | delimiter =>
    simp only [hk] at h
    have hraw := (delimiter_emit h).1
    rw [hraw, List.length_append, List.length_singleton] at hsize
    simp only [DelimiterEnvelope.encode, if_neg (Nat.not_lt.mpr hsize), hraw]

lemma envelopeFeed_cases (env : Envelope) (data : InputSpan) :
    (∃ message, env.feed data = ([], settleEnvelope env (.error message))) ∨
      env.widthError = none ∧ ∃ bytes, env.feed data = env.feed (.bytes bytes) := by
  cases hw : env.widthError with
  | some message =>
    left
    cases data with
    | bytes => exact ⟨message, by simp only [Envelope.feed, hw, settleEnvelope]⟩
    | null size =>
      cases size with
      | zero => exact ⟨message, by simp only [Envelope.feed, hw, settleEnvelope]⟩
      | succ => exact ⟨_, rfl⟩
  | none =>
    cases data with
    | bytes bytes => exact Or.inr ⟨rfl, bytes, rfl⟩
    | null size =>
      cases size with
      | zero => exact Or.inr ⟨rfl, [], rfl⟩
      | succ => exact Or.inl ⟨_, rfl⟩

structure Fed (env : Envelope) (packets : List Packet) (left : Envelope) : Prop where
  kind_eq : left.kind = env.kind
  config_eq : left.config = env.config
  cut : ∀ p ∈ packets, env.widthError = none ∧ ∃ buffer n, env.look buffer = .emit p n
  stopped : left.buffer = env.buffer ∨ left.buffer = [] ∨ env.look left.buffer = .wait

lemma fed_feed (env : Envelope) (data : InputSpan) :
    Fed env (env.feed data).1 (env.feed data).2 := by
  rcases envelopeFeed_cases env data with ⟨message, hf⟩ | ⟨hw, bytes, hf⟩
  · rw [hf]
    exact ⟨rfl, rfl, by simp, Or.inr (Or.inl rfl)⟩
  have hl := envelope_incremental env hw
  have hcut : ∀ p ∈ (decode env.look (env.buffer ++ bytes)).1,
      env.widthError = none ∧ ∃ buffer n, env.look buffer = .emit p n :=
    decode_forall hl (fun h => ⟨hw, _, _, h⟩) (env.buffer ++ bytes)
  rw [hf, feed_bytes env hw]
  cases hd : (decode env.look (env.buffer ++ bytes)).2 with
  | ok => exact ⟨rfl, rfl, hcut, Or.inr (Or.inr (decode_rest_waits hl _ hd))⟩
  | error => exact ⟨rfl, rfl, hcut, Or.inr (Or.inl rfl)⟩

lemma fed_feedAll (env : Envelope) (inputs : List InputSpan) :
    Fed env (env.feedAll inputs).1 (env.feedAll inputs).2 := by
  induction inputs generalizing env with
  | nil => exact ⟨rfl, rfl, by simp [Envelope.feedAll], Or.inl rfl⟩
  | cons data inputs ih =>
    have hfirst := fed_feed env data
    have hnext := ih (env.feed data).2
    have hw : (env.feed data).2.widthError = env.widthError := by
      simp only [Envelope.widthError, hfirst.kind_eq, hfirst.config_eq]
    have hlook : (env.feed data).2.look = env.look := by
      simp only [Envelope.look, hfirst.kind_eq, hfirst.config_eq]
    simp only [Envelope.feedAll]
    refine ⟨hnext.kind_eq.trans hfirst.kind_eq, hnext.config_eq.trans hfirst.config_eq, ?_, ?_⟩
    · intro p hp
      rcases List.mem_append.mp hp with hp | hp
      · exact hfirst.cut p hp
      · have hcut := hnext.cut p hp
        rwa [hw, hlook] at hcut
    · have hstopped := hnext.stopped
      rw [hlook] at hstopped
      rcases hstopped with hsame | hrest
      · rw [hsame]
        exact hfirst.stopped
      · exact Or.inr hrest

/-- Encoding a packet that any calls of `feed` returned gives its own frame (as far as a vector
can hold one), and the frames followed by the retained buffer are the stream, as long as no call
reported an error. -/
theorem envelope_reencode (kind : EnvelopeKind) (config : EnvelopeConfig)
    (h : HasValidWidths kind config) :
    (∀ inputs, ∀ p ∈ ((createEnvelope kind config).feedAll inputs).1,
      p.rawFrame.length ≤ vectorMaxSize →
        ((createEnvelope kind config).feedAll inputs).2.encodeFrame p = .ok p.rawFrame) ∧
      ∀ chunks, ((createEnvelope kind config).feedChunks chunks).2.hasError = false →
        (((createEnvelope kind config).feedChunks chunks).1.map Packet.rawFrame).flatten ++
          ((createEnvelope kind config).feedChunks chunks).2.buffer = chunks.flatten := by
  set env := createEnvelope kind config with henv
  have hl := envelope_incremental env h
  constructor
  · intro inputs p hp hsize
    have hfed := fed_feedAll env inputs
    obtain ⟨-, buffer, n, hemit⟩ := hfed.cut p hp
    have hsame : (env.feedAll inputs).2.encodeFrame p = env.encodeFrame p := by
      simp only [Envelope.encodeFrame, hfed.kind_eq, hfed.config_eq]
    rw [hsame]
    exact envelope_encode_emit env h hemit hsize
  · intro chunks herr
    have hraw : ∀ {buffer p n}, env.look buffer = .emit p n → p.rawFrame = buffer.take n := by
      intro buffer p n hemit
      have hfaithful := envelope_faithful env buffer
      rwa [hemit] at hfaithful
    rw [feedChunks_eq_decodeChunks env h rfl] at herr ⊢
    rw [decodeChunks_eq hl env.buffer (envelope_look_nil env h)] at herr ⊢
    change ((decode env.look chunks.flatten).1.map Packet.rawFrame).flatten ++
      (settleEnvelope env (decode env.look chunks.flatten).2).buffer = chunks.flatten
    cases hd : (decode env.look chunks.flatten).2 with
    | ok => exact decode_flatten hl hraw chunks.flatten hd
    | error message =>
      rw [← Bool.not_eq_true, hasError_settle env h] at herr
      exact (herr ⟨message, hd⟩).elim

theorem envelope_reencode_typeLen :
    HasValidWidths .typeLen { routeIdBytes := 2, lengthBytes := 1 } ∧
      ((createEnvelope .typeLen { routeIdBytes := 2, lengthBytes := 1 }).feedChunks
        [[0], [9, 2, 7], [8, 0]]).1.map Packet.rawFrame = [[0, 9, 2, 7, 8]] ∧
      ((createEnvelope .typeLen { routeIdBytes := 2, lengthBytes := 1 }).feedAll
        [.bytes [0, 9, 2, 7, 8]]).2.encodeFrame
        { routeId := 9, kind := 9, body := [7, 8], rawFrame := [0, 9, 2, 7, 8] } =
        .ok [0, 9, 2, 7, 8] :=
  ⟨by decide, by decide,
    (envelope_reencode .typeLen { routeIdBytes := 2, lengthBytes := 1 } (by decide)).1
      [.bytes [0, 9, 2, 7, 8]]
      { routeId := 9, kind := 9, body := [7, 8], rawFrame := [0, 9, 2, 7, 8] } (by decide)
      (by decide)⟩

lemma delimiter_encode_ok {packet : Packet} {frame : List UInt8} :
    DelimiterEnvelope.encode config packet = .ok frame ↔
      packet.body.length < vectorMaxSize ∧ frame = packet.body ++ [config.delimiter] := by
  unfold DelimiterEnvelope.encode
  by_cases hsize : vectorMaxSize < packet.body.length + 1
  · simp only [if_pos hsize, reduceCtorEq, false_iff, not_and]
    omega
  · simp only [if_neg hsize, Except.ok.injEq, @eq_comm _ frame, iff_and_self]
    omega

lemma delimiter_look_frame (hbody : config.delimiter ∉ body)
    (hsize : config.maxFrameSize = 0 ∨ body.length ≤ config.maxFrameSize) (more : List UInt8) :
    DelimiterEnvelope.look config (body ++ [config.delimiter] ++ more) =
      .emit { body := body, rawFrame := body ++ [config.delimiter] }
        (body ++ [config.delimiter]).length := by
  have hnone : body.findIdx? (· == config.delimiter) = none := by
    rw [List.findIdx?_eq_none_iff]
    intro b hb
    rw [beq_eq_false_iff_ne]
    rintro rfl
    exact hbody hb
  have hfind : (body ++ [config.delimiter] ++ more).findIdx? (· == config.delimiter) =
      some body.length := by
    rw [List.append_assoc, List.findIdx?_append, hnone]
    simp [List.findIdx?_cons]
  have hmax : ¬(0 < config.maxFrameSize ∧ config.maxFrameSize < body.length) := by omega
  have htake : (body ++ [config.delimiter] ++ more).take (body.length + 1) =
      body ++ [config.delimiter] := List.take_left' (by simp)
  simp only [DelimiterEnvelope.look, hfind, if_neg hmax, htake]
  rw [List.append_assoc, List.take_left, List.length_append, List.length_singleton]

/-- Bodies come back from the delimiter envelope as they were encoded, and the others are refused,
exactly when none of those that fit a vector holds the delimiter: `encode` tests for nothing. -/
theorem delimiter_frames_exact_iff (config : EnvelopeConfig) (packets : List Packet)
    (hsize : ∀ packet ∈ packets,
      config.maxFrameSize = 0 ∨ packet.body.length ≤ config.maxFrameSize) :
    ((∀ frames, List.Forall₂ (fun packet frame =>
        (createEnvelope .delimiter config).encodeFrame packet = .ok frame) packets frames →
        ((createEnvelope .delimiter config).feed (.bytes frames.flatten)).1.map Packet.body =
          packets.map Packet.body) ∧
      ∀ packet ∈ packets, config.delimiter ∈ packet.body → ∀ frame,
        (createEnvelope .delimiter config).encodeFrame packet ≠ .ok frame) ↔
      ∀ packet ∈ packets, packet.body.length < vectorMaxSize → config.delimiter ∉ packet.body := by
  set env := createEnvelope .delimiter config with henv
  have hencode : ∀ packet, env.encodeFrame packet =
      DelimiterEnvelope.encode env.config packet := fun _ => rfl
  have hd : env.config.delimiter = config.delimiter := rfl
  have hw : env.widthError = none := rfl
  constructor
  · rintro ⟨-, hrefused⟩ packet hp hlen hmem
    exact hrefused packet hp hmem _ (delimiter_encode_ok.mpr ⟨hlen, rfl⟩)
  · intro hfree
    constructor
    · intro frames hframes
      have hcut : List.Forall₂ (fun frame packet => ∀ more,
          env.look (frame ++ more) = .emit packet frame.length) frames
          (packets.map fun packet =>
            { body := packet.body, rawFrame := packet.body ++ [config.delimiter] }) := by
        induction hframes with
        | nil => exact .nil
        | @cons packet frame packets frames hhead _ ih =>
          obtain ⟨hlen, rfl⟩ := delimiter_encode_ok.mp hhead
          refine .cons (fun more => ?_) (ih
            (fun p hp => hsize p (List.mem_cons_of_mem _ hp))
            (fun p hp => hfree p (List.mem_cons_of_mem _ hp)))
          exact delimiter_look_frame (hfree packet List.mem_cons_self hlen)
            (hsize packet List.mem_cons_self) more
      have hdecode := decode_frames (envelope_incremental env hw) (envelope_look_nil env hw) hcut
      have hbuf : env.buffer = [] := rfl
      rw [feed_bytes env hw, hbuf, List.nil_append, hdecode]
      exact List.map_map
    · intro packet hp hmem frame hok
      exact hfree packet hp (delimiter_encode_ok.mp hok).1 hmem

theorem delimiter_frames_exact_pair :
    ((createEnvelope .delimiter {}).feed (.bytes [1, 2, 10, 10])).1.map Packet.body =
      [[1, 2], []] :=
  ((delimiter_frames_exact_iff {} [{ body := [1, 2] }, {}] (by decide)).mpr (by decide)).1
    [[1, 2, 10], [10]] (.cons (by decide) (.cons (by decide) .nil))

/-- One packet goes out, two come in. -/
theorem delimiter_splits_body :
    (createEnvelope .delimiter {}).encodeFrame { body := [1, 10, 2] } = .ok [1, 10, 2, 10] ∧
      ((createEnvelope .delimiter {}).feed (.bytes [1, 10, 2, 10])).1.map Packet.body =
        [[1], [2]] := by
  decide

end ShieldRuntime.Proofs
