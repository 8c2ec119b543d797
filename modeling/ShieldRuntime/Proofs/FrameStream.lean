import ShieldRuntime.Library.Machine
import ShieldRuntime.Proofs.EnvelopeReencode

/-!
# The frame decoder and the one-shot parser

`FrameDecoder` keeps a header it has read and a count of what is missing between its calls.
-/

namespace ShieldRuntime.Proofs
open Library Transport

variable {n maxFrameSize : Nat} {buffer : List UInt8} {frame : Frame} {frames : List Frame}
  {decoder : FrameDecoder}

lemma or_shiftLeft {a k m : Nat} (hn : n < 2 ^ k) (ha : a * 2 ^ k < m) :
    a <<< k % m ||| n = a * 2 ^ k + n := by
  rw [← Nat.shiftLeft_eq] at ha ⊢
  rw [Nat.mod_eq_of_lt ha, ← Nat.shiftLeft_add_eq_or_of_lt hn]

lemma and_255 (n : Nat) : n &&& 255 = n % 256 := Nat.and_two_pow_sub_one_eq_mod n 8

lemma fromNetwork_toNetwork (header : FrameHeader) (more : List UInt8) :
    FrameHeader.fromNetwork (header.toNetwork ++ more) = header := by
  obtain ⟨length, flags, type⟩ := header
  have hword : ∀ x : UInt32, ((x >>> 24) &&& 0xFF).toUInt8.toUInt32 <<< 24 |||
      ((x >>> 16) &&& 0xFF).toUInt8.toUInt32 <<< 16 |||
      ((x >>> 8) &&& 0xFF).toUInt8.toUInt32 <<< 8 ||| (x &&& 0xFF).toUInt8.toUInt32 = x := by
    intro x
    have hx := x.toNat_lt
    apply UInt32.toNat_inj.mp
    simp only [UInt32.toNat_or, UInt32.toNat_shiftLeft, UInt8.toNat_toUInt32, UInt32.toNat_toUInt8,
      UInt32.toNat_and, UInt32.toNat_shiftRight, UInt32.reduceToNat, Nat.reduceMod, and_255,
      Nat.shiftRight_eq_div_pow, Nat.or_assoc]
    rw [or_shiftLeft (k := 8) (by omega) (by omega), or_shiftLeft (k := 16) (by omega) (by omega),
      or_shiftLeft (k := 24) (by omega) (by omega)]
    omega
  have hhalf : ∀ x : UInt16, ((x >>> 8) &&& 0xFF).toUInt8.toUInt16 <<< 8 |||
      (x &&& 0xFF).toUInt8.toUInt16 = x := by
    intro x
    have hx := x.toNat_lt
    apply UInt16.toNat_inj.mp
    simp only [UInt16.toNat_or, UInt16.toNat_shiftLeft, UInt8.toNat_toUInt16, UInt16.toNat_toUInt8,
      UInt16.toNat_and, UInt16.toNat_shiftRight, UInt16.reduceToNat, Nat.reduceMod, and_255,
      Nat.shiftRight_eq_div_pow]
    rw [or_shiftLeft (k := 8) (by omega) (by omega)]
    omega
  simp only [FrameHeader.fromNetwork, FrameHeader.toNetwork, List.cons_append,
    List.getD_cons_zero, List.getD_cons_succ, hword, hhalf]

lemma fromNetwork_take (data : List UInt8) :
    FrameHeader.fromNetwork (data.take headerSize) = FrameHeader.fromNetwork data := by
  have hget : ∀ i, i < headerSize → (data.take headerSize).getD i 0 = data.getD i 0 := by
    intro i hi
    rw [List.getD_eq_getElem?_getD, List.getElem?_take_of_lt hi, List.getD_eq_getElem?_getD]
  unfold headerSize at hget
  simp only [FrameHeader.fromNetwork, headerSize, hget, Nat.reduceLT]

def cutPayload (maxFrameSize : Nat) (header : FrameHeader) (buffer : List UInt8) :
    Look FrameHeader Frame :=
  if 0 < maxFrameSize ∧ maxFrameSize < header.length.toNat then .fail header
  else if buffer.length < headerSize + header.length.toNat then .wait
  else .emit { header, payload := (buffer.drop headerSize).take header.length.toNat }
    (headerSize + header.length.toNat)

def frameLook (maxFrameSize : Nat) (buffer : List UInt8) : Look FrameHeader Frame :=
  if buffer.length < headerSize then .wait
  else cutPayload maxFrameSize (FrameHeader.fromNetwork buffer) buffer

lemma cutPayload_emit {header : FrameHeader}
    (h : cutPayload maxFrameSize header buffer = .emit frame n) :
    ¬(0 < maxFrameSize ∧ maxFrameSize < header.length.toNat) ∧
      headerSize + header.length.toNat ≤ buffer.length ∧ n = headerSize + header.length.toNat ∧
      frame = { header, payload := (buffer.drop headerSize).take header.length.toNat } := by
  revert h
  fun_cases cutPayload maxFrameSize header buffer <;> rintro ⟨⟩
  exact ⟨‹_›, by omega, rfl, rfl⟩

lemma frameLook_incremental (maxFrameSize : Nat) : Incremental (frameLook maxFrameSize) := by
  apply incremental_of_header headerSize (by decide) fun bytes buffer =>
    cutPayload maxFrameSize (FrameHeader.fromNetwork bytes) buffer
  · intro buffer
    rw [fromNetwork_take]
    rfl
  · intro bytes buffer frame n more h
    obtain ⟨hmax, hlen, rfl, rfl⟩ := cutPayload_emit h
    refine ⟨?_, by omega, hlen⟩
    rw [cutPayload, if_neg hmax, if_neg (by rw [List.length_append]; omega),
      List.drop_append_of_le_length (by omega),
      List.take_append_of_le_length (by rw [List.length_drop]; omega)]
  · intro bytes buffer header more h
    unfold cutPayload at h ⊢
    split at h
    · rename_i hmax
      rw [if_pos hmax, h]
    · split at h <;> cases h

lemma length_of_frameLook (h : frameLook maxFrameSize buffer = .emit frame n) :
    frame.header.length.toNat = frame.payload.length ∧
      ¬(0 < maxFrameSize ∧ maxFrameSize < frame.payload.length) := by
  unfold frameLook at h
  split at h
  · cases h
  obtain ⟨hmax, hlen, -, rfl⟩ := cutPayload_emit h
  have hpayload : ((buffer.drop headerSize).take
      (FrameHeader.fromNetwork buffer).length.toNat).length =
      (FrameHeader.fromNetwork buffer).length.toNat := by
    rw [List.length_take, List.length_drop]
    omega
  exact ⟨hpayload.symm, by rw [hpayload]; exact hmax⟩

/-- A header the decoder holds is the one its buffer starts with. -/
def Coherent (decoder : FrameDecoder) : Prop :=
  decoder.haveHeader = true →
    headerSize ≤ decoder.buffer.length ∧
      decoder.header = FrameHeader.fromNetwork decoder.buffer ∧
      decoder.needed = decoder.header.length.toNat ∧ decoder.tooLarge decoder.header = false

section
variable {decoder : FrameDecoder} (hc : Coherent decoder)
include hc

-- With a remembered header a round of the loop is the one that reads it again.
lemma Coherent.header_eq :
    (if decoder.haveHeader then decoder.header else FrameHeader.fromNetwork decoder.buffer) =
      FrameHeader.fromNetwork decoder.buffer := by
  split
  · rename_i hh
    exact (hc hh).2.1
  · rfl

lemma Coherent.needed_eq :
    (if decoder.haveHeader then decoder.needed
      else (FrameHeader.fromNetwork decoder.buffer).length.toNat) =
      (FrameHeader.fromNetwork decoder.buffer).length.toNat := by
  split
  · rename_i hh
    rw [(hc hh).2.2.1, (hc hh).2.1]
  · rfl

lemma Coherent.limit_eq :
    (!decoder.haveHeader && decoder.tooLarge (FrameHeader.fromNetwork decoder.buffer)) =
      decoder.tooLarge (FrameHeader.fromNetwork decoder.buffer) := by
  cases hh : decoder.haveHeader with
  | false => rfl
  | true =>
    have hfits := (hc hh).2.2.2
    rw [(hc hh).2.1] at hfits
    rw [hfits]
    rfl

lemma Coherent.short_eq :
    (!decoder.haveHeader && decide (decoder.buffer.length < headerSize)) =
      decide (decoder.buffer.length < headerSize) := by
  cases hh : decoder.haveHeader with
  | false => rfl
  | true => simpa using (hc hh).1

end

/-- The decoder has handed out what the stream decodes to. -/
structure Drained (maxFrameSize : Nat) (r : List Frame × FrameDecoder)
    (decoded : List Frame × Except FrameHeader (List UInt8)) : Prop where
  limit_eq : r.2.maxFrameSize = maxFrameSize
  frames_eq : r.1 = decoded.1
  coherent : Coherent r.2
  buffer_eq : r.2.buffer = decoded.2.toOption.getD []

lemma drained_drain (fuel : Nat) (decoder : FrameDecoder) (hc : Coherent decoder)
    (hfuel : decoder.buffer.length < fuel) :
    Drained decoder.maxFrameSize (FrameDecoder.drain fuel decoder)
      (decode (frameLook decoder.maxFrameSize) decoder.buffer) := by
  induction fuel generalizing decoder with
  | zero => omega
  | succ fuel ih =>
    have hl := frameLook_incremental decoder.maxFrameSize
    simp only [FrameDecoder.drain, hc.header_eq, hc.needed_eq, hc.limit_eq, hc.short_eq,
      decide_eq_true_eq]
    by_cases hempty : decoder.buffer = []
    · have hwait : frameLook decoder.maxFrameSize decoder.buffer = .wait := by
        rw [hempty]
        rfl
      rw [if_pos hempty, decode_wait hwait]
      exact ⟨rfl, rfl, hc, rfl⟩
    rw [if_neg hempty]
    by_cases hsize : decoder.buffer.length < headerSize
    · have hwait : frameLook decoder.maxFrameSize decoder.buffer = .wait := if_pos hsize
      rw [if_pos hsize, decode_wait hwait]
      refine ⟨rfl, rfl, ?_, rfl⟩
      intro hh
      have hle := (hc hh).1
      omega
    rw [if_neg hsize]
    by_cases hmax : decoder.tooLarge (FrameHeader.fromNetwork decoder.buffer) = true
    · have hfail : frameLook decoder.maxFrameSize decoder.buffer =
          .fail (FrameHeader.fromNetwork decoder.buffer) := by
        rw [frameLook, if_neg hsize, cutPayload, if_pos (by simpa [FrameDecoder.tooLarge] using hmax)]
      rw [if_pos hmax, decode_fail hfail]
      exact ⟨rfl, rfl, nofun, rfl⟩
    rw [if_neg hmax]
    have hlimit : ¬(0 < decoder.maxFrameSize ∧
        decoder.maxFrameSize < (FrameHeader.fromNetwork decoder.buffer).length.toNat) := by
      simpa [FrameDecoder.tooLarge] using hmax
    by_cases hpart : decoder.buffer.length <
        headerSize + (FrameHeader.fromNetwork decoder.buffer).length.toNat
    · have hwait : frameLook decoder.maxFrameSize decoder.buffer = .wait := by
        rw [frameLook, if_neg hsize, cutPayload, if_neg hlimit, if_pos hpart]
      rw [if_pos hpart, decode_wait hwait]
      refine ⟨rfl, rfl, fun _ => ⟨Nat.le_of_not_lt hsize, rfl, rfl, ?_⟩, rfl⟩
      exact Bool.eq_false_iff.mpr hmax
    rw [if_neg hpart]
    have hemit : frameLook decoder.maxFrameSize decoder.buffer =
        .emit { header := FrameHeader.fromNetwork decoder.buffer
                payload := (decoder.buffer.drop headerSize).take
                  (FrameHeader.fromNetwork decoder.buffer).length.toNat }
          (headerSize + (FrameHeader.fromNetwork decoder.buffer).length.toNat) := by
      rw [frameLook, if_neg hsize, cutPayload, if_neg hlimit, if_neg hpart]
    have hnext := ih { decoder with
      header := FrameHeader.fromNetwork decoder.buffer
      buffer := decoder.buffer.drop
        (headerSize + (FrameHeader.fromNetwork decoder.buffer).length.toNat)
      haveHeader := false
      needed := headerSize } nofun (by
        have hpos := hl.emit_pos hemit
        simp only [List.length_drop]
        omega)
    rw [decode_emit hl hemit]
    exact ⟨hnext.limit_eq, congrArg _ hnext.frames_eq, hnext.coherent, hnext.buffer_eq⟩

lemma fromNetwork_append (h : headerSize ≤ buffer.length) (more : List UInt8) :
    FrameHeader.fromNetwork (buffer ++ more) = FrameHeader.fromNetwork buffer := by
  rw [← fromNetwork_take, List.take_append_of_le_length h, fromNetwork_take]

lemma drained_feed (decoder : FrameDecoder) (hc : Coherent decoder) (data : List UInt8) :
    Drained decoder.maxFrameSize (decoder.feed data)
      (decode (frameLook decoder.maxFrameSize) (decoder.buffer ++ data)) := by
  apply drained_drain _ { decoder with buffer := decoder.buffer ++ data, error := "" }
  · intro hh
    obtain ⟨hle, hheader, hneeded, hlimit⟩ := hc hh
    refine ⟨?_, ?_, hneeded, hlimit⟩
    · rw [List.length_append]
      omega
    · rw [fromNetwork_append hle]
      exact hheader
  · exact Nat.lt_succ_self _

structure FrameFed (maxFrameSize : Nat) (frames : List Frame) (left : FrameDecoder) : Prop where
  limit_eq : left.maxFrameSize = maxFrameSize
  coherent : Coherent left
  cut : ∀ frame ∈ frames, ∃ buffer n, frameLook maxFrameSize buffer = .emit frame n
  stopped : frameLook maxFrameSize left.buffer = .wait

lemma frameFed_feed (h : FrameFed maxFrameSize frames decoder) (data : List UInt8) :
    FrameFed maxFrameSize (decoder.feed data).1 (decoder.feed data).2 := by
  obtain ⟨rfl, hc, -, -⟩ := h
  have hl := frameLook_incremental decoder.maxFrameSize
  have hd := drained_feed decoder hc data
  refine ⟨hd.limit_eq, hd.coherent, ?_, ?_⟩
  · rw [hd.frames_eq]
    exact decode_forall hl (fun h => ⟨_, _, h⟩) _
  · rw [hd.buffer_eq]
    cases hrest : (decode (frameLook decoder.maxFrameSize) (decoder.buffer ++ data)).2 with
    | ok => exact decode_rest_waits hl _ hrest
    | error => rfl

lemma frameFed_feedAll (h : FrameFed maxFrameSize frames decoder) (inputs : List (List UInt8)) :
    FrameFed maxFrameSize (decoder.feedAll inputs).1 (decoder.feedAll inputs).2 := by
  induction inputs generalizing frames decoder with
  | nil => exact ⟨h.limit_eq, h.coherent, by simp [FrameDecoder.feedAll], h.stopped⟩
  | cons data inputs ih =>
    have hfirst := frameFed_feed h data
    have hnext := ih hfirst
    refine ⟨hnext.limit_eq, hnext.coherent, ?_, hnext.stopped⟩
    intro frame hframe
    rcases List.mem_append.mp hframe with hframe | hframe
    · exact hfirst.cut frame hframe
    · exact hnext.cut frame hframe

lemma frameFed_fresh (maxFrameSize : Nat) : FrameFed maxFrameSize [] { maxFrameSize } :=
  ⟨rfl, nofun, by simp, rfl⟩

lemma length_lt_of_frameLook_wait (hmax : 0 < maxFrameSize)
    (h : frameLook maxFrameSize buffer = .wait) : buffer.length < headerSize + maxFrameSize := by
  unfold frameLook cutPayload at h
  split at h
  · omega
  split at h
  · cases h
  split at h
  · omega
  · cases h

section
variable {config : EnvelopeConfig} {buffer : List UInt8}

variable {name idError : String} {header : Nat → Packet}

lemma idFrame_wait (hmax : 0 < config.maxFrameSize)
    (h : idFrameLook name idError header config buffer = .wait) :
    buffer.length < config.routeIdBytes + config.lengthBytes + config.maxFrameSize := by
  simp only [idFrameLook] at h
  split at h
  · omega
  split at h
  · cases h
  · exact length_lt_of_cutFrame_wait hmax h

lemma delimiter_wait (hmax : 0 < config.maxFrameSize)
    (h : DelimiterEnvelope.look config buffer = .wait) : buffer.length ≤ config.maxFrameSize := by
  unfold DelimiterEnvelope.look at h
  split at h
  · split at h
    · cases h
    · omega
  · split at h <;> cases h

end

lemma envelope_wait_bound (env : Envelope) (hmax : 0 < env.config.maxFrameSize)
    (h : env.look buffer = .wait) :
    (env.kind ≠ .delimiter → buffer.length < frameHeaderSize env + env.config.maxFrameSize) ∧
      (env.kind = .delimiter → buffer.length ≤ env.config.maxFrameSize) := by
  rcases envelope_look_cases env with ⟨hk, hlook⟩ | ⟨hk, _, _, _, _, -, hsize, hlook⟩ <;>
    rw [hlook] at h
  · exact ⟨fun hne => (hne hk).elim, fun _ => delimiter_wait hmax h⟩
  · refine ⟨fun _ => ?_, fun heq => (hk heq).elim⟩
    rw [← hsize]
    exact idFrame_wait (by exact hmax) h

lemma envelope_body_bound (env : Envelope) {p : Packet} (h : env.look buffer = .emit p n) :
    ¬(0 < env.config.maxFrameSize ∧ env.config.maxFrameSize < p.body.length) := by
  rcases envelope_look_cases env with ⟨-, hlook⟩ | ⟨-, _, _, _, _, -, -, hlook⟩ <;>
    rw [hlook] at h
  · exact (delimiter_emit h).2.2
  · exact body_bound_of_cutFrame (idFrame_emit h).2.2

/-- With a size limit no sequence of calls makes a decoder retain more than a frame of that size,
or hand out a larger body. -/
theorem decoders_bounded (maxFrameSize : Nat) (hmax : 0 < maxFrameSize) :
    (∀ kind config inputs, config.maxFrameSize = maxFrameSize →
      let fed := (createEnvelope kind config).feedAll inputs
      (kind ≠ .delimiter →
          fed.2.buffer.length < frameHeaderSize (createEnvelope kind config) + maxFrameSize) ∧
        (kind = .delimiter → fed.2.buffer.length ≤ maxFrameSize) ∧
        ∀ packet ∈ fed.1, packet.body.length ≤ maxFrameSize) ∧
      ∀ inputs,
        let fed := ({ maxFrameSize } : FrameDecoder).feedAll inputs
        fed.2.buffer.length < headerSize + maxFrameSize ∧
          ∀ frame ∈ fed.1, frame.payload.length ≤ maxFrameSize := by
  constructor
  · rintro kind config inputs rfl
    have hlimit : (createEnvelope kind config).config.maxFrameSize = config.maxFrameSize := by
      cases kind <;> rfl
    have hfed := fed_feedAll (createEnvelope kind config) inputs
    have hbodies : ∀ packet ∈ ((createEnvelope kind config).feedAll inputs).1,
        packet.body.length ≤ config.maxFrameSize := by
      intro packet hp
      obtain ⟨-, buffer, n, hemit⟩ := hfed.cut packet hp
      have hbody := envelope_body_bound _ hemit
      omega
    -- A cleared buffer is below any bound; otherwise the last call stopped at a wait.
    have hcleared : ((createEnvelope kind config).feedAll inputs).2.buffer = [] ∨
        (createEnvelope kind config).look
          ((createEnvelope kind config).feedAll inputs).2.buffer = .wait := by
      rcases hfed.stopped with hsame | hrest
      · exact Or.inl hsame
      · exact hrest
    rcases hcleared with hnil | hwait
    · intro fed
      have hlen : fed.2.buffer.length = 0 := by
        rw [hnil]
        rfl
      exact ⟨fun _ => by omega, fun _ => by omega, hbodies⟩
    · have hbound := envelope_wait_bound _ (by rw [hlimit]; exact hmax) hwait
      rw [hlimit] at hbound
      exact ⟨hbound.1, hbound.2, hbodies⟩
  · intro inputs
    have hfed := frameFed_feedAll (frameFed_fresh maxFrameSize) inputs
    refine ⟨length_lt_of_frameLook_wait hmax hfed.stopped, ?_⟩
    intro frame hframe
    obtain ⟨buffer, n, hemit⟩ := hfed.cut frame hframe
    have hpayload := (length_of_frameLook hemit).2
    omega

theorem decoders_bounded_three : (({ maxFrameSize := 3 } : FrameDecoder).feedAll
      [[0, 0, 0, 3, 0, 0, 0, 1], [5, 6]]).2.buffer.length < headerSize + 3 :=
  ((decoders_bounded 3 (by decide)).2 [[0, 0, 0, 3, 0, 0, 0, 1], [5, 6]]).1

def parseLook (stream : List UInt8) : Look FrameHeader Frame :=
  match ({ header := {}, payload := [] } : Frame).parse stream with
  | (false, _) => .wait
  | (true, frame) => .emit frame (headerSize + frame.payload.length)

lemma parseLook_eq : parseLook = frameLook 0 := by
  funext stream
  unfold parseLook frameLook cutPayload Frame.parse
  by_cases hshort : stream.length < headerSize
  · simp only [if_pos hshort]
  have hlimit : ¬(0 < 0 ∧ 0 < (FrameHeader.fromNetwork stream).length.toNat) := by omega
  simp only [if_neg hshort, if_neg hlimit]
  by_cases hpart : stream.length < headerSize + (FrameHeader.fromNetwork stream).length.toNat
  · rw [if_pos hpart, if_pos (by omega)]
  rw [if_neg hpart, if_neg (by omega)]
  simp only [List.length_take, List.length_drop]
  rw [Nat.min_eq_left (by omega)]

lemma decode_frameLook_ok (stream : List UInt8) :
    ∃ frames rest, decode (frameLook 0) stream = (frames, .ok rest) := by
  cases hd : decode (frameLook 0) stream with
  | mk frames result =>
    cases result with
    | ok rest => exact ⟨frames, rest, rfl⟩
    | error =>
      obtain ⟨seen, hfail⟩ := decode_error_of_look (frameLook_incremental 0) stream
        (congrArg Prod.snd hd)
      unfold frameLook cutPayload at hfail
      split at hfail
      · cases hfail
      · rw [if_neg (by omega)] at hfail
        split at hfail <;> cases hfail

lemma feedAll_frames (h : FrameFed 0 frames decoder) (chunks : List (List UInt8)) :
    (decoder.feedAll chunks).1 = (decode (frameLook 0) (decoder.buffer ++ chunks.flatten)).1 := by
  induction chunks generalizing frames decoder with
  | nil =>
    rw [List.flatten_nil, List.append_nil, decode_wait h.stopped]
    rfl
  | cons data chunks ih =>
    have hd := drained_feed decoder h.coherent data
    rw [h.limit_eq] at hd
    obtain ⟨first, rest, hfirst⟩ := decode_frameLook_ok (decoder.buffer ++ data)
    rw [hfirst] at hd
    rw [List.flatten_cons, ← List.append_assoc,
      frames_append (frameLook_incremental 0) hfirst chunks.flatten, FrameDecoder.feedAll,
      ih (frameFed_feed h data), hd.frames_eq, hd.buffer_eq]
    rfl

lemma parse_serialize (other : Frame) (h : frame.header.length.toNat = frame.payload.length)
    (more : List UInt8) : other.parse (frame.serialize ++ more) = (true, frame) := by
  have hheader : frame.header.toNetwork.length = headerSize := rfl
  have hlength : (frame.serialize ++ more).length =
      headerSize + (frame.payload.length + more.length) := by
    rw [Frame.serialize, List.append_assoc, List.length_append, List.length_append, hheader]
  have hnet : FrameHeader.fromNetwork (frame.serialize ++ more) = frame.header := by
    rw [Frame.serialize, List.append_assoc, fromNetwork_toNetwork]
  have hpayload : ((frame.serialize ++ more).drop headerSize).take frame.payload.length =
      frame.payload := by
    rw [Frame.serialize, List.append_assoc, List.drop_left' hheader, List.take_left]
  simp only [Frame.parse, hnet, h, hpayload, hlength]
  rw [if_neg (by omega), if_neg (by omega)]

/-- Without a size limit the decoder returns, for any chunks, what repeated `Frame::parse` reads
from the whole stream. Serialized frames come back exactly when each of them has its payload's
length in the header. -/
theorem frameDecoder_refines_parse (chunks : List (List UInt8)) :
    (({} : FrameDecoder).feedAll chunks).1 = (decode parseLook chunks.flatten).1 ∧
      ∀ frames : List Frame, (frames.map Frame.serialize).flatten = chunks.flatten →
        ((({} : FrameDecoder).feedAll chunks).1 = frames ↔
          ∀ frame ∈ frames, frame.header.length.toNat = frame.payload.length) := by
  have hfeed := feedAll_frames (frameFed_fresh 0) chunks
  change (({} : FrameDecoder).feedAll chunks).1 = (decode (frameLook 0) chunks.flatten).1 at hfeed
  refine ⟨by rw [parseLook_eq, hfeed], ?_⟩
  intro frames hstream
  constructor
  · rintro rfl frame hframe
    obtain ⟨buffer, n, hemit⟩ :=
      (frameFed_feedAll (frameFed_fresh 0) chunks).cut frame hframe
    exact (length_of_frameLook hemit).1
  · intro hlengths
    have hcut : List.Forall₂ (fun bytes frame => ∀ more,
        frameLook 0 (bytes ++ more) = .emit frame bytes.length)
        (frames.map Frame.serialize) frames := by
      rw [List.forall₂_map_left_iff, List.forall₂_same]
      intro frame hframe more
      rw [← parseLook_eq, parseLook, parse_serialize _ (hlengths frame hframe), Frame.serialize,
        List.length_append]
      rfl
    rw [hfeed, ← hstream, decode_frames (frameLook_incremental 0) rfl hcut]

/-- A payload that grew through `mutable_payload` is sent with its old length. -/
theorem serialized_frame_loses_byte :
    let frame := (Frame.construct 1 [1, 2]).mutablePayload [1, 2, 3]
    frame.payload.length < 2 ^ 32 ∧
      (({} : FrameDecoder).feedAll [frame.serialize]).1 = [Frame.construct 1 [1, 2]] ∧
      (({} : FrameDecoder).feedAll [frame.serialize]).1 ≠ [frame] := by
  decide

inductive FrameOp where
  | construct (type : UInt16) (payload : List UInt8)
  | modify (payload : List UInt8)
  | parse (data : List UInt8)

def FrameOp.apply : FrameOp → Frame → Frame
  | .construct type payload, _ => Frame.construct type payload
  | .modify payload, frame => frame.mutablePayload payload
  | .parse data, frame => (frame.parse data).2

/-- The length field is right and the frame parses back. -/
def SelfConsistent (frame : Frame) : Prop :=
  frame.header.length.toNat = frame.payload.length ∧
    ∀ other : Frame, other.parse frame.serialize = (true, frame)

def StepSound (frame : Frame) (op : FrameOp) : Prop :=
  SelfConsistent (op.apply frame) ∧
    ∀ data, op = .parse data → (frame.parse data).1 = false → op.apply frame = frame

/-- The payload has as many bytes as the header says. -/
def KeepsLength (frame : Frame) : FrameOp → Prop
  | .construct _ payload => payload.length < 2 ^ 32
  | .modify payload => payload.length = frame.header.length.toNat
  | .parse data =>
    data.length < headerSize ∨
      headerSize + (FrameHeader.fromNetwork data).length.toNat ≤ data.length ∨
      FrameHeader.fromNetwork data = frame.header

def frameStep (frame : Frame) (op : FrameOp) : Option Frame := some (op.apply frame)

lemma selfConsistent_iff (frame : Frame) :
    SelfConsistent frame ↔ frame.header.length.toNat = frame.payload.length := by
  refine ⟨fun h => h.1, fun h => ⟨h, fun other => ?_⟩⟩
  have hparse := parse_serialize other h []
  rwa [List.append_nil] at hparse

lemma construct_sound_iff (frame : Frame) (type : UInt16) (payload : List UInt8) :
    KeepsLength frame (.construct type payload) ↔ StepSound frame (.construct type payload) := by
  simp only [KeepsLength, StepSound, FrameOp.apply, selfConsistent_iff, reduceCtorEq,
    false_implies, implies_true, and_true]
  change _ ↔ (UInt32.ofNat payload.length).toNat = payload.length
  rw [UInt32.toNat_ofNat']
  omega

lemma parse_sound_iff (h : SelfConsistent frame) (data : List UInt8) :
    KeepsLength frame (.parse data) ↔ StepSound frame (.parse data) := by
  have hinv : ∀ data', FrameOp.parse data = .parse data' ↔ data = data' := by simp
  simp only [KeepsLength, StepSound, FrameOp.apply, hinv, forall_eq']
  by_cases hshort : data.length < headerSize
  · simpa [Frame.parse, hshort] using h
  by_cases hpart : data.length < headerSize + (FrameHeader.fromNetwork data).length.toNat
  · have hparse : frame.parse data =
        (false, { frame with header := FrameHeader.fromNetwork data }) := by
      simp only [Frame.parse, if_neg hshort]
      rw [if_pos (by omega)]
    rw [hparse]
    constructor
    · rintro (hlt | hle | heq)
      · exact (hshort hlt).elim
      · omega
      · rw [heq]
        exact ⟨h, fun _ => rfl⟩
    · intro hsound
      exact Or.inr (Or.inr (congrArg Frame.header (hsound.2 rfl)))
  · have hparse : frame.parse data = (true,
        { header := FrameHeader.fromNetwork data
          payload := (data.drop headerSize).take (FrameHeader.fromNetwork data).length.toNat }) := by
      simp only [Frame.parse, if_neg hshort]
      rw [if_neg (by omega)]
    rw [hparse]
    refine iff_of_true (Or.inr (Or.inl (by omega))) ⟨?_, by simp⟩
    rw [selfConsistent_iff]
    simp only [List.length_take, List.length_drop]
    omega

lemma step_sound_iff (h : SelfConsistent frame) (op : FrameOp) :
    KeepsLength frame op ↔ StepSound frame op := by
  cases op with
  | construct type payload => exact construct_sound_iff frame type payload
  | modify =>
    simp only [KeepsLength, StepSound, FrameOp.apply, selfConsistent_iff, reduceCtorEq,
      false_implies, implies_true, and_true]
    exact eq_comm
  | parse data => exact parse_sound_iff h data

lemma run_sound_iff (h : SelfConsistent frame) (ops : List FrameOp) :
    Admits frameStep StepSound frame ops ↔ Admits frameStep KeepsLength frame ops := by
  induction ops generalizing frame with
  | nil => exact Iff.rfl
  | cons op ops ih =>
    simp only [Admits, frameStep, Option.mem_some_iff, forall_eq', step_sound_iff h]
    exact and_congr_right fun hstep => ih hstep.1

/-- Every frame of a run that starts with a construction is consistent, and every failed parse
leaves its frame alone, exactly when each step of the run keeps the length. -/
theorem frame_runs_consistent_iff (frame : Frame) (type : UInt16) (payload : List UInt8)
    (ops : List FrameOp) :
    Admits frameStep StepSound frame (.construct type payload :: ops) ↔
      Admits frameStep KeepsLength frame (.construct type payload :: ops) := by
  simp only [Admits, frameStep, Option.mem_some_iff, forall_eq', construct_sound_iff]
  exact and_congr_right fun hfirst => run_sound_iff hfirst.1 ops

/-- Two runs that break a frame: a byte appended through `mutable_payload`, and a parse of a bare
header that fails after taking the header over. -/
theorem frame_runs_inconsistent :
    let grown := FrameOp.apply (.modify [1, 2, 3]) (Frame.construct 1 [1, 2])
    let header := [0, 0, 0, 5, 0, 0, 0, 2]
    let parsed := FrameOp.apply (.parse header) (Frame.construct 1 [])
    (grown.header.length.toNat ≠ grown.payload.length ∧
        grown.parse grown.serialize = (true, Frame.construct 1 [1, 2])) ∧
      ((Frame.construct 1 []).parse header).1 = false ∧ parsed ≠ Frame.construct 1 [] ∧
      parsed.header.length.toNat ≠ parsed.payload.length := by
  decide

end ShieldRuntime.Proofs
