import Mathlib.Tactic

/-!
# Incremental decoders

A stream decoder keeps the unread part of its input in a buffer and looks at it again on every read.
-/

namespace ShieldRuntime.Library

/-- The answer of one look at the buffer. `emit p n` cuts the first `n` items as frame `p`. -/
inductive Look (ε π : Type) where
  | wait
  | fail (e : ε)
  | emit (p : π) (n : Nat)

section

variable {α ε π : Type}

/-- The decoding loop, with an explicit bound on the number of looks. -/
def drain (look : List α → Look ε π) : Nat → List α → List π × Except ε (List α)
  | 0, buffer => ([], .ok buffer)
  | fuel + 1, buffer =>
    match look buffer with
    | .wait => ([], .ok buffer)
    | .fail e => ([], .error e)
    | .emit p n =>
      let next := drain look fuel (buffer.drop n)
      (p :: next.1, next.2)

/-- The whole loop: every frame takes at least one item, so `length + 1` looks suffice. -/
def decode (look : List α → Look ε π) (buffer : List α) : List π × Except ε (List α) :=
  drain look (buffer.length + 1) buffer

/-- Reads that arrive one after another, up to the first one that reports an error. -/
def decodeChunks (look : List α → Look ε π) :
    List α → List (List α) → List π × Except ε (List α)
  | buffer, [] => ([], .ok buffer)
  | buffer, chunk :: chunks =>
    match decode look (buffer ++ chunk) with
    | (ps, .error e) => (ps, .error e)
    | (ps, .ok rest) =>
      let next := decodeChunks look rest chunks
      (ps ++ next.1, next.2)

/-- The frames of the reads before the first one that reports an error. -/
def decodeBeforeError (look : List α → Look ε π) : List α → List (List α) → List π
  | _, [] => []
  | buffer, chunk :: chunks =>
    match decode look (buffer ++ chunk) with
    | (_, .error _) => []
    | (ps, .ok rest) => ps ++ decodeBeforeError look rest chunks

/-- Whether a stream holds a malformed frame. -/
def malformed (look : List α → Look ε π) (stream : List α) : Prop :=
  ∃ e, (decode look stream).2 = .error e

/-- What makes a look function safe to repeat: frames are nonempty parts of the buffer, and
neither a frame nor an error changes when more input follows. -/
structure Incremental (look : List α → Look ε π) : Prop where
  emit_pos : ∀ {buffer p n}, look buffer = .emit p n → 0 < n
  emit_le : ∀ {buffer p n}, look buffer = .emit p n → n ≤ buffer.length
  emit_append : ∀ {buffer p n} (more : List α), look buffer = .emit p n →
    look (buffer ++ more) = .emit p n
  fail_append : ∀ {buffer e} (more : List α), look buffer = .fail e →
    look (buffer ++ more) = .fail e

end

section

variable {α ε π : Type} {look : List α → Look ε π}

/-- Decoders that read a header of fixed size first and then decide by its bytes. -/
theorem incremental_of_header (headerSize : Nat) (hpos : 0 < headerSize)
    (cut : List α → List α → Look ε π)
    (hlook : ∀ buffer, look buffer =
      if buffer.length < headerSize then .wait else cut (buffer.take headerSize) buffer)
    (hemit : ∀ {header buffer p n} (more : List α), cut header buffer = .emit p n →
      cut header (buffer ++ more) = .emit p n ∧ headerSize ≤ n ∧ n ≤ buffer.length)
    (hfail : ∀ {header buffer e} (more : List α), cut header buffer = .fail e →
      cut header (buffer ++ more) = .fail e) : Incremental look := by
  -- A header that was complete before is the same after an append.
  have hmore : ∀ buffer more : List α, ¬buffer.length < headerSize →
      look (buffer ++ more) = cut (buffer.take headerSize) (buffer ++ more) := by
    intro buffer more hb
    have hb' : ¬(buffer ++ more).length < headerSize := by
      rw [List.length_append]
      omega
    rw [hlook, if_neg hb', List.take_append_of_le_length (by omega)]
  have hcut : ∀ buffer, look buffer ≠ .wait →
      ¬buffer.length < headerSize ∧ look buffer = cut (buffer.take headerSize) buffer := by
    intro buffer hb
    rw [hlook] at hb ⊢
    by_cases hs : buffer.length < headerSize
    · simp [hs] at hb
    · exact ⟨hs, if_neg hs⟩
  constructor
  · intro buffer p n h
    obtain ⟨-, hc⟩ := hcut buffer (by simp [h])
    have hn := (hemit [] (hc.symm.trans h)).2.1
    omega
  · intro buffer p n h
    obtain ⟨-, hc⟩ := hcut buffer (by simp [h])
    exact (hemit [] (hc.symm.trans h)).2.2
  · intro buffer p n more h
    obtain ⟨hs, hc⟩ := hcut buffer (by simp [h])
    rw [hmore buffer more hs]
    exact (hemit more (hc.symm.trans h)).1
  · intro buffer e more h
    obtain ⟨hs, hc⟩ := hcut buffer (by simp [h])
    rw [hmore buffer more hs]
    exact hfail more (hc.symm.trans h)

lemma drain_fuel (hl : Incremental look) (fuel : Nat) (buffer : List α)
    (h : buffer.length < fuel) : drain look fuel buffer = decode look buffer := by
  unfold decode
  induction fuel using Nat.strong_induction_on generalizing buffer with
  | _ fuel ih =>
    obtain ⟨f, rfl⟩ : ∃ f, fuel = f + 1 := ⟨fuel - 1, by omega⟩
    simp only [drain]
    cases hb : look buffer with
    | wait | fail => rfl
    | emit p n =>
      have hp := hl.emit_pos hb
      have hn := hl.emit_le hb
      have hlen : (buffer.drop n).length < buffer.length := by
        rw [List.length_drop]
        omega
      have hleft := ih f (by omega) (buffer.drop n) (by omega)
      by_cases hf : f = buffer.length
      · rw [hf]
      · have hright := ih buffer.length (by omega) (buffer.drop n) hlen
        simp only [hleft, hright]

variable {buffer rest a : List α} {ps : List π}

lemma decode_wait (h : look buffer = .wait) : decode look buffer = ([], .ok buffer) := by
  simp only [decode, drain, h]

lemma decode_fail {e : ε} (h : look buffer = .fail e) : decode look buffer = ([], .error e) := by
  simp only [decode, drain, h]

section

variable (hl : Incremental look)
include hl

lemma decode_emit {p : π} {n : Nat} (h : look buffer = .emit p n) :
    decode look buffer =
      (p :: (decode look (buffer.drop n)).1, (decode look (buffer.drop n)).2) := by
  have hp := hl.emit_pos h
  have hn := hl.emit_le h
  have hlen : (buffer.drop n).length < buffer.length := by
    rw [List.length_drop]
    omega
  have hd := drain_fuel hl buffer.length (buffer.drop n) hlen
  conv_lhs => unfold decode
  simp only [drain, h, hd]

/-- Induction along the frames that the loop cuts from a buffer. -/
theorem Incremental.induction {motive : List α → Prop}
    (wait : ∀ buffer, look buffer = .wait → motive buffer)
    (fail : ∀ buffer e, look buffer = .fail e → motive buffer)
    (emit : ∀ buffer p n, look buffer = .emit p n → motive (buffer.drop n) → motive buffer)
    (buffer : List α) : motive buffer := by
  induction hk : buffer.length using Nat.strong_induction_on generalizing buffer with
  | _ k ih =>
    cases hb : look buffer with
    | wait => exact wait buffer hb
    | fail e => exact fail buffer e hb
    | emit p n =>
      have hp := hl.emit_pos hb
      have hn := hl.emit_le hb
      exact emit buffer p n hb (ih _ (by rw [List.length_drop]; omega) (buffer.drop n) rfl)

/-- A buffer left by the loop holds no complete frame and no visible error. -/
lemma decode_rest_waits (buffer : List α)
    (h : (decode look buffer).2 = .ok rest) : look rest = .wait := by
  induction buffer using hl.induction with
  | wait buffer hb =>
    rw [decode_wait hb] at h
    cases h
    exact hb
  | fail buffer e hb =>
    rw [decode_fail hb] at h
    cases h
  | emit buffer p n hb ih =>
    rw [decode_emit hl hb] at h
    exact ih h

lemma decode_error_of_look (buffer : List α) {e : ε}
    (h : (decode look buffer).2 = .error e) : ∃ seen, look seen = .fail e := by
  induction buffer using hl.induction with
  | wait buffer hb =>
    rw [decode_wait hb] at h
    cases h
  | fail buffer e' hb =>
    rw [decode_fail hb] at h
    cases h
    exact ⟨buffer, hb⟩
  | emit buffer p n hb ih =>
    rw [decode_emit hl hb] at h
    exact ih h

lemma decode_forall {P : π → Prop}
    (hP : ∀ {buffer p n}, look buffer = .emit p n → P p) (buffer : List α) :
    ∀ p ∈ (decode look buffer).1, P p := by
  induction buffer using hl.induction with
  | wait buffer hb => simp [decode_wait hb]
  | fail buffer e hb => simp [decode_fail hb]
  | emit buffer p n hb ih =>
    rw [decode_emit hl hb, List.forall_mem_cons]
    exact ⟨hP hb, ih⟩

/-- Where each frame keeps the bytes that were cut for it, nothing of the input is lost. -/
lemma decode_flatten {raw : π → List α}
    (hraw : ∀ {buffer p n}, look buffer = .emit p n → raw p = buffer.take n) (buffer : List α)
    (h : (decode look buffer).2 = .ok rest) :
    ((decode look buffer).1.map raw).flatten ++ rest = buffer := by
  induction buffer using hl.induction with
  | wait buffer hb =>
    rw [decode_wait hb] at h ⊢
    cases h
    rfl
  | fail buffer e hb =>
    rw [decode_fail hb] at h
    cases h
  | emit buffer p n hb ih =>
    rw [decode_emit hl hb] at h ⊢
    rw [List.map_cons, List.flatten_cons, List.append_assoc, ih h, hraw hb, List.take_append_drop]

/-- Draining a longer input resumes from what draining its first part left behind. -/
theorem decode_append (a b : List α) :
    decode look (a ++ b) =
      match decode look a with
      | (ps, .error e) => (ps, .error e)
      | (ps, .ok rest) =>
        (ps ++ (decode look (rest ++ b)).1, (decode look (rest ++ b)).2) := by
  induction a using hl.induction with
  | wait a ha => simp only [decode_wait ha, List.nil_append]
  | fail a e ha => simp only [decode_fail ha, decode_fail (hl.fail_append b ha)]
  | emit a p n ha ih =>
    rw [decode_emit hl ha, decode_emit hl (hl.emit_append b ha),
      List.drop_append_of_le_length (hl.emit_le ha), ih]
    cases hd : decode look (a.drop n) with
    | mk ps st => cases st <;> rfl

/-- Chunking independence: reading in chunks is reading the whole stream. -/
theorem decodeChunks_eq (buffer : List α) (hb : look buffer = .wait)
    (chunks : List (List α)) :
    decodeChunks look buffer chunks = decode look (buffer ++ chunks.flatten) := by
  induction chunks generalizing buffer with
  | nil => rw [decodeChunks, List.flatten_nil, List.append_nil, decode_wait hb]
  | cons chunk chunks ih =>
    rw [decodeChunks, List.flatten_cons, ← List.append_assoc,
      decode_append hl (buffer ++ chunk) chunks.flatten]
    cases hd : decode look (buffer ++ chunk) with
    | mk ps st =>
      cases st with
      | error => rfl
      | ok rest =>
        have hr : look rest = .wait := decode_rest_waits hl (buffer ++ chunk) (by rw [hd])
        simp only [ih rest hr]

lemma malformed_append (h : malformed look a) (b : List α) :
    malformed look (a ++ b) ∧ (decode look (a ++ b)).1 = (decode look a).1 := by
  obtain ⟨e, he⟩ := h
  cases hd : decode look a with
  | mk =>
    rw [hd] at he
    cases he
    rw [decode_append hl, hd]
    exact ⟨⟨e, by rw [decode_append hl, hd]⟩, rfl⟩

end

lemma not_malformed_of_ok (h : decode look a = (ps, .ok rest)) : ¬malformed look a := by
  rintro ⟨e, he⟩
  rw [h] at he
  cases he

section

variable (hl : Incremental look)
include hl

lemma malformed_append_iff (h : decode look a = (ps, .ok rest))
    (b : List α) :
    malformed look (a ++ b) ↔ malformed look (rest ++ b) := by
  unfold malformed
  rw [decode_append hl, h]

lemma frames_append (h : decode look a = (ps, .ok rest)) (b : List α) :
    (decode look (a ++ b)).1 = ps ++ (decode look (rest ++ b)).1 := by
  rw [decode_append hl, h]

/-- Keeping only the frames of error-free reads loses none exactly when the read that shows
the error completes no frame. -/
theorem decodeBeforeError_eq_iff (buffer : List α)
    (hb : look buffer = .wait) (chunks : List (List α)) :
    decodeBeforeError look buffer chunks = (decode look (buffer ++ chunks.flatten)).1 ↔
      ∀ pre chunk post, chunks = pre ++ chunk :: post → ¬malformed look (buffer ++ pre.flatten) →
        malformed look (buffer ++ pre.flatten ++ chunk) →
        (decode look (buffer ++ pre.flatten ++ chunk)).1 =
          (decode look (buffer ++ pre.flatten)).1 := by
  induction chunks generalizing buffer with
  | nil =>
    rw [decodeBeforeError, List.flatten_nil, List.append_nil, decode_wait hb]
    simp
  | cons first chunks ih =>
    rw [decodeBeforeError, List.flatten_cons, ← List.append_assoc]
    cases hd : decode look (buffer ++ first) with
    | mk ps st =>
      cases st with
      | error e =>
        -- The first read shows the error: nothing is kept, and only `pre = []` matters.
        have hbad : malformed look (buffer ++ first) := ⟨e, by rw [hd]⟩
        rw [(malformed_append hl hbad chunks.flatten).2]
        constructor
        · intro hps pre chunk post hsplit hgood _
          cases pre with
          | nil =>
            cases hsplit
            rw [List.flatten_nil, List.append_nil, ← hps, decode_wait hb]
          | cons head pre =>
            cases hsplit
            rw [List.flatten_cons, ← List.append_assoc] at hgood
            exact (hgood (malformed_append hl hbad pre.flatten).1).elim
        · intro h
          have h0 := h [] first chunks rfl
          rw [List.flatten_nil, List.append_nil] at h0
          rw [h0 (not_malformed_of_ok (decode_wait hb)) hbad, decode_wait hb]
      | ok rest =>
        have hrest : look rest = .wait := decode_rest_waits hl (buffer ++ first) (by rw [hd])
        have hgood := not_malformed_of_ok hd
        simp only [frames_append hl hd, List.append_cancel_left_eq, ih rest hrest]
        constructor
        · intro h pre chunk post hsplit
          cases pre with
          | nil =>
            cases hsplit
            intro _ hbad
            rw [List.flatten_nil, List.append_nil] at hbad
            exact (hgood hbad).elim
          | cons head pre =>
            cases hsplit
            rw [List.flatten_cons, ← List.append_assoc, List.append_assoc (buffer ++ first),
              malformed_append_iff hl hd, malformed_append_iff hl hd, frames_append hl hd,
              frames_append hl hd, List.append_cancel_left_eq, ← List.append_assoc]
            exact h pre chunk post rfl
        · intro h pre chunk post hsplit
          have hc := h (first :: pre) chunk post (by rw [hsplit]; rfl)
          rw [List.flatten_cons, ← List.append_assoc, List.append_assoc (buffer ++ first),
            malformed_append_iff hl hd, malformed_append_iff hl hd, frames_append hl hd,
            frames_append hl hd, List.append_cancel_left_eq, ← List.append_assoc] at hc
          exact hc

lemma decodeBeforeError_append (buffer : List α)
    (chunks : List (List α)) : ∃ lost, (decode look (buffer ++ chunks.flatten)).1 =
      decodeBeforeError look buffer chunks ++ lost := by
  induction chunks generalizing buffer with
  | nil => exact ⟨_, rfl⟩
  | cons first chunks ih =>
    rw [decodeBeforeError, List.flatten_cons, ← List.append_assoc]
    cases hd : decode look (buffer ++ first) with
    | mk ps st =>
      cases st with
      | error => exact ⟨_, rfl⟩
      | ok rest =>
        obtain ⟨lost, hlost⟩ := ih rest
        refine ⟨lost, ?_⟩
        rw [frames_append hl hd, hlost, List.append_assoc]

/-- A concatenation of complete frames decodes to exactly these frames. -/
theorem decode_frames (hnil : look [] = .wait) {frames : List (List α)}
    (h : List.Forall₂ (fun frame p => ∀ more, look (frame ++ more) = .emit p frame.length)
      frames ps) : decode look frames.flatten = (ps, .ok []) := by
  induction h with
  | nil => exact decode_wait hnil
  | @cons frame p frames ps hf _ ih =>
    rw [List.flatten_cons, decode_emit hl (hf frames.flatten), List.drop_left, ih]

end

end

end ShieldRuntime.Library
