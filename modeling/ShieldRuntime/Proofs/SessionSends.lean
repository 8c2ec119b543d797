import ShieldRuntime.Library.Machine
import ShieldRuntime.Proofs.SessionCases

/-!
# The send queue and the callbacks of a session

A slot of `queued_count_` belongs to a reservation, to a posted task or to a queued frame. `close`
runs once. What is delivered after `on_disconnect` was read before and not yet looked at.
-/

namespace ShieldRuntime.Proofs
open Library Transport Net

def isDeliver : StrandTask → Bool
  | .deliver _ => true
  | _ => false

def posted (strand : List StrandTask) : Nat := strand.countP isDeliver

def writtenFrame : StrandTask → Option (List UInt8)
  | .written frame _ => some frame
  | _ => none

def fullyWritten : StrandTask → Option (List UInt8)
  | .written frame none => some frame
  | _ => none

def inFlight (s : SessionState) : List (List UInt8) :=
  s.writes ++ s.strand.filterMap writtenFrame

/-- The messages that hold a slot. -/
def outstanding (config : SessionConfig) (s : SessionState) : Nat :=
  s.reserved.countP (hasRoom config) + posted s.strand + s.sendQueue.length

/-- The count is right, and at most one write is under way. -/
structure Sending (config : SessionConfig) (s : SessionState) : Prop where
  count : s.queuedCount = s.reserved.length + posted s.strand + s.sendQueue.length
  bound : 0 < config.maxSendQueue → outstanding config s ≤ config.maxSendQueue
  unclosed : s.alive = true → s.closing = none ∧ .clear ∉ s.strand
  cleared : s.alive = false →
    (∃ reason, s.closing = some (.shut reason) ∨ s.closing = some (.post reason)) ∨
      .clear ∈ s.strand ∨ s.sendQueue = []
  single : (inFlight s).length ≤ 1
  head : s.alive = true → ∀ frame ∈ inFlight s,
    s.sendInProgress = true ∧ s.sendQueue.head? = some frame
  sent : s.alive = true → ∃ popped, s.accepted = popped ++ s.sendQueue ∧
    s.completed = popped ++ s.strand.filterMap fullyWritten
  order : s.completed ++ s.writes <+: s.accepted
  filled : ∀ frame ∈ s.accepted, frame ≠ []

section

variable {config : SessionConfig} {s next : SessionState}

lemma SameSends.strand (h : SameSends s next) :
    posted next.strand = posted s.strand ∧
      next.strand.filterMap writtenFrame = s.strand.filterMap writtenFrame ∧
      next.strand.filterMap fullyWritten = s.strand.filterMap fullyWritten ∧
      (.clear ∈ next.strand ↔ .clear ∈ s.strand) := by
  have hposted : ∀ strand, posted strand = posted (strand.filter (!isQuiet ·)) := by
    intro strand
    rw [posted, posted, List.countP_filter]
    congr
    funext task
    cases task <;> rfl
  have hmap : ∀ (f : StrandTask → Option (List UInt8)), (∀ task, isQuiet task = true → f task = none) →
      ∀ strand : List StrandTask,
        strand.filterMap f = (strand.filter (!isQuiet ·)).filterMap f := by
    intro f hf strand
    rw [List.filterMap_filter]
    congr
    funext task
    cases hquiet : isQuiet task
    · simp
    · simp [hf task hquiet]
  have hclear : ∀ strand : List StrandTask,
      .clear ∈ strand ↔ .clear ∈ strand.filter (!isQuiet ·) := by
    intro strand
    simp [List.mem_filter, isQuiet]
  have hwritten : ∀ task, isQuiet task = true → writtenFrame task = none := by
    intro task htask
    cases task <;> first | rfl | cases htask
  have hfully : ∀ task, isQuiet task = true → fullyWritten task = none := by
    intro task htask
    cases task <;> first | rfl | cases htask
  refine ⟨?_, ?_, ?_, ?_⟩
  · rw [hposted next.strand, h.tasks, ← hposted]
  · rw [hmap _ hwritten next.strand, h.tasks, ← hmap _ hwritten]
  · rw [hmap _ hfully next.strand, h.tasks, ← hmap _ hfully]
  · rw [hclear next.strand, h.tasks, ← hclear]

lemma Sending.quiet (h : Sending config s) (hsame : SameSends s next) : Sending config next := by
  obtain ⟨hposted, hwritten, hfully, hclear⟩ := hsame.strand
  have hflight : inFlight next = inFlight s := by rw [inFlight, hsame.writes, hwritten, inFlight]
  constructor
  · rw [hsame.count, hsame.reserved, hposted, hsame.queue]
    exact h.count
  · rw [outstanding, hsame.reserved, hposted, hsame.queue]
    exact h.bound
  · rw [hsame.alive, hsame.closing, hclear]
    exact h.unclosed
  · rw [hsame.alive, hsame.closing, hclear, hsame.queue]
    exact h.cleared
  · rw [hflight]
    exact h.single
  · rw [hsame.alive, hflight, hsame.inProgress, hsame.queue]
    exact h.head
  · rw [hsame.alive, hsame.accepted, hsame.queue, hsame.completed, hfully]
    exact h.sent
  · rw [hsame.completed, hsame.writes, hsame.accepted]
    exact h.order
  · rw [hsame.accepted]
    exact h.filled

variable {rest : List StrandTask} {caller : Nat} {held : Outbound × Int} {outbound : Outbound}
  {frame : List UInt8} {result : Option SocketError}

section

variable (h : Sending config s)
include h

lemma Sending.unclosed_rest (halive : s.alive = true) {task : StrandTask}
    (hstrand : s.strand = task :: rest) : s.closing = none ∧ .clear ∉ rest := by
  obtain ⟨hclosing, hclear⟩ := h.unclosed halive
  rw [hstrand] at hclear
  exact ⟨hclosing, fun hmem => hclear (List.mem_cons_of_mem _ hmem)⟩

lemma Sending.callers {checked : List Outbound}
    {reserved : List (Outbound × Int)} {strand : List StrandTask} {queuedCount : Int}
    (hcount : queuedCount = reserved.length + posted strand + s.sendQueue.length)
    (hbound : 0 < config.maxSendQueue →
      reserved.countP (hasRoom config) + posted strand + s.sendQueue.length ≤ config.maxSendQueue)
    (hwritten : strand.filterMap writtenFrame = s.strand.filterMap writtenFrame)
    (hfully : strand.filterMap fullyWritten = s.strand.filterMap fullyWritten)
    (hclear : .clear ∈ strand ↔ .clear ∈ s.strand) :
    Sending config { s with checked, reserved, strand, queuedCount } := by
  constructor
  · exact hcount
  · exact hbound
  · rw [hclear]
    exact h.unclosed
  · rw [hclear]
    exact h.cleared
  · simp only [inFlight, hwritten]
    exact h.single
  · simp only [inFlight, hwritten]
    exact h.head
  · simp only [hfully]
    exact h.sent
  · exact h.order
  · exact h.filled

lemma Sending.reserve (caller : Nat) (outbound : Outbound) :
    Sending config { s with
      checked := s.checked.eraseIdx caller
      reserved := s.reserved ++ [(outbound, s.queuedCount)]
      queuedCount := s.queuedCount + 1 } := by
  have hcount := h.count
  refine h.callers ?_ ?_ rfl rfl .rfl
  · simp only [List.length_append, List.length_singleton]
    omega
  · intro hmax
    have hbound := h.bound hmax
    have hle : s.reserved.countP (hasRoom config) ≤ s.reserved.length := List.countP_le_length
    -- a caller with room found fewer slots taken than there are
    by_cases hroom : s.queuedCount < config.maxSendQueue
    · have hnew : hasRoom config (outbound, s.queuedCount) = true := by simp [hasRoom, hroom]
      rw [List.countP_append, List.countP_singleton, if_pos hnew]
      omega
    have hnew : ¬hasRoom config (outbound, s.queuedCount) = true := by
      simp [hasRoom, hroom, hmax.ne']
    rw [List.countP_append, List.countP_singleton, if_neg hnew]
    exact hbound

lemma Sending.rollback (hget : s.reserved[caller]? = some held)
    (hfull : hasRoom config held = false) :
    Sending config { s with
      reserved := s.reserved.eraseIdx caller
      queuedCount := s.queuedCount - 1 } := by
  have hperm := perm_of_getElem? hget
  have hlength := hperm.length_eq
  have hcount := h.count
  refine h.callers ?_ ?_ rfl rfl .rfl
  · simp only [List.length_cons] at hlength
    omega
  · intro hmax
    have hbound := h.bound hmax
    rw [outstanding, hperm.countP_eq, List.countP_cons_of_neg (by simp [hfull])] at hbound
    exact hbound

lemma Sending.post (hget : s.reserved[caller]? = some held) (hroom : hasRoom config held = true) :
    Sending config { s with
      reserved := s.reserved.eraseIdx caller
      strand := s.strand ++ [.deliver held.1] } := by
  have hperm := perm_of_getElem? hget
  have hlength := hperm.length_eq
  have hcount := h.count
  have hposted : posted (s.strand ++ [.deliver held.1]) = posted s.strand + 1 := by
    simp [posted, isDeliver]
  refine h.callers ?_ ?_ ?_ ?_ ?_
  · simp only [List.length_cons] at hlength
    rw [hposted]
    push_cast
    omega
  · intro hmax
    have hbound := h.bound hmax
    rw [outstanding, hperm.countP_eq, List.countP_cons_of_pos hroom] at hbound
    omega
  · simp [writtenFrame]
  · simp [fullyWritten]
  · simp

lemma Sending.drop (hstrand : s.strand = .deliver outbound :: rest) :
    Sending config { s with strand := rest, queuedCount := s.queuedCount - 1 } := by
  have hcount := h.count
  have hposted : posted s.strand = posted rest + 1 := by
    simp [hstrand, posted, List.countP_cons, isDeliver]
  refine h.callers ?_ ?_ ?_ ?_ ?_
  · rw [hposted] at hcount
    push_cast at hcount
    omega
  · intro hmax
    have hbound := h.bound hmax
    rw [outstanding, hposted] at hbound
    omega
  · simp [hstrand, List.filterMap_cons, writtenFrame]
  · simp [hstrand, List.filterMap_cons, fullyWritten]
  · simp [hstrand]

lemma Sending.clear (hstrand : s.strand = .clear :: rest) :
    Sending config { s with
      strand := rest
      queuedCount := s.queuedCount - s.sendQueue.length
      sendQueue := []
      sendInProgress := false } := by
  have hdead : ¬s.alive = true := by
    intro halive
    exact (h.unclosed halive).2 (by simp [hstrand])
  have hposted : posted s.strand = posted rest := by simp [hstrand, posted, isDeliver]
  constructor
  · have hcount := h.count
    simp only [List.length_nil, Nat.cast_zero, add_zero]
    omega
  · intro hmax
    have hbound := h.bound hmax
    rw [outstanding, hposted] at hbound
    simp only [outstanding, List.length_nil]
    omega
  · exact fun halive => absurd halive hdead
  · exact fun _ => .inr (.inr rfl)
  · have hsingle := h.single
    rw [inFlight, hstrand] at hsingle
    exact hsingle
  · exact fun halive => absurd halive hdead
  · exact fun halive => absurd halive hdead
  · exact h.order
  · exact h.filled

lemma Sending.unwritten (hstrand : s.strand = .written frame result :: rest)
    (hresult : s.alive = false ∨ result ≠ none) : Sending config { s with strand := rest } := by
  have hposted : posted s.strand = posted rest := by simp [hstrand, posted, isDeliver]
  have hsub : ∀ f ∈ inFlight { s with strand := rest }, f ∈ inFlight s := by
    intro f hf
    simp only [inFlight, hstrand, List.filterMap_cons, writtenFrame, List.mem_append,
      List.mem_cons] at hf ⊢
    tauto
  constructor
  · rw [← hposted]
    exact h.count
  · rw [outstanding, ← hposted]
    exact h.bound
  · exact fun halive => h.unclosed_rest halive hstrand
  · intro hdead
    have hcleared := h.cleared hdead
    simpa [hstrand] using hcleared
  · have hsingle := h.single
    simp only [inFlight, hstrand, List.filterMap_cons, writtenFrame, List.length_append,
      List.length_cons] at hsingle ⊢
    omega
  · intro halive f hf
    exact h.head halive f (hsub f hf)
  · intro halive
    obtain ⟨popped, haccepted, hcompleted⟩ := h.sent halive
    refine ⟨popped, haccepted, ?_⟩
    have hnone : fullyWritten (.written frame result) = none := by
      cases result with
      | none => exact absurd halive (by simpa using hresult)
      | some => rfl
    rw [hstrand, List.filterMap_cons_none hnone] at hcompleted
    exact hcompleted
  · exact h.order
  · exact h.filled

end

lemma doAsyncWrite_eq (halive : s.alive = true) (hprogress : s.sendInProgress = true) :
    s.doAsyncWrite = { s with
      writes := s.writes ++ s.sendQueue.head?.toList
      sendInProgress := !s.sendQueue.isEmpty } := by
  unfold SessionState.doAsyncWrite
  split
  · rename_i hqueue
    simp [hqueue]
  · rename_i hqueue
    simp [halive, hqueue, hprogress]

section

variable (h : Sending config s)
include h

lemma Sending.doAsyncWrite (halive : s.alive = true)
    (hidle : inFlight s = []) : Sending config { s with sendInProgress := true }.doAsyncWrite := by
  obtain ⟨hwrites, hwritten⟩ := List.append_eq_nil_iff.mp hidle
  obtain ⟨popped, haccepted, hcompleted⟩ := h.sent halive
  -- no completed write waits for its handler, so what was completed is what was popped
  have hfully : s.strand.filterMap fullyWritten = [] := by
    rw [List.filterMap_eq_nil_iff] at hwritten ⊢
    intro task htask
    have := hwritten task htask
    cases task <;> first | rfl | cases this
  have hflight : inFlight { s with
      writes := s.writes ++ s.sendQueue.head?.toList
      sendInProgress := !s.sendQueue.isEmpty } = s.sendQueue.head?.toList := by
    simp [inFlight, hwrites, hwritten]
  rw [doAsyncWrite_eq (s := { s with sendInProgress := true }) halive rfl]
  constructor
  · exact h.count
  · exact h.bound
  · exact h.unclosed
  · exact h.cleared
  · rw [hflight]
    cases s.sendQueue <;> simp
  · intro _ frame hframe
    rw [hflight] at hframe
    cases hqueue : s.sendQueue with
    | nil => simp [hqueue] at hframe
    | cons =>
      simp only [hqueue, List.head?_cons, Option.toList_some, List.mem_singleton] at hframe
      simp [hframe]
  · exact h.sent
  · simp only [hwrites, List.nil_append, haccepted, hcompleted, hfully, List.append_nil]
    cases s.sendQueue <;> simp
  · exact h.filled

section

variable (hstrand : s.strand = .deliver outbound :: rest) (halive : s.alive = true)
  (hframe : frame ≠ [])
include hstrand halive hframe

lemma Sending.enqueue :
    Sending config { s with
      strand := rest
      sendQueue := s.sendQueue ++ [frame]
      accepted := s.accepted ++ [frame] } := by
  have hposted : posted s.strand = posted rest + 1 := by
    simp [hstrand, posted, List.countP_cons, isDeliver]
  have hflight : inFlight { s with
      strand := rest
      sendQueue := s.sendQueue ++ [frame]
      accepted := s.accepted ++ [frame] } = inFlight s := by
    simp [inFlight, hstrand, List.filterMap_cons, writtenFrame]
  constructor
  · have hcount := h.count
    simp only [List.length_append, List.length_singleton]
    push_cast at hcount ⊢
    omega
  · intro hmax
    have hbound := h.bound hmax
    rw [outstanding, hposted] at hbound
    simp only [outstanding, List.length_append, List.length_singleton]
    omega
  · exact fun _ => h.unclosed_rest halive hstrand
  · intro hdead
    simp [halive] at hdead
  · rw [hflight]
    exact h.single
  · intro _ f hf
    rw [hflight] at hf
    obtain ⟨hprogress, hhead⟩ := h.head halive f hf
    exact ⟨hprogress, by simp [List.head?_append, hhead]⟩
  · intro _
    obtain ⟨popped, haccepted, hcompleted⟩ := h.sent halive
    refine ⟨popped, by simp [haccepted], ?_⟩
    rw [hcompleted, hstrand]
    rfl
  · exact h.order.trans (List.prefix_append _ _)
  · intro f hf
    rcases List.mem_append.mp hf with hf | hf
    · exact h.filled f hf
    · rw [List.mem_singleton.mp hf]
      exact hframe

lemma Sending.push :
    Sending config ({ s with strand := rest }.pushFrame frame) := by
  have hqueued := h.enqueue hstrand halive hframe
  unfold SessionState.pushFrame
  dsimp only
  split
  · exact hqueued
  rename_i hprogress
  refine hqueued.doAsyncWrite halive ?_
  -- a write in flight would be in progress
  by_contra hflight
  obtain ⟨f, hf⟩ := List.exists_mem_of_ne_nil _ hflight
  exact hprogress (hqueued.head halive f hf).1

end

lemma Sending.written (hstrand : s.strand = .written frame none :: rest) (halive : s.alive = true) :
    Sending config ({ s with
      strand := rest
      queuedCount := s.queuedCount - 1
      sendQueue := s.sendQueue.tail }.doAsyncWrite) := by
  have hmem : frame ∈ inFlight s := by simp [inFlight, hstrand, writtenFrame]
  obtain ⟨hprogress, hhead⟩ := h.head halive frame hmem
  have hqueue : s.sendQueue = frame :: s.sendQueue.tail := (List.cons_head?_tail hhead).symm
  have hposted : posted s.strand = posted rest := by simp [hstrand, posted, isDeliver]
  -- the handler is that of the only write
  have hidle : s.writes ++ rest.filterMap writtenFrame = [] := by
    have hsingle := h.single
    simp only [inFlight, hstrand, List.filterMap_cons, writtenFrame, List.length_append,
      List.length_cons] at hsingle
    rw [← List.length_eq_zero_iff, List.length_append]
    omega
  have hpopped : Sending config { s with
      strand := rest
      queuedCount := s.queuedCount - 1
      sendQueue := s.sendQueue.tail } := by
    have hlength := congrArg List.length hqueue
    simp only [List.length_cons] at hlength
    constructor
    · have hcount := h.count
      dsimp only
      omega
    · intro hmax
      have hbound := h.bound hmax
      rw [outstanding, hposted] at hbound
      simp only [outstanding]
      omega
    · exact fun _ => h.unclosed_rest halive hstrand
    · intro hdead
      simp [halive] at hdead
    · simp [inFlight, hidle]
    · intro _ f hf
      simp [inFlight, hidle] at hf
    · intro _
      obtain ⟨popped, haccepted, hcompleted⟩ := h.sent halive
      refine ⟨popped ++ [frame], ?_, ?_⟩
      · rw [haccepted, hqueue]
        simp
      · rw [hcompleted, hstrand]
        simp [fullyWritten]
    · exact h.order
    · exact h.filled
  have hnext := hpopped.doAsyncWrite halive hidle
  simpa only [hprogress] using hnext

lemma Sending.finishWrite {write : Nat} (hget : s.writes[write]? = some frame) :
    Sending config { s with
      writes := s.writes.eraseIdx write
      strand := s.strand ++ [.written frame result]
      completed := if result = none then s.completed ++ [frame] else s.completed } := by
  have hperm := perm_of_getElem? hget
  have hlength := hperm.length_eq
  have hsingle := h.single
  simp only [inFlight, List.length_append, List.length_cons] at hsingle hlength
  -- the write is the only one
  have hleft : s.writes.eraseIdx write = [] := by
    rw [← List.length_eq_zero_iff]
    omega
  have hwrites : s.writes = [frame] := by
    rw [hleft] at hperm
    exact List.perm_singleton.mp hperm
  have hnone : s.strand.filterMap writtenFrame = [] := by
    rw [← List.length_eq_zero_iff]
    omega
  have hposted : posted (s.strand ++ [.written frame result]) = posted s.strand := by
    simp [posted, isDeliver]
  have hflight : inFlight { s with
      writes := s.writes.eraseIdx write
      strand := s.strand ++ [.written frame result]
      completed := if result = none then s.completed ++ [frame] else s.completed } =
      inFlight s := by
    rw [inFlight, inFlight, hleft, List.filterMap_append, hnone, hwrites]
    rfl
  constructor
  · rw [hposted]
    exact h.count
  · rw [outstanding, hposted]
    exact h.bound
  · simpa using h.unclosed
  · simpa using h.cleared
  · rw [hflight]
    exact h.single
  · rw [hflight]
    exact h.head
  · intro halive
    obtain ⟨popped, haccepted, hcompleted⟩ := h.sent halive
    refine ⟨popped, haccepted, ?_⟩
    cases result with
    | none | some => simp [hcompleted, fullyWritten]
  · have horder := h.order
    simp only [hleft, List.append_nil]
    split
    · rwa [hwrites] at horder
    · exact (List.prefix_append _ _).trans horder
  · exact h.filled

lemma Sending.beginClose (reason : String) : Sending config (s.beginClose reason) := by
  unfold SessionState.beginClose
  split
  · exact ⟨h.count, h.bound, fun halive => absurd halive (by simp),
      fun _ => .inl ⟨reason, .inl rfl⟩, h.single, fun halive => absurd halive (by simp),
      fun halive => absurd halive (by simp), h.order, h.filled⟩
  · exact h

lemma Sending.closing {phase : ClosePhase}
    (hclosing : s.closing = some phase) : Sending config (s.runClosing phase) := by
  have hdead : ¬s.alive = true := by
    intro halive
    rw [(h.unclosed halive).1] at hclosing
    cases hclosing
  have hcleared := h.cleared (by simpa using hdead)
  cases phase with
  | shut reason =>
    exact ⟨h.count, h.bound, fun halive => absurd halive hdead,
      fun _ => .inl ⟨reason, .inr rfl⟩, h.single, fun halive => absurd halive hdead,
      fun halive => absurd halive hdead, h.order, h.filled⟩
  | post reason =>
    have hposted : posted (s.strand ++ [.clear]) = posted s.strand := by simp [posted, isDeliver]
    refine ⟨?_, ?_, fun halive => absurd halive hdead, fun _ => .inr (.inl ?_), ?_,
      fun halive => absurd halive hdead, fun halive => absurd halive hdead, h.order, h.filled⟩
    · simp only [SessionState.runClosing, hposted]
      exact h.count
    · simp only [SessionState.runClosing, outstanding, hposted]
      exact h.bound
    · simp [SessionState.runClosing]
    · have hflight : inFlight (s.runClosing (.post reason)) = inFlight s := by
        simp [SessionState.runClosing, inFlight, List.filterMap_cons, writtenFrame]
      rw [hflight]
      exact h.single
  | notify =>
    have hcleared' : .clear ∈ s.strand ∨ s.sendQueue = [] := by simpa [hclosing] using hcleared
    exact ⟨h.count, h.bound, fun halive => absurd halive hdead, fun _ => .inr hcleared', h.single,
      fun halive => absurd halive hdead, fun halive => absurd halive hdead, h.order, h.filled⟩

theorem Sending.step {lib : JsonLibrary} {l : SessionLabel}
    (hstep : s.step lib config l = some next) : Sending config next := by
  obtain ⟨mid, hmove, hnext⟩ := step_moves hstep
  have hmid : Sending config mid := by
    cases hmove with
    | quiet hsame => exact h.quiet hsame
    | reserve => exact h.reserve _ _
    | rollback hget hfull => exact h.rollback hget hfull
    | post hget hroom => exact h.post hget hroom
    | drop hstrand => exact h.drop hstrand
    | push hstrand halive hframe => exact h.push hstrand halive hframe
    | clear hstrand => exact h.clear hstrand
    | unwritten hstrand hresult => exact h.unwritten hstrand hresult
    | written hstrand halive => exact h.written hstrand halive
    | finishWrite hget => exact h.finishWrite hget
    | closing _ hphase => exact h.closing hphase
  rcases hnext with rfl | ⟨reason, rfl⟩
  · exact hmid
  · exact hmid.beginClose reason

end

end

lemma sending_initial (config : SessionConfig) (decoder : Decoder) :
    Sending config { decoder } where
  count := rfl
  bound := by simp [outstanding, posted]
  unclosed := by simp
  cleared := by simp
  single := by simp [inFlight]
  head := by simp [inFlight]
  sent := by simp
  order := by simp
  filled := by simp

lemma sending_reachable {lib : JsonLibrary} {config : SessionConfig} {decoder : Decoder}
    {ls : List SessionLabel} {s : SessionState}
    (hrun : run (SessionState.step lib config) { decoder } ls = some s) : Sending config s :=
  reachable_invariant (SessionState.step lib config) (fun _ _ _ hinv hstep => hinv.step hstep)
    (sending_initial config decoder) hrun

/-- The count is the number of slots that someone holds, so it never underflows; no more messages
are outstanding than the limit allows; and when `close` has returned, no caller is inside and the
strand has drained, no slot is left. -/
theorem send_queue_backpressure (lib : JsonLibrary) (config : SessionConfig) (decoder : Decoder)
    (ls : List SessionLabel) (s : SessionState)
    (hrun : run (SessionState.step lib config) { decoder } ls = some s) :
    s.queuedCount = s.reserved.length + posted s.strand + s.sendQueue.length ∧
    0 ≤ s.queuedCount ∧
    (0 < config.maxSendQueue → outstanding config s ≤ config.maxSendQueue) ∧
    (s.alive = false → s.closing = none → s.strand = [] → s.reserved = [] →
      s.queuedCount = 0) := by
  have h := sending_reachable hrun
  have hcount := h.count
  refine ⟨hcount, by omega, h.bound, ?_⟩
  intro hdead hclosing hstrand hreserved
  have hqueue : s.sendQueue = [] := by
    simpa [hclosing, hstrand] using h.cleared hdead
  simpa [hreserved, hstrand, hqueue, posted] using hcount

def textlessLibrary : JsonLibrary where
  parse _ := .error ""
  dump _ := .error ""

def racedRun : List SessionLabel :=
  [.send [1], .send [2], .reserve 0, .reserve 0, .resolve 0, .resolve 0, .task, .finishWrite 0 none,
    .close "kicked", .closing, .closing, .closing, .task, .task]

theorem send_queue_backpressure_raced :
    ∃ s, run (SessionState.step textlessLibrary { maxSendQueue := 1 }) { decoder := .frames {} }
        racedRun = some s ∧ s.completed = [[1]] ∧ s.queuedCount = 0 := by
  refine ⟨_, rfl, rfl, ?_⟩
  exact (send_queue_backpressure textlessLibrary { maxSendQueue := 1 } (.frames {}) racedRun _
    rfl).2.2.2 rfl rfl rfl rfl

/-- At most one write is outstanding, its handler included, and what has been written is the
beginning of what was queued, in the order of the tasks that queued it. -/
theorem session_output_ordered (lib : JsonLibrary) (config : SessionConfig) (decoder : Decoder)
    (ls : List SessionLabel) (s : SessionState)
    (hrun : run (SessionState.step lib config) { decoder } ls = some s) :
    (inFlight s).length ≤ 1 ∧ s.completed <+: s.accepted ∧ ∀ frame ∈ s.accepted, frame ≠ [] := by
  have h := sending_reachable hrun
  exact ⟨h.single, (List.prefix_append _ _).trans h.order, h.filled⟩

def brokenRun : List SessionLabel :=
  [.send [1], .send [2], .send [3], .reserve 0, .reserve 0, .reserve 0, .resolve 0, .resolve 0,
    .resolve 0, .task, .task, .finishWrite 0 none, .task, .task, .finishWrite 0 none, .task,
    .finishWrite 0 (some (.failed "reset")), .task]

theorem session_output_ordered_broken :
    ∃ s, run (SessionState.step textlessLibrary {}) { decoder := .frames {} } brokenRun = some s ∧
      s.alive = false ∧ s.accepted = [[1], [2], [3]] ∧ s.completed = [[1], [2]] ∧
      (inFlight s).length ≤ 1 := by
  refine ⟨_, rfl, rfl, rfl, rfl, ?_⟩
  exact (session_output_ordered textlessLibrary {} (.frames {}) brokenRun _ rfl).1

/-- Nothing is left to be delivered when the disconnect is reported. -/
def quietDisconnect (s : SessionState) : SessionLabel → Bool
  | .closing =>
    match s.closing with
    | some (.notify _) => nothingLeft s
    | _ => true
  | _ => true

def disconnects (callbacks : List Callback) : Nat := callbacks.countP isDisconnect

/-- The disconnect is reported once at most. -/
structure Notified (s : SessionState) : Prop where
  unclosed : s.alive = true → s.closing = none ∧ disconnects s.callbacks = 0
  closing : s.closing ≠ none → disconnects s.callbacks = 0
  once : disconnects s.callbacks ≤ 1

section

variable {config : SessionConfig} {s next : SessionState} {l : SessionLabel}

@[simp]
lemma disconnects_append (callbacks new : List Callback) :
    disconnects (callbacks ++ new) = disconnects callbacks + disconnects new :=
  List.countP_append

lemma disconnects_eq_zero {new : List Callback} (h : ∀ c ∈ new, isDisconnect c = false) :
    disconnects new = 0 := by
  rw [disconnects, List.countP_eq_zero]
  intro c hc
  simp [h c hc]

lemma ReadCase.disconnects_eq (h : ReadCase s next) :
    disconnects next.callbacks = disconnects s.callbacks := by
  cases h with
  | unread _ hcallbacks =>
    rcases hcallbacks with hcallbacks | hcallbacks
    · rw [hcallbacks]
    · rw [hcallbacks, disconnects_append]
      rfl
  | read _ _ hcallbacks hnew =>
    rw [hcallbacks, disconnects_append, disconnects_eq_zero hnew, add_zero]

lemma Notified.same (h : Notified s) (halive : next.alive = s.alive)
    (hclosing : next.closing = s.closing)
    (hcallbacks : disconnects next.callbacks = disconnects s.callbacks) : Notified next where
  unclosed := by rw [halive, hclosing, hcallbacks]; exact h.unclosed
  closing := by rw [hclosing, hcallbacks]; exact h.closing
  once := by rw [hcallbacks]; exact h.once

variable {phase : ClosePhase} {lib : JsonLibrary}

lemma Notified.runClosing (h : Notified s) (hphase : s.closing = some phase) :
    Notified (s.runClosing phase) := by
  have hnone := h.closing (by simp [hphase])
  have hdead : ¬s.alive = true := by
    intro halive
    rw [(h.unclosed halive).1] at hphase
    cases hphase
  cases phase with
  | shut | post =>
    exact ⟨fun halive => absurd halive hdead, fun _ => hnone, h.once⟩
  | notify =>
    refine ⟨fun halive => absurd halive hdead, fun hclosing => absurd rfl hclosing, ?_⟩
    simp only [SessionState.runClosing, disconnects_append, hnone]
    exact le_rfl

lemma Notified.beginClose (h : Notified s) (reason : String) : Notified (s.beginClose reason) := by
  unfold SessionState.beginClose
  split
  · rename_i halive
    exact ⟨fun hdead => absurd hdead (by simp), fun _ => (h.unclosed halive).2, h.once⟩
  · exact h

theorem Notified.step (h : Notified s) (hstep : s.step lib config l = some next) :
    Notified next := by
  obtain ⟨mid, hmove, hnext⟩ := step_moves hstep
  have hmid : Notified mid := by
    rcases hmove.reads with ⟨halive, -, hclosing, hread⟩ | ⟨phase, -, hphase, rfl⟩
    · exact h.same halive hclosing hread.disconnects_eq
    · exact h.runClosing hphase
  rcases hnext with rfl | ⟨reason, rfl⟩
  · exact hmid
  · exact hmid.beginClose reason

def fromDisconnect (callbacks : List Callback) : List Callback :=
  callbacks.dropWhile (!isDisconnect ·)

lemma fromDisconnect_append (callbacks new : List Callback) :
    fromDisconnect (callbacks ++ new) =
      if disconnects callbacks = 0 then fromDisconnect new else fromDisconnect callbacks ++ new := by
  induction callbacks with
  | nil => simp [disconnects]
  | cons c callbacks ih =>
    cases hc : isDisconnect c with
    | false => simpa [fromDisconnect, disconnects, hc] using ih
    | true => simp [fromDisconnect, disconnects, hc]

lemma mem_fromDisconnect {callbacks after : List Callback} {reason : String}
    {before : List Callback} (h : callbacks = before ++ .disconnect reason :: after) :
    ∀ c ∈ after, c ∈ fromDisconnect callbacks := by
  subst h
  intro c hc
  rw [fromDisconnect_append]
  split
  · simp [fromDisconnect, isDisconnect, hc]
  · simp [hc]

/-- Nothing is delivered after the disconnect. -/
structure Silenced (s : SessionState) : Prop where
  shut : ∀ reason, s.closing = some (.post reason) ∨ s.closing = some (.notify reason) →
    s.socketOpen = false
  still : 0 < disconnects s.callbacks → s.socketOpen = false ∧ nothingLeft s = true
  silent : ∀ c ∈ fromDisconnect s.callbacks, isDelivery c = false

variable (h : Silenced s)
include h

lemma Silenced.read (hsocket : next.socketOpen = s.socketOpen)
    (hclosing : next.closing = s.closing) (hread : ReadCase s next) : Silenced next := by
  have hdisconnects := hread.disconnects_eq
  refine ⟨?_, ?_, ?_⟩
  · rw [hclosing, hsocket]
    exact h.shut
  · rw [hdisconnects, hsocket]
    intro hpos
    obtain ⟨hshut, hnothing⟩ := h.still hpos
    refine ⟨hshut, ?_⟩
    cases hread with
    | unread hleft => exact hleft hnothing
    | read _ hopen => simp [hopen hnothing] at hshut
  · cases hread with
    | unread _ hcallbacks =>
      rcases hcallbacks with hcallbacks | hcallbacks
      · rw [hcallbacks]
        exact h.silent
      rw [hcallbacks, fromDisconnect_append]
      intro c hc
      split at hc
      · simp [fromDisconnect, isDisconnect] at hc
      rcases List.mem_append.mp hc with hc | hc
      · exact h.silent c hc
      · rw [List.mem_singleton.mp hc]
        rfl
    | read new hopen hcallbacks hnew =>
      -- reading goes on only if `on_disconnect` has not been called
      have hnone : disconnects s.callbacks = 0 := by
        by_contra hne
        obtain ⟨hshut, hnothing⟩ := h.still (Nat.pos_of_ne_zero hne)
        simp [hopen hnothing] at hshut
      rw [hcallbacks, fromDisconnect_append, if_pos hnone]
      have hnil := fromDisconnect_append new []
      rw [List.append_nil, if_pos (disconnects_eq_zero hnew)] at hnil
      rw [hnil]
      simp [fromDisconnect]

lemma Silenced.runClosing (hnotified : Notified s)
    (hphase : s.closing = some phase)
    (hquiet : ∀ reason, phase = .notify reason → nothingLeft s = true) :
    Silenced (s.runClosing phase) := by
  have hnone := hnotified.closing (by simp [hphase])
  cases phase with
  | shut =>
    refine ⟨fun _ _ => rfl, ?_, h.silent⟩
    intro hpos
    exact absurd hnone hpos.ne'
  | post reason =>
    refine ⟨fun _ _ => h.shut reason (.inl hphase), ?_, h.silent⟩
    intro hpos
    exact absurd hnone hpos.ne'
  | notify reason =>
    refine ⟨?_, ?_, ?_⟩
    · intro reason' hclosing
      simp [SessionState.runClosing] at hclosing
    · intro _
      exact ⟨h.shut reason (.inr hphase), hquiet reason rfl⟩
    · simp only [SessionState.runClosing, fromDisconnect_append, hnone, if_true]
      simp [fromDisconnect, isDisconnect, isDelivery]

lemma Silenced.beginClose (reason : String) : Silenced (s.beginClose reason) := by
  unfold SessionState.beginClose
  split
  · refine ⟨?_, h.still, h.silent⟩
    intro reason' hclosing
    simp at hclosing
  · exact h

theorem Silenced.step (hnotified : Notified s)
    (hquiet : quietDisconnect s l = true) (hstep : s.step lib config l = some next) :
    Silenced next := by
  obtain ⟨mid, hmove, hnext⟩ := step_moves hstep
  have hmid : Silenced mid := by
    rcases hmove.reads with ⟨-, hsocket, hclosing, hread⟩ | ⟨phase, hl, hphase, rfl⟩
    · exact h.read hsocket hclosing hread
    refine h.runClosing hnotified hphase ?_
    rintro reason rfl
    simpa only [hl, quietDisconnect, hphase] using hquiet
  rcases hnext with rfl | ⟨reason, rfl⟩
  · exact hmid
  · exact hmid.beginClose reason

end

lemma notified_initial (decoder : Decoder) : Notified { decoder } := by
  constructor <;> simp [disconnects]

lemma silenced_initial (decoder : Decoder) : Silenced { decoder } := by
  constructor <;> simp [disconnects, fromDisconnect]

/-- `on_disconnect` is called at most once; and if nothing is left to deliver whenever it is
called, no packet and no message is delivered after it. -/
theorem no_delivery_after_disconnect (lib : JsonLibrary) (config : SessionConfig)
    (decoder : Decoder) (ls : List SessionLabel) (s : SessionState)
    (hrun : run (SessionState.step lib config) { decoder } ls = some s) :
    disconnects s.callbacks ≤ 1 ∧
    (Admits (SessionState.step lib config) (fun s l => quietDisconnect s l = true) { decoder } ls →
      ∀ before reason after, s.callbacks = before ++ .disconnect reason :: after →
        ∀ c ∈ after, isDelivery c = false) := by
  have hnotified : Notified s := reachable_invariant (SessionState.step lib config)
    (fun _ _ _ hinv hstep => hinv.step hstep) (notified_initial decoder) hrun
  refine ⟨hnotified.once, ?_⟩
  intro hquiet before reason after hcallbacks c hc
  have hstep : ∀ s l next, Notified s ∧ Silenced s → quietDisconnect s l = true →
      s.step lib config l = some next → Notified next ∧ Silenced next :=
    fun _ _ _ hinv hgood hstep => ⟨hinv.1.step hstep, hinv.2.step hinv.1 hgood hstep⟩
  have hboth := run_invariant (SessionState.step lib config) hstep
    ⟨notified_initial decoder, silenced_initial decoder⟩ hquiet hrun
  exact hboth.2.silent c (mem_fromDisconnect hcallbacks c hc)

lemma loop_round {lib : JsonLibrary} {config : SessionConfig} {s : SessionState}
    {P : SessionState → Prop} (mid : SessionState) (hstep : s.step lib config .loop = some mid)
    (h : ∃ rounds next, run (SessionState.step lib config) mid (List.replicate rounds .loop) =
      some next ∧ P next) :
    ∃ rounds next, run (SessionState.step lib config) s (List.replicate rounds .loop) = some next ∧
      P next := by
  obtain ⟨rounds, next, hrun, hnext⟩ := h
  exact ⟨rounds + 1, next, by simp [List.replicate_succ, run, hstep, hrun], hnext⟩

/-- The loop over the results of a read, undisturbed, passes on the packets of
`TcpSession.deliver` and closes the session where that stops. -/
theorem loop_delivers (lib : JsonLibrary) (config : SessionConfig) (pipeline : ProtocolPipeline)
    (results : List DispatchResult) (s : SessionState) (hdecoder : s.decoder = .pipeline pipeline)
    (hhandler : s.handler = some (.results results)) :
    ∃ rounds next, run (SessionState.step lib config) s (List.replicate rounds .loop) = some next ∧
      next.handler = none ∧
      next.callbacks = s.callbacks ++ (TcpSession.deliver lib pipeline results).1.map .packet ∧
      next.alive = (s.alive && (TcpSession.deliver lib pipeline results).2) := by
  induction results generalizing s with
  | nil =>
    refine loop_round (.doReceive config { s with handler := none }) ?_ ⟨0, _, rfl, ?_⟩
    · simp [SessionState.step, SessionState.runLoop, hhandler]
    · unfold SessionState.doReceive
      split <;> simp [TcpSession.deliver]
  | cons result results ih =>
    have hloop : s.step lib config .loop = s.runLoop lib config (.results (result :: results)) := by
      simp [SessionState.step, hhandler]
    simp only [SessionState.runLoop, hdecoder] at hloop
    have hclosed : ∀ reason, ∃ rounds next, run (SessionState.step lib config)
        ({ s with decoder := .pipeline pipeline, handler := none }.handleError reason)
        (List.replicate rounds .loop) = some next ∧
        next.handler = none ∧ next.callbacks = s.callbacks ∧ next.alive = false := by
      intro reason
      refine ⟨0, _, rfl, ?_⟩
      unfold SessionState.handleError SessionState.beginClose
      split <;> simp_all
    rw [TcpSession.deliver]
    split_ifs at hloop ⊢ with hok hdrop hprepared
    · exact loop_round _ hloop (by simpa using hclosed _)
    · exact loop_round _ hloop (ih _ rfl rfl)
    · exact loop_round _ hloop (by simpa using hclosed _)
    · simpa using loop_round _ hloop (ih _ rfl rfl)

def lastFrameRun : List SessionLabel :=
  [.start, .finishRead (.ok (List.replicate 16 0)), .task, .loop, .loop, .close "kicked", .closing,
    .closing, .closing, .loop, .task]

theorem no_delivery_after_disconnect_last :
    ∃ s, run (SessionState.step textlessLibrary {}) { decoder := .frames {} } lastFrameRun = some s ∧
      s.callbacks = [.connect, .message [], .message [], .disconnect "kicked"] ∧
      disconnects s.callbacks ≤ 1 ∧
      ∀ before reason after, s.callbacks = before ++ .disconnect reason :: after →
        ∀ c ∈ after, isDelivery c = false := by
  have h := no_delivery_after_disconnect textlessLibrary {} (.frames {}) lastFrameRun _ rfl
  exact ⟨_, rfl, rfl, h.1, h.2 (by decide)⟩

def passingPipeline : ProtocolPipeline :=
  .create { envelope := { lengthBytes := 1 }, routeSource := .none, unknownRouteAction := .forwardRaw }
    {} ∅

def loopingSession : SessionState where
  decoder := .pipeline passingPipeline
  handler := some (.results [{ action := .forwardRaw }, { error := "unknown route" }])

theorem loop_delivers_first :
    ∃ rounds next, run (SessionState.step textlessLibrary {}) loopingSession
        (List.replicate rounds .loop) = some next ∧ next.alive = false ∧
      next.callbacks = [.packet { action := .forwardRaw }] := by
  obtain ⟨rounds, next, hrun, -, hcallbacks, halive⟩ :=
    loop_delivers textlessLibrary {} passingPipeline _ loopingSession rfl rfl
  exact ⟨rounds, next, hrun, halive, hcallbacks⟩

def kickedReadRun (bytes : List UInt8) : List SessionLabel :=
  [.start, .finishRead (.ok bytes), .task, .loop, .close "kicked", .closing, .closing, .closing,
    .loop]

/-- The second packet of the read, or the second frame, is delivered after `on_disconnect`. -/
theorem delivery_after_disconnect :
    (∃ s first second, run (SessionState.step textlessLibrary {})
        { decoder := .pipeline passingPipeline } (kickedReadRun [0, 0]) = some s ∧
      s.callbacks = [.connect, .packet first, .disconnect "kicked", .packet second]) ∧
    ∃ s, run (SessionState.step textlessLibrary {}) { decoder := .frames {} }
        (kickedReadRun (List.replicate 16 0)) = some s ∧
      s.callbacks = [.connect, .message [], .disconnect "kicked", .message []] :=
  ⟨⟨_, _, _, rfl, rfl⟩, ⟨_, rfl, rfl⟩⟩

end ShieldRuntime.Proofs
