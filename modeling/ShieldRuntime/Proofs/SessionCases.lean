import ShieldRuntime.Net.SessionStep

/-!
# What a step of a session can do

The one place that unfolds the step of a session.
-/

namespace ShieldRuntime.Proofs
open Transport Net

def hasRoom (config : SessionConfig) (held : Outbound × Int) : Bool :=
  decide (0 < config.maxSendQueue → held.2 < config.maxSendQueue)

def isQuiet : StrandTask → Bool
  | .received _ | .idle => true
  | _ => false

def isUnread : StrandTask → Bool
  | .received (.ok _) => true
  | _ => false

def isDone : Pending → Bool
  | .results left | .frames left => left.isEmpty

def nothingLeft (s : SessionState) : Bool :=
  s.handler.all isDone && s.strand.all (!isUnread ·)

def isDisconnect : Callback → Bool
  | .disconnect _ => true
  | _ => false

def isDelivery : Callback → Bool
  | .packet _ | .message _ => true
  | _ => false

/-- The step does not send. -/
structure SameSends (s next : SessionState) : Prop where
  alive : next.alive = s.alive
  socketOpen : next.socketOpen = s.socketOpen
  count : next.queuedCount = s.queuedCount
  reserved : next.reserved = s.reserved
  tasks : next.strand.filter (!isQuiet ·) = s.strand.filter (!isQuiet ·)
  queue : next.sendQueue = s.sendQueue
  inProgress : next.sendInProgress = s.sendInProgress
  writes : next.writes = s.writes
  closing : next.closing = s.closing
  accepted : next.accepted = s.accepted
  completed : next.completed = s.completed

inductive ReadCase (s next : SessionState) : Prop
  | unread : (nothingLeft s = true → nothingLeft next = true) →
    (next.callbacks = s.callbacks ∨ next.callbacks = s.callbacks ++ [.connect]) →
    ReadCase s next
  | read (new : List Callback) : (nothingLeft s = true → s.socketOpen = true) →
    next.callbacks = s.callbacks ++ new → (∀ c ∈ new, isDisconnect c = false) →
    ReadCase s next

section

variable (config : SessionConfig) (s : SessionState) (l : SessionLabel)

inductive SessionMove :
    SessionState → Prop
  | quiet {next} : SameSends s next → ReadCase s next → SessionMove next
  | reserve {caller outbound} :
    s.checked[caller]? = some outbound →
    SessionMove { s with
      checked := s.checked.eraseIdx caller
      reserved := s.reserved ++ [(outbound, s.queuedCount)]
      queuedCount := s.queuedCount + 1 }
  | rollback {caller} {held : Outbound × Int} :
    s.reserved[caller]? = some held → hasRoom config held = false →
    SessionMove { s with
      reserved := s.reserved.eraseIdx caller
      queuedCount := s.queuedCount - 1 }
  | post {caller} {held : Outbound × Int} :
    s.reserved[caller]? = some held → hasRoom config held = true →
    SessionMove { s with
      reserved := s.reserved.eraseIdx caller
      strand := s.strand ++ [.deliver held.1] }
  | drop {outbound rest} :
    s.strand = .deliver outbound :: rest →
    SessionMove { s with strand := rest, queuedCount := s.queuedCount - 1 }
  | push {outbound rest frame} :
    s.strand = .deliver outbound :: rest → s.alive = true → frame ≠ [] →
    SessionMove ({ s with strand := rest }.pushFrame frame)
  | clear {rest} :
    s.strand = .clear :: rest →
    SessionMove { s with
      strand := rest
      queuedCount := s.queuedCount - s.sendQueue.length
      sendQueue := []
      sendInProgress := false }
  | unwritten {frame result rest} :
    s.strand = .written frame result :: rest → s.alive = false ∨ result ≠ none →
    SessionMove { s with strand := rest }
  | written {frame rest} :
    s.strand = .written frame none :: rest → s.alive = true →
    SessionMove ({ s with
      strand := rest
      queuedCount := s.queuedCount - 1
      sendQueue := s.sendQueue.tail }.doAsyncWrite)
  | finishWrite {write frame result} :
    s.writes[write]? = some frame →
    SessionMove { s with
      writes := s.writes.eraseIdx write
      strand := s.strand ++ [.written frame result]
      completed := if result = none then s.completed ++ [frame] else s.completed }
  | closing {phase} : l = .closing → s.closing = some phase → SessionMove (s.runClosing phase)

end

section

variable {lib : JsonLibrary} {config : SessionConfig} {s next : SessionState} {l : SessionLabel}

lemma SameSends.refl (s : SessionState) : SameSends s s := by constructor <;> rfl

variable {rest : List StrandTask} {mid : SessionState} {move : SessionState → Prop}

lemma SameSends.of_tail {task : StrandTask} (hstrand : s.strand = task :: rest)
    (hquiet : isQuiet task = true) : SameSends s { s with strand := rest } := by
  constructor <;> simp [hstrand, hquiet]

lemma SameSends.trans (h : SameSends s mid) (h' : SameSends mid next) :
    SameSends s next where
  alive := h'.alive.trans h.alive
  socketOpen := h'.socketOpen.trans h.socketOpen
  count := h'.count.trans h.count
  reserved := h'.reserved.trans h.reserved
  tasks := h'.tasks.trans h.tasks
  queue := h'.queue.trans h.queue
  inProgress := h'.inProgress.trans h.inProgress
  writes := h'.writes.trans h.writes
  closing := h'.closing.trans h.closing
  accepted := h'.accepted.trans h.accepted
  completed := h'.completed.trans h.completed

lemma doReceive_sameSends (config : SessionConfig) (s : SessionState) :
    SameSends s (s.doReceive config) := by
  unfold SessionState.doReceive
  split <;> constructor <;> rfl

lemma doReceive_reads (config : SessionConfig) (s : SessionState) :
    nothingLeft (s.doReceive config) = nothingLeft s ∧
      (s.doReceive config).callbacks = s.callbacks := by
  unfold SessionState.doReceive
  split <;> exact ⟨rfl, rfl⟩

lemma ReadCase.same (hhandler : next.handler = s.handler)
    (hstrand : ∀ task ∈ next.strand, task ∈ s.strand ∨ isUnread task = false)
    (hcallbacks : next.callbacks = s.callbacks) : ReadCase s next := by
  refine .unread ?_ (.inl hcallbacks)
  intro hleft
  simp only [nothingLeft, Bool.and_eq_true, List.all_eq_true, hhandler] at hleft ⊢
  refine ⟨hleft.1, ?_⟩
  intro task htask
  rcases hstrand task htask with hmem | hunread
  · exact hleft.2 task hmem
  · simp [hunread]

lemma mem_posted {strand : List StrandTask} {new : StrandTask} (hnew : isUnread new = false) :
    ∀ task ∈ strand ++ [new], task ∈ strand ∨ isUnread task = false := by
  intro task htask
  rcases List.mem_append.mp htask with hmem | hmem
  · exact .inl hmem
  · rw [List.mem_singleton.mp hmem]
    exact .inr hnew

def Then (move : SessionState → Prop) (next : SessionState) : Prop :=
  ∃ mid, move mid ∧ (next = mid ∨ ∃ reason, next = mid.beginClose reason)

lemma then_self (h : move next) : Then move next :=
  ⟨next, h, .inl rfl⟩

lemma then_handleError (h : move mid) (reason : String) : Then move (mid.handleError reason) :=
  ⟨mid, h, .inr ⟨reason, rfl⟩⟩

lemma ReadCase.of_left (new : List Callback) (hleft : nothingLeft s = false)
    (hcallbacks : next.callbacks = s.callbacks ++ new)
    (hnew : ∀ c ∈ new, isDisconnect c = false) : ReadCase s next :=
  .read new (fun h => absurd h (by simp [hleft])) hcallbacks hnew

lemma runReceived_moves (lib : JsonLibrary) (config : SessionConfig)
    {result : Except SocketError (List UInt8)} (hstrand : s.strand = .received result :: rest) :
    Then (fun mid => SameSends s mid ∧ ReadCase s mid)
      ({ s with strand := rest }.runReceived lib config result) := by
  unfold SessionState.runReceived
  -- whether the deadline is cancelled makes no difference here
  generalize hmid : (if 0 < config.readIdleTimeoutMs then
    { s with strand := rest, deadline := false } else { s with strand := rest }) = mid
  obtain ⟨deadline, rfl⟩ : ∃ deadline, mid = { s with strand := rest, deadline } := by
    subst hmid
    split
    · exact ⟨false, rfl⟩
    · exact ⟨s.deadline, rfl⟩
  have hsame : ∀ decoder handler,
      SameSends s { s with strand := rest, deadline, decoder, handler } := by
    intro decoder handler
    constructor <;> simp [hstrand, isQuiet]
  have htail : ReadCase s { s with strand := rest, deadline } := by
    refine ReadCase.same rfl ?_ rfl
    intro task htask
    rw [hstrand]
    exact .inl (List.mem_cons_of_mem _ htask)
  match result with
  | .error .aborted => exact then_self ⟨hsame _ _, htail⟩
  | .error (.failed message) => exact then_handleError ⟨hsame _ _, htail⟩ _
  | .ok data =>
    have hread : ∀ decoder handler,
        ReadCase s { s with strand := rest, deadline, decoder, handler } := by
      intro decoder handler
      refine ReadCase.of_left [] ?_ (by simp) (by simp)
      simp [nothingLeft, hstrand, isUnread]
    dsimp only
    split <;> split
    · exact then_handleError ⟨hsame _ _, hread _ _⟩ _
    · exact then_self ⟨hsame _ _, hread _ _⟩
    · exact then_handleError ⟨hsame _ _, hread _ _⟩ _
    · exact then_self ⟨hsame _ _, hread _ _⟩

lemma runLoop_moves {pending : Pending} (hhandler : s.handler = some pending)
    (h : s.runLoop lib config pending = some next) :
    Then (fun mid => SameSends s mid ∧ ReadCase s mid) next := by
  have hover : SameSends s { s with handler := none } := by constructor <;> rfl
  have hended : SameSends s (SessionState.doReceive config { s with handler := none }) ∧
      ReadCase s (SessionState.doReceive config { s with handler := none }) := by
    obtain ⟨hleft, hcallbacks⟩ := doReceive_reads config { s with handler := none }
    refine ⟨hover.trans (doReceive_sameSends config _), .unread ?_ (.inl hcallbacks)⟩
    intro hnothing
    rw [hleft]
    simp only [nothingLeft, Bool.and_eq_true] at hnothing ⊢
    exact ⟨rfl, hnothing.2⟩
  have hleft : isDone pending = false → nothingLeft s = false := by
    intro hdone
    simp [nothingLeft, hhandler, hdone]
  have hsame : ∀ handler, isDone pending = false → ReadCase s { s with handler } :=
    fun _ hdone => .of_left [] (hleft hdone) (by simp) (by simp)
  revert h
  fun_cases SessionState.runLoop lib config s pending <;> rintro ⟨⟩
  · exact then_self hended
  · exact then_self hended
  · exact then_self ⟨by constructor <;> rfl, .of_left _ (hleft rfl) rfl (by simp [isDisconnect])⟩
  · exact then_handleError ⟨hover, hsame _ rfl⟩ _
  · exact then_self ⟨by constructor <;> rfl, hsame _ rfl⟩
  · exact then_handleError ⟨hover, hsame _ rfl⟩ _
  · exact then_self ⟨by constructor <;> rfl, .of_left _ (hleft rfl) rfl (by simp [isDisconnect])⟩

lemma runTask_moves {task : StrandTask} {rest : List StrandTask} (hstrand : s.strand = task :: rest)
    (h : { s with strand := rest }.runTask lib config task = some next) :
    Then (SessionMove config s l) next := by
  match task with
  | .deliver outbound =>
    have hdrop : SessionMove config s l { s with strand := rest, queuedCount := s.queuedCount - 1 } :=
      .drop hstrand
    rw [SessionState.runTask] at h
    revert h
    fun_cases SessionState.runDeliver lib { s with strand := rest } outbound <;> rintro ⟨⟩
    · exact then_self (.push hstrand ‹_› ‹_›)
    · exact then_self hdrop
    · exact then_self hdrop
    · exact then_self (.push hstrand ‹_› (List.cons_ne_nil _ _))
    · exact then_self hdrop
    · exact then_self hdrop
  | .clear =>
    cases h
    exact then_self (.clear hstrand)
  | .written frame result =>
    cases h
    unfold SessionState.runWritten
    split
    · rename_i hdead
      exact then_self (.unwritten hstrand (.inl (by simpa using hdead)))
    rename_i halive
    match result with
    | some .aborted => exact then_self (.unwritten hstrand (.inr (by simp)))
    | some (.failed message) =>
      exact then_handleError (.unwritten hstrand (.inr (by simp))) _
    | none => exact then_self (.written hstrand (by simpa using halive))
  | .received result =>
    cases h
    obtain ⟨mid, hmid, hnext⟩ := runReceived_moves lib config hstrand
    exact ⟨mid, .quiet hmid.1 hmid.2, hnext⟩
  | .idle =>
    cases h
    have hread : ReadCase s { s with strand := rest } :=
      ReadCase.same rfl (fun task htask => .inl (by simp [hstrand, htask])) rfl
    have hmove : SessionMove config s l { s with strand := rest } :=
      .quiet (.of_tail hstrand rfl) hread
    split
    · exact then_handleError hmove _
    · exact then_self hmove

theorem step_moves (h : s.step lib config l = some next) : Then (SessionMove config s l) next := by
  cases l with
  | start =>
    simp only [SessionState.step] at h
    split at h
    · cases h
    cases h
    have hstarted : SameSends s
        { s with started := true, callbacks := s.callbacks ++ [.connect] } := by
      constructor <;> rfl
    obtain ⟨hleft, hcallbacks⟩ := doReceive_reads config
      { s with started := true, callbacks := s.callbacks ++ [.connect] }
    refine then_self (.quiet (hstarted.trans (doReceive_sameSends config _)) ?_)
    refine .unread ?_ (.inr hcallbacks)
    rw [hleft]
    exact fun hnothing => hnothing
  | send | sendMessage =>
    simp only [SessionState.step] at h
    split at h <;> cases h <;>
      exact then_self (.quiet (by constructor <;> rfl) (.same rfl (fun _ h => .inl h) rfl))
  | reserve =>
    obtain ⟨outbound, hget, rfl⟩ := Option.map_eq_some_iff.mp h
    exact then_self (.reserve hget)
  | resolve caller =>
    obtain ⟨held, hget, rfl⟩ := Option.map_eq_some_iff.mp h
    unfold SessionState.resolve
    split
    · rename_i hfull
      refine then_self (.rollback hget ?_)
      simpa [hasRoom] using hfull
    rename_i hroom
    refine then_self (.post hget ?_)
    simp only [hasRoom, decide_eq_true_eq]
    intro hmax
    exact not_le.mp fun hle => hroom ⟨hmax, hle⟩
  | task =>
    simp only [SessionState.step] at h
    split at h
    · exact runTask_moves ‹_› h
    · cases h
  | loop =>
    obtain ⟨pending, hhandler, hloop⟩ := Option.bind_eq_some_iff.mp h
    obtain ⟨mid, hmid, hnext⟩ := runLoop_moves hhandler hloop
    exact ⟨mid, .quiet hmid.1 hmid.2, hnext⟩
  | finishWrite =>
    obtain ⟨frame, hget, rfl⟩ := Option.map_eq_some_iff.mp h
    exact then_self (.finishWrite hget)
  | finishRead result =>
    obtain ⟨⟨-, hcan⟩, ⟨⟩⟩ := Option.ite_none_right_eq_some.mp h
    refine then_self (.quiet (by constructor <;> simp [isQuiet]) ?_)
    match result with
    | .ok data => exact .read [] (fun _ => hcan) (by simp) (by simp)
    | .error e => exact .same rfl (mem_posted rfl) rfl
  | expire =>
    obtain ⟨-, ⟨⟩⟩ := Option.ite_none_right_eq_some.mp h
    exact then_self (.quiet (by constructor <;> simp [isQuiet]) (.same rfl (mem_posted rfl) rfl))
  | close reason =>
    cases h
    exact ⟨s, .quiet (.refl s) (.same rfl (fun _ h => .inl h) rfl), .inr ⟨reason, rfl⟩⟩
  | closing =>
    obtain ⟨phase, hphase, rfl⟩ := Option.map_eq_some_iff.mp h
    exact then_self (.closing rfl hphase)

lemma pushFrame_kept (s : SessionState) (frame : List UInt8) :
    (s.pushFrame frame).alive = s.alive ∧ (s.pushFrame frame).socketOpen = s.socketOpen ∧
      (s.pushFrame frame).closing = s.closing ∧ (s.pushFrame frame).handler = s.handler ∧
      (s.pushFrame frame).strand = s.strand ∧ (s.pushFrame frame).callbacks = s.callbacks := by
  unfold SessionState.pushFrame SessionState.doAsyncWrite
  dsimp only
  split
  · exact ⟨rfl, rfl, rfl, rfl, rfl, rfl⟩
  split
  · exact ⟨rfl, rfl, rfl, rfl, rfl, rfl⟩
  · split <;> exact ⟨rfl, rfl, rfl, rfl, rfl, rfl⟩

lemma doAsyncWrite_kept (s : SessionState) :
    s.doAsyncWrite.alive = s.alive ∧ s.doAsyncWrite.socketOpen = s.socketOpen ∧
      s.doAsyncWrite.closing = s.closing ∧ s.doAsyncWrite.handler = s.handler ∧
      s.doAsyncWrite.strand = s.strand ∧ s.doAsyncWrite.callbacks = s.callbacks := by
  unfold SessionState.doAsyncWrite
  split
  · exact ⟨rfl, rfl, rfl, rfl, rfl, rfl⟩
  · split <;> exact ⟨rfl, rfl, rfl, rfl, rfl, rfl⟩

lemma SessionMove.reads (h : SessionMove config s l next) :
    (next.alive = s.alive ∧ next.socketOpen = s.socketOpen ∧ next.closing = s.closing ∧
      ReadCase s next) ∨
    ∃ phase, l = .closing ∧ s.closing = some phase ∧ next = s.runClosing phase := by
  cases h with
  | quiet hsame hread => exact .inl ⟨hsame.alive, hsame.socketOpen, hsame.closing, hread⟩
  | reserve | rollback =>
    exact .inl ⟨rfl, rfl, rfl, .same rfl (fun _ h => .inl h) rfl⟩
  | post | finishWrite =>
    exact .inl ⟨rfl, rfl, rfl, .same rfl (mem_posted rfl) rfl⟩
  | drop hstrand | clear hstrand | unwritten hstrand =>
    exact .inl ⟨rfl, rfl, rfl, .same rfl (fun _ h => .inl (by simp [hstrand, h])) rfl⟩
  | @push _ rest frame hstrand =>
    obtain ⟨hsame, hsocket, hclosing, hhandler, hrest, hcallbacks⟩ :=
      pushFrame_kept { s with strand := rest } frame
    refine .inl ⟨hsame, hsocket, hclosing, .same hhandler ?_ hcallbacks⟩
    intro task htask
    rw [hrest] at htask
    exact .inl (by simp [hstrand, htask])
  | @written _ rest hstrand =>
    obtain ⟨hsame, hsocket, hclosing, hhandler, hrest, hcallbacks⟩ := doAsyncWrite_kept { s with
      strand := rest
      queuedCount := s.queuedCount - 1
      sendQueue := s.sendQueue.tail }
    refine .inl ⟨hsame, hsocket, hclosing, .same hhandler ?_ hcallbacks⟩
    intro task htask
    rw [hrest] at htask
    exact .inl (by simp [hstrand, htask])
  | @closing phase hl hphase => exact .inr ⟨phase, hl, hphase, rfl⟩

end

end ShieldRuntime.Proofs
