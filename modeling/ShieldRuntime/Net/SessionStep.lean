import ShieldRuntime.Transport.Pipeline

/-!
# Steps of a TCP session and of the listener

`TcpSession` with its callers, its strand and the operations that are outstanding on the socket.
A step is an atomic operation of a caller, a task of the strand, one round of the loop over the
results of a read, the completion of a write or a read, or a part of `close`. The strand runs its
tasks in the order in which they were posted. A caller of `close` may be any thread, a callback
among them; a `close` that runs inside a task goes on in steps of its own. The user's callbacks
are all set. Running out of memory is left out, and with it the `std::length_error` of a body
that no address space holds. `queued_count_` is an integer: a negative value is an underflow.

`TcpListener` has one step for each critical section on `sessions_mutex_` and for what runs
between two of them. A session object is its id and the address of its peer; `TcpSession` reads
that address from the endpoint the accept handler has read. Session ids do not wrap.
-/

namespace ShieldRuntime.Net
open Transport

/-- What the read handler of a session uses. -/
structure TcpSession where
  pipeline : ProtocolPipeline
  alive : Bool := true

namespace TcpSession

/-- A result that is not dropped, ready for `on_packet`; `false` if its body cannot be decoded. -/
def prepare (lib : JsonLibrary) (pipeline : ProtocolPipeline) (result : DispatchResult) :
    Bool × DispatchResult :=
  if result.action = .decodeLocal then pipeline.materializeDecode lib result else (true, result)

/-- The loop over the results of one read: what is passed to `on_packet`, and whether the loop
ended without `handle_error`. -/
def deliver (lib : JsonLibrary) (pipeline : ProtocolPipeline) :
    List DispatchResult → List DispatchResult × Bool
  | [] => ([], true)
  | result :: results =>
    if !result.ok then ([], false)
    else if result.shouldDrop then deliver lib pipeline results
    else if !(prepare lib pipeline result).1 then ([], false)
    else
      let next := deliver lib pipeline results
      ((prepare lib pipeline result).2 :: next.1, next.2)

def onRead (lib : JsonLibrary) (session : TcpSession) (data : List UInt8) :
    List DispatchResult × TcpSession :=
  if !session.alive then ([], session)
  else
    let (results, pipeline) := session.pipeline.feed lib (.bytes data)
    if pipeline.error ≠ "" then ([], { pipeline, alive := false })
    else
      let (packets, finished) := deliver lib pipeline results
      (packets, { pipeline, alive := finished })

/-- All packets that a session delivers for a sequence of reads. -/
def received (lib : JsonLibrary) (session : TcpSession) : List (List UInt8) → List DispatchResult
  | [] => []
  | data :: rest =>
    let (packets, next) := session.onRead lib data
    packets ++ received lib next rest

end TcpSession

/-- The limits of a session. -/
structure SessionConfig where
  maxSendQueue : Nat := 0
  readIdleTimeoutMs : Nat := 0
  deriving DecidableEq, Repr

/-- An error of an operation on the socket; `aborted` is `operation_aborted`. -/
inductive SocketError where
  | aborted
  | failed (message : String)
  deriving DecidableEq, Repr

/-- What a caller wants sent; `send` returns at once for empty data. -/
inductive Outbound where
  | data (bytes : List UInt8) (nonempty : bytes ≠ [])
  | message (body : DecodedBody)

inductive StrandTask where
  | deliver (outbound : Outbound)
  | clear
  | written (frame : List UInt8) (result : Option SocketError)
  | received (result : Except SocketError (List UInt8))
  | idle

/-- What turns received bytes into callbacks. -/
inductive Decoder where
  | pipeline (pipeline : ProtocolPipeline)
  | frames (decoder : FrameDecoder)

/-- What the loop over the results of a read has still to look at. -/
inductive Pending where
  | results (left : List DispatchResult)
  | frames (left : List Frame)

/-- What `close` has still to do once it has cleared `alive_`. -/
inductive ClosePhase where
  | shut (reason : String)
  | post (reason : String)
  | notify (reason : String)
  deriving DecidableEq, Repr

inductive Callback where
  | connect
  | packet (result : DispatchResult)
  | message (payload : List UInt8)
  | disconnect (reason : String)

/-- A session with its strand and the calls that are under way. -/
structure SessionState where
  decoder : Decoder
  alive : Bool := true
  socketOpen : Bool := true
  started : Bool := false
  queuedCount : Int := 0
  -- callers of `send` and `send_message` that have passed the tests before the reservation
  checked : List Outbound := []
  -- callers that hold a reservation, with the count they found
  reserved : List (Outbound × Int) := []
  strand : List StrandTask := []
  sendQueue : List (List UInt8) := []
  sendInProgress : Bool := false
  -- the asynchronous writes and the read that are outstanding
  writes : List (List UInt8) := []
  reading : Bool := false
  deadline : Bool := false
  -- the strand is inside the loop over the results of a read
  handler : Option Pending := none
  closing : Option ClosePhase := none
  -- what has happened so far: the frames queued, the buffers written, the callbacks
  accepted : List (List UInt8) := []
  completed : List (List UInt8) := []
  callbacks : List Callback := []

inductive SessionLabel where
  | start
  | send (data : List UInt8)
  | sendMessage (body : DecodedBody)
  | reserve (caller : Nat)
  | resolve (caller : Nat)
  | task
  | loop
  | finishWrite (write : Nat) (result : Option SocketError)
  | finishRead (result : Except SocketError (List UInt8))
  | expire
  | close (reason : String)
  | closing

namespace SessionState

variable (lib : JsonLibrary) (config : SessionConfig) (s : SessionState)

/-- The exchange of `alive_` at the start of `close`. -/
def beginClose (reason : String) : SessionState :=
  if s.alive then { s with alive := false, closing := some (.shut reason) } else s

def handleError (reason : String) : SessionState := s.beginClose reason

def doAsyncWrite : SessionState :=
  match s.sendQueue with
  | [] => { s with sendInProgress := false }
  | front :: _ =>
    if s.alive then { s with writes := s.writes ++ [front] } else { s with sendInProgress := false }

/-- A frame enters the queue, and a write starts unless one is going on. -/
def pushFrame (frame : List UInt8) : SessionState :=
  let s := { s with sendQueue := s.sendQueue ++ [frame], accepted := s.accepted ++ [frame] }
  if s.sendInProgress then s else { s with sendInProgress := true }.doAsyncWrite

def release (slots : Nat) : SessionState :=
  { s with queuedCount := s.queuedCount - slots }

def doReceive : SessionState :=
  if s.alive then
    { s with reading := true, deadline := s.deadline || decide (0 < config.readIdleTimeoutMs) }
  else s

/-- A read that is still outstanding when the socket is closed gets no data. -/
def canRead : Except SocketError (List UInt8) → Bool
  | .ok _ => s.socketOpen
  | .error _ => true

def runDeliver : Outbound → Option SessionState
  | .data bytes _ => if s.alive then some (s.pushFrame bytes) else some (s.release 1)
  | .message body =>
    if s.alive then
      match s.decoder with
      | .frames _ => none
      | .pipeline pipeline =>
        match pipeline.encodeMessage lib body with
        | .ok [] => some (s.release 1)
        | .ok (byte :: bytes) => some (s.pushFrame (byte :: bytes))
        | .error (.error _) => some (s.release 1)
        | .error .lengthError => none
    else some (s.release 1)

def runWritten (result : Option SocketError) : SessionState :=
  if !s.alive then s
  else
    match result with
    | some .aborted => s
    | some (.failed message) => s.handleError ("send error: " ++ message)
    | none => { s.release 1 with sendQueue := s.sendQueue.tail }.doAsyncWrite

/-- The completion handler of `async_read_some`, up to its loop. -/
def runReceived (result : Except SocketError (List UInt8)) : SessionState :=
  let s := if 0 < config.readIdleTimeoutMs then { s with deadline := false } else s
  match result with
  | .error .aborted => s
  | .error (.failed message) => s.handleError ("receive error: " ++ message)
  | .ok data =>
    match s.decoder with
    | .pipeline pipeline =>
      let fed := pipeline.feed lib (.bytes data)
      let s := { s with decoder := .pipeline fed.2 }
      if fed.2.error ≠ "" then s.handleError ("protocol decode error: " ++ fed.2.error)
      else { s with handler := some (.results fed.1) }
    | .frames decoder =>
      let fed := decoder.feed data
      let s := { s with decoder := .frames fed.2 }
      if fed.2.error ≠ "" then s.handleError ("frame decode error: " ++ fed.2.error)
      else { s with handler := some (.frames fed.1) }

def runTask : StrandTask → Option SessionState
  | .deliver outbound => s.runDeliver lib outbound
  | .clear => some { s.release s.sendQueue.length with sendQueue := [], sendInProgress := false }
  | .written _ result => some (s.runWritten result)
  | .received result => some (s.runReceived lib config result)
  | .idle => some (if s.alive then s.handleError "read idle timeout" else s)

/-- One round of the loop over the results of a read. -/
def runLoop : Pending → Option SessionState
  | .results [] | .frames [] => some (doReceive config { s with handler := none })
  | .frames (frame :: left) =>
    some { s with
      handler := some (.frames left)
      callbacks := s.callbacks ++ [.message frame.payload] }
  | .results (result :: left) =>
    match s.decoder with
    | .frames _ => none
    | .pipeline pipeline =>
      if !result.ok then
        some ({ s with handler := none }.handleError ("protocol dispatch error: " ++ result.error))
      else if result.shouldDrop then some { s with handler := some (.results left) }
      else
        let prepared := TcpSession.prepare lib pipeline result
        if !prepared.1 then
          some ({ s with handler := none }.handleError
            ("protocol decode error: " ++ prepared.2.error))
        else
          some { s with
            handler := some (.results left)
            callbacks := s.callbacks ++ [.packet prepared.2] }

/-- The rest of `close`, one part at a time. -/
def runClosing : ClosePhase → SessionState
  | .shut reason =>
    { s with socketOpen := false, deadline := false, closing := some (.post reason) }
  | .post reason =>
    { s with strand := s.strand ++ [.clear], closing := some (.notify reason) }
  | .notify reason =>
    { s with closing := none, callbacks := s.callbacks ++ [.disconnect reason] }

/-- The end of a caller's part: the reservation is rolled back, or the task is posted. -/
def resolve (caller : Nat) (outbound : Outbound) (found : Int) : SessionState :=
  let s := { s with reserved := s.reserved.eraseIdx caller }
  if 0 < config.maxSendQueue ∧ (config.maxSendQueue : Int) ≤ found then s.release 1
  else { s with strand := s.strand ++ [.deliver outbound] }

def step : SessionLabel → Option SessionState
  | .start =>
    if s.started then none
    else
      some (doReceive config
        { s with started := true, callbacks := s.callbacks ++ [.connect] })
  | .send data =>
    if h : s.alive = true ∧ data ≠ [] then
      some { s with checked := s.checked ++ [.data data h.2] }
    else some s
  | .sendMessage body =>
    match s.alive, s.decoder with
    | true, .pipeline _ => some { s with checked := s.checked ++ [.message body] }
    | _, _ => some s
  | .reserve caller =>
    (s.checked[caller]?).map fun outbound =>
      { s with
        checked := s.checked.eraseIdx caller
        reserved := s.reserved ++ [(outbound, s.queuedCount)]
        queuedCount := s.queuedCount + 1 }
  | .resolve caller =>
    (s.reserved[caller]?).map fun held => s.resolve config caller held.1 held.2
  | .task =>
    match s.handler, s.strand with
    | none, task :: rest => { s with strand := rest }.runTask lib config task
    | _, _ => none
  | .loop => s.handler.bind fun pending => s.runLoop lib config pending
  | .finishWrite write result =>
    (s.writes[write]?).map fun frame =>
      { s with
        writes := s.writes.eraseIdx write
        strand := s.strand ++ [.written frame result]
        completed := if result = none then s.completed ++ [frame] else s.completed }
  | .finishRead result =>
    if s.reading ∧ s.canRead result then
      some { s with reading := false, strand := s.strand ++ [.received result] }
    else none
  | .expire =>
    if s.deadline then some { s with deadline := false, strand := s.strand ++ [.idle] } else none
  | .close reason => some (s.beginClose reason)
  | .closing => s.closing.map fun phase => s.runClosing phase

end SessionState

abbrev SessionId := Nat

/-- A session object: `id()` and `remote_addr().ip`. -/
structure Peer where
  id : SessionId
  ip : String
  deriving DecidableEq, Repr

/-- The limits; zero is no limit. -/
structure ListenerConfig where
  maxConnections : Nat := 0
  maxPerIp : Nat := 0
  deriving DecidableEq, Repr

/-- How far the accept has come. There is one at a time. -/
inductive AcceptPhase where
  | idle
  | waiting
  | accepted (ip : String)
  | underLimit (ip : String)
  | admitted (ip : String)
  | created (session : Peer)
  | stored (session : Peer)
  deriving DecidableEq, Repr

/-- A listener with the sessions that it has accepted. -/
structure TcpListener where
  sessions : AList (fun _ : SessionId => String) := ∅
  ipCounts : String → Option Nat := fun _ => none
  nextSessionId : SessionId := 1
  lastRejection : String := ""
  listening : Bool := true
  accept : AcceptPhase := .idle
  -- the sessions that were stored and whose `alive_` is still set
  alive : List Peer := []
  -- the sessions whose `close` has still to run `on_session_close`
  closing : List Peer := []
  -- the sessions that `stop` and `kick_session` took out and have still to close
  taken : List Peer := []
  -- the calls of `stop` that have closed the acceptor and not yet cleared the maps
  stops : Nat := 0

inductive ListenerLabel where
  | start
  | accept (ip : String)
  | acceptError
  | checkConnections
  | endpointGone
  | checkIp
  | create
  | createFails
  | store
  | startSession
  | close (session : Peer)
  | onSessionClose (session : Peer)
  | kickSession (id : SessionId)
  | stop
  | stopClear
  | closeTaken (session : Peer)
  | otherListener
  deriving DecidableEq, Repr

namespace TcpListener

variable (config : ListenerConfig) (s : TcpListener)

/-- The decrement of an address in `remove_session_locked`. -/
def releaseIp (ipCounts : String → Option Nat) (ip : String) : String → Option Nat :=
  match ipCounts ip with
  | some n =>
    if 1 < n then Function.update ipCounts ip (some (n - 1)) else Function.update ipCounts ip none
  | none => ipCounts

def removeSessionLocked (session : Peer) : TcpListener :=
  if session.id ∈ s.sessions then
    { s with
      ipCounts := releaseIp s.ipCounts session.ip
      sessions := s.sessions.erase session.id }
  else s

/-- The exchange of `alive_` in `close`: only one call gets past it. -/
def closeSession (session : Peer) : TcpListener :=
  if session ∈ s.alive then
    { s with alive := s.alive.erase session, closing := session :: s.closing }
  else s

/-- The first section of the accept handler. -/
def checkConnections (ip : String) : TcpListener :=
  if 0 < config.maxConnections ∧ config.maxConnections ≤ s.sessions.entries.length then
    { s with lastRejection := "connection_limit", accept := .waiting }
  else { s with accept := .underLimit ip }

/-- The second section. -/
def checkIp (ip : String) : TcpListener :=
  if 0 < config.maxPerIp ∧ (s.ipCounts ip).any (config.maxPerIp ≤ ·) then
    { s with lastRejection := "ip_limit", accept := .waiting }
  else { s with accept := .admitted ip }

/-- The third section. -/
def store (session : Peer) : TcpListener :=
  { s with
    sessions := s.sessions.insert session.id session.ip
    ipCounts := Function.update s.ipCounts session.ip (some ((s.ipCounts session.ip).getD 0 + 1))
    alive := session :: s.alive
    accept := .stored session }

def kickSession (id : SessionId) : TcpListener :=
  match s.sessions.lookup id with
  | none => s
  | some ip => { s.removeSessionLocked ⟨id, ip⟩ with taken := ⟨id, ip⟩ :: s.taken }

def registered : List Peer := s.sessions.entries.map fun e => ⟨e.1, e.2⟩

def stopClear : TcpListener :=
  { s with
    sessions := ∅
    ipCounts := fun _ => none
    taken := s.taken ++ s.registered
    stops := s.stops - 1 }

def step : ListenerLabel → Option TcpListener
  | .start =>
    if s.accept = .idle ∧ s.listening then some { s with accept := .waiting } else none
  | .accept ip =>
    if s.accept = .waiting ∧ s.listening then some { s with accept := .accepted ip } else none
  | .acceptError => if s.accept = .waiting then some { s with accept := .idle } else none
  | .checkConnections =>
    match s.accept with
    | .accepted ip => some (s.checkConnections config ip)
    | _ => none
  | .endpointGone =>
    -- `remote_endpoint` throws through the handler, and no other accept is started
    match s.accept with
    | .underLimit _ => some { s with accept := .idle }
    | _ => none
  | .checkIp =>
    match s.accept with
    | .underLimit ip => some (s.checkIp config ip)
    | _ => none
  | .create =>
    match s.accept with
    | .admitted ip =>
      some { s with
        nextSessionId := s.nextSessionId + 1
        accept := .created ⟨s.nextSessionId, ip⟩ }
    | _ => none
  | .createFails =>
    -- the constructor of the session throws, with its id already taken
    match s.accept with
    | .admitted _ => some { s with nextSessionId := s.nextSessionId + 1, accept := .idle }
    | _ => none
  | .store =>
    match s.accept with
    | .created session => some (s.store session)
    | _ => none
  | .startSession =>
    match s.accept with
    | .stored _ => some { s with accept := .waiting }
    | _ => none
  | .close session => some (s.closeSession session)
  | .onSessionClose session =>
    if session ∈ s.closing then
      some ({ s with closing := s.closing.erase session }.removeSessionLocked session)
    else none
  | .kickSession id => some (s.kickSession id)
  | .stop => some { s with listening := false, stops := s.stops + 1 }
  | .stopClear => if 0 < s.stops then some s.stopClear else none
  | .closeTaken session =>
    if session ∈ s.taken then
      some ({ s with taken := s.taken.erase session }.closeSession session)
    else none
  | .otherListener => some { s with nextSessionId := s.nextSessionId + 1 }

end TcpListener

end ShieldRuntime.Net
