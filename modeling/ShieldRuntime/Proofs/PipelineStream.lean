import ShieldRuntime.Net.SessionStep
import ShieldRuntime.Proofs.EnvelopeStream

/-!
# Segmentation and routing of the received stream

`ProtocolPipeline::feed` answers a read that ends in a framing error with the error alone, so the
frames completed by that read are lost. `resolve_route` looks up the route id of the header whatever
the routing source is.
-/

namespace ShieldRuntime.Proofs
open Library Transport Net

section

/-- The frames of a stream up to its first error. -/
def streamFrames (env : Envelope) (stream : List UInt8) : List Packet :=
  if env.widthError = none then (decode env.look stream).1 else []

def StreamMalformed (env : Envelope) (stream : List UInt8) : Prop :=
  env.widthError ≠ none ∨ malformed env.look stream

/-- A read that brings a framing error completes no frame. -/
def ErrorsArriveAlone (env : Envelope) (reads : List (List UInt8)) : Prop :=
  ∀ pre chunk post, reads = pre ++ chunk :: post → ¬StreamMalformed env pre.flatten →
    StreamMalformed env (pre.flatten ++ chunk) →
    streamFrames env (pre.flatten ++ chunk) = streamFrames env pre.flatten

def carriesPacket (result : DispatchResult) : Bool := result.packet.rawFrame ≠ []

def handedOut (lib : JsonLibrary) (pipeline : ProtocolPipeline) (reads : List (List UInt8)) :
    List DispatchResult :=
  (pipeline.feedChunks lib reads).filter carriesPacket

variable (lib : JsonLibrary) (pipeline : ProtocolPipeline)

lemma routeOfKey_cases (packet : Packet) (key : BodyRouteKey) :
    (∃ id, pipeline.routeOfKey packet key =
        ({ packet with routeId := id }, pipeline.routes.find id)) ∨
      pipeline.routeOfKey packet key = (packet, none) := by
  unfold ProtocolPipeline.routeOfKey
  split
  · exact .inl ⟨_, rfl⟩
  split
  · rename_i route hname
    split at hname
    · refine .inl ⟨route.routeId, ?_⟩
      rw [RouteTable.find_of_findByName hname]
    · cases hname
  · exact .inr rfl

lemma routeOfKey_route (p q : Packet) (key : BodyRouteKey) :
    (pipeline.routeOfKey p key).2 = (pipeline.routeOfKey q key).2 := by
  unfold ProtocolPipeline.routeOfKey
  split
  · rfl
  · split <;> rfl

lemma resolveRoute_cases (packet : Packet) :
    (∃ id, pipeline.resolveRoute lib packet =
        ({ packet with routeId := id }, pipeline.routes.find id, "")) ∨
      ∃ error, pipeline.resolveRoute lib packet = (packet, none, error) := by
  unfold ProtocolPipeline.resolveRoute
  split
  · rename_i route hroute
    split at hroute
    · exact .inl ⟨packet.routeId, by rw [hroute]⟩
    · cases hroute
  · split
    · exact .inr ⟨_, rfl⟩
    split
    · exact .inr ⟨_, rfl⟩
    split
    · exact .inr ⟨_, rfl⟩
    split
    · exact .inr ⟨_, rfl⟩
    rename_i key _ _
    rcases routeOfKey_cases pipeline packet key with ⟨id, hkey⟩ | hkey
    · exact .inl ⟨id, by simp only [hkey]⟩
    · exact .inr ⟨"", by simp only [hkey]⟩

lemma resolveRoute_rawFrame (packet : Packet) :
    (pipeline.resolveRoute lib packet).1.rawFrame = packet.rawFrame := by
  rcases resolveRoute_cases lib pipeline packet with ⟨id, heq⟩ | ⟨error, heq⟩ <;> rw [heq]

lemma decodeFor_route (result : DispatchResult) (route : RouteEntry) :
    (pipeline.decodeFor lib result route).route = result.route := by
  unfold ProtocolPipeline.decodeFor
  split
  · rfl
  · split <;> rfl

lemma decodeFor_packet (result : DispatchResult) (route : RouteEntry) :
    (pipeline.decodeFor lib result route).packet = result.packet := by
  unfold ProtocolPipeline.decodeFor
  split
  · rfl
  · split <;> rfl

lemma dispatch_rawFrame (packet : Packet) :
    (pipeline.dispatch lib packet).packet.rawFrame = packet.rawFrame := by
  rw [← resolveRoute_rawFrame lib pipeline packet]
  simp only [ProtocolPipeline.dispatch]
  split
  · rfl
  split
  · rfl
  split
  · rw [decodeFor_packet]
  · rfl

lemma filter_dispatch_frames (h : pipeline.envelope.widthError = none) (buffer : List UInt8) :
    ((decode pipeline.envelope.look buffer).1.map (pipeline.dispatch lib)).filter carriesPacket =
      (decode pipeline.envelope.look buffer).1.map (pipeline.dispatch lib) := by
  have hl := envelope_incremental pipeline.envelope h
  have hraw : ∀ p ∈ (decode pipeline.envelope.look buffer).1, p.rawFrame ≠ [] := by
    refine decode_forall hl ?_ buffer
    intro seen p n hemit
    have hpos := hl.emit_pos hemit
    have hle := hl.emit_le hemit
    have hraw := envelope_faithful pipeline.envelope seen
    rw [hemit] at hraw
    rw [hraw, Ne, ← List.length_eq_zero_iff, List.length_take]
    omega
  rw [List.filter_eq_self]
  intro result hresult
  obtain ⟨p, hp, rfl⟩ := List.mem_map.mp hresult
  simpa [carriesPacket, dispatch_rawFrame] using hraw p hp

variable {chunk : List UInt8} {packets : List Packet} {message : String}

lemma feed_pipeline_ok (h : pipeline.envelope.widthError = none) {rest : List UInt8}
    (hd : decode pipeline.envelope.look (pipeline.envelope.buffer ++ chunk) = (packets, .ok rest)) :
    pipeline.feed lib (.bytes chunk) = (packets.map (pipeline.dispatch lib),
      { pipeline with
        envelope := { pipeline.envelope with buffer := rest, error := "" }, error := "" }) := by
  simp [ProtocolPipeline.feed, feed_bytes _ h, hd, settleEnvelope, Envelope.hasError]

lemma feed_pipeline_error (h : pipeline.envelope.widthError = none) {e : String}
    (hd : decode pipeline.envelope.look (pipeline.envelope.buffer ++ chunk) = (packets, .error e)) :
    (pipeline.feed lib (.bytes chunk)).1 = [{ error := e }] ∧
      (pipeline.feed lib (.bytes chunk)).2.error = e ∧ e ≠ "" := by
  obtain ⟨seen, hs⟩ := decode_error_of_look (envelope_incremental _ h) _ (e := e) (by rw [hd])
  have hne := envelope_fail_ne _ hs
  simp [ProtocolPipeline.feed, feed_bytes _ h, hd, settleEnvelope, Envelope.hasError, hne]

lemma feed_pipeline_invalid (h : pipeline.envelope.widthError = some message) (hne : message ≠ "")
    (chunk : List UInt8) : (pipeline.feed lib (.bytes chunk)).1 = [{ error := message }] ∧
      (pipeline.feed lib (.bytes chunk)).2.error = message := by
  simp [ProtocolPipeline.feed, Envelope.feed, h, Envelope.hasError, hne]

lemma widthError_ne (env : Envelope) (h : env.widthError = some message) : message ≠ "" := by
  unfold Envelope.widthError at h
  cases hk : env.kind <;> simp only [hk, reduceCtorEq] at h
  all_goals
    split at h
    · cases h
    · cases h
      decide

lemma handedOut_eq (h : pipeline.envelope.widthError = none) (reads : List (List UInt8)) :
    handedOut lib pipeline reads =
      (decodeBeforeError pipeline.envelope.look pipeline.envelope.buffer reads).map
        (pipeline.dispatch lib) := by
  induction reads generalizing pipeline with
  | nil => rfl
  | cons chunk reads ih =>
    unfold handedOut at ih ⊢
    rw [ProtocolPipeline.feedChunks, decodeBeforeError]
    cases hd : decode pipeline.envelope.look (pipeline.envelope.buffer ++ chunk) with
    | mk packets result =>
      cases result with
      | error =>
        obtain ⟨hres, herr, hne⟩ := feed_pipeline_error lib pipeline h hd
        simp [hres, herr, hne, carriesPacket]
      | ok rest =>
        have hkeep := filter_dispatch_frames lib pipeline h (pipeline.envelope.buffer ++ chunk)
        rw [hd] at hkeep
        rw [feed_pipeline_ok lib pipeline h hd]
        simp only [ne_eq, not_true_eq_false, ite_false, List.filter_append, hkeep, List.map_append]
        -- The next pipeline differs in its buffer only, which `dispatch` does not read.
        exact congrArg (_ ++ ·) (ih { pipeline with
          envelope := { pipeline.envelope with buffer := rest, error := "" }, error := "" } h)

lemma handedOut_invalid (h : pipeline.envelope.widthError ≠ none) (reads : List (List UInt8)) :
    handedOut lib pipeline reads = [] := by
  obtain ⟨message, hm⟩ := Option.ne_none_iff_exists'.mp h
  have hne := widthError_ne _ hm
  cases reads with
  | nil => rfl
  | cons chunk =>
    obtain ⟨hres, herr⟩ := feed_pipeline_invalid lib pipeline hm hne chunk
    simp [handedOut, ProtocolPipeline.feedChunks, hres, herr, hne, carriesPacket]

lemma handedOut_eq_frames_iff (hbuffer : pipeline.envelope.buffer = [])
    (reads : List (List UInt8)) :
    handedOut lib pipeline reads =
        (streamFrames pipeline.envelope reads.flatten).map (pipeline.dispatch lib) ↔
      ErrorsArriveAlone pipeline.envelope reads := by
  by_cases hw : pipeline.envelope.widthError = none
  · have hl := envelope_incremental pipeline.envelope hw
    have hnil := envelope_look_nil pipeline.envelope hw
    have hiff := decodeBeforeError_eq_iff hl [] hnil reads
    simp only [List.nil_append] at hiff
    have hlost := decodeBeforeError_append hl [] reads
    simp only [List.nil_append] at hlost
    obtain ⟨lost, hlost⟩ := hlost
    rw [handedOut_eq lib pipeline hw, hbuffer]
    simp only [streamFrames, ErrorsArriveAlone, StreamMalformed, hw, ne_eq, not_true_eq_false,
      false_or, ite_true]
    rw [← hiff]
    constructor
    · intro hmap
      have hlen := congrArg List.length hmap
      rw [List.length_map, List.length_map, hlost, List.length_append] at hlen
      have hnone : lost = [] := List.length_eq_zero_iff.mp (by omega)
      rw [hlost, hnone, List.append_nil]
    · intro heq
      rw [heq]
  · rw [handedOut_invalid lib pipeline hw]
    simp [streamFrames, hw, ErrorsArriveAlone, StreamMalformed]

lemma deliver_append (xs ys : List DispatchResult) :
    TcpSession.deliver lib pipeline (xs ++ ys) =
      if (TcpSession.deliver lib pipeline xs).2 then
        ((TcpSession.deliver lib pipeline xs).1 ++ (TcpSession.deliver lib pipeline ys).1,
          (TcpSession.deliver lib pipeline ys).2)
      else TcpSession.deliver lib pipeline xs := by
  induction xs with
  | nil => simp [TcpSession.deliver]
  | cons x xs ih =>
    rw [List.cons_append, TcpSession.deliver, TcpSession.deliver]
    by_cases hok : x.ok = true
    swap
    · simp [hok]
    by_cases hdrop : x.shouldDrop = true
    · simpa [hok, hdrop] using ih
    by_cases hready : (TcpSession.prepare lib pipeline x).1 = true
    swap
    · simp [hok, hdrop, hready]
    by_cases hrest : (TcpSession.deliver lib pipeline xs).2 = true
    · simp [hok, hdrop, hready, hrest, ih]
    · simp [hok, hdrop, hready, hrest, ih]

lemma feed_cases (chunk : List UInt8) :
    ((pipeline.feed lib (.bytes chunk)).1.filter carriesPacket = [] ∧
      (pipeline.feed lib (.bytes chunk)).2.error ≠ "") ∨
    ((pipeline.feed lib (.bytes chunk)).1.filter carriesPacket =
        (pipeline.feed lib (.bytes chunk)).1 ∧
      ∃ envelope, (pipeline.feed lib (.bytes chunk)).2 = { pipeline with envelope, error := "" }) := by
  cases hw : pipeline.envelope.widthError with
  | some =>
    have hne := widthError_ne _ hw
    obtain ⟨hres, herr⟩ := feed_pipeline_invalid lib pipeline hw hne chunk
    exact .inl ⟨by simp [hres, carriesPacket], by rwa [herr]⟩
  | none =>
    cases hd : decode pipeline.envelope.look (pipeline.envelope.buffer ++ chunk) with
    | mk packets result =>
      cases result with
      | error =>
        obtain ⟨hres, herr, hne⟩ := feed_pipeline_error lib pipeline hw hd
        exact .inl ⟨by simp [hres, carriesPacket], by rwa [herr]⟩
      | ok =>
        have hkeep := filter_dispatch_frames lib pipeline hw (pipeline.envelope.buffer ++ chunk)
        rw [hd] at hkeep
        rw [feed_pipeline_ok lib pipeline hw hd]
        exact .inr ⟨hkeep, _, rfl⟩

lemma received_closed (reads : List (List UInt8)) :
    TcpSession.received lib { pipeline, alive := false } reads = [] := by
  induction reads with
  | nil => rfl
  | cons data reads ih => simpa [TcpSession.received, TcpSession.onRead] using ih

lemma received_eq_deliver (reads : List (List UInt8)) :
    TcpSession.received lib { pipeline } reads =
      (TcpSession.deliver lib pipeline (handedOut lib pipeline reads)).1 := by
  induction reads generalizing pipeline with
  | nil => rfl
  | cons data reads ih =>
    unfold handedOut at ih ⊢
    rw [TcpSession.received, TcpSession.onRead, ProtocolPipeline.feedChunks]
    rcases feed_cases lib pipeline data with ⟨hres, herr⟩ | ⟨hres, envelope, hnext⟩
    · simp [herr, hres, received_closed, TcpSession.deliver]
    have hi := ih { pipeline with envelope, error := "" }
    -- `deliver` reads the codecs of the pipeline, which no read changes.
    have hsame : ∀ results, TcpSession.deliver lib { pipeline with envelope, error := "" } results =
        TcpSession.deliver lib pipeline results := by
      intro results
      induction results with
      | nil => rfl
      | cons result results ihr =>
        rw [TcpSession.deliver, TcpSession.deliver, ihr]
        rfl
    simp only [hnext, hres, ne_eq, not_true_eq_false, ite_false, List.filter_append,
      deliver_append, hsame, Bool.not_true, Bool.false_eq_true]
    by_cases hrest :
        (TcpSession.deliver lib pipeline (pipeline.feed lib (.bytes data)).1).2 = true
    · simp [hrest, hi, hsame]
    · simp [hrest, received_closed]

/-- For every segmentation of every stream, the results before the first framing error are those
of all complete frames exactly when the error arrives in a read that completes no frame. Two such
segmentations of one stream hand out the same results, and their sessions deliver the same. -/
theorem pipeline_segmentation (lib : JsonLibrary) (profile : ProtocolProfile) (routes : RouteTable)
    (codecs : AList (fun _ : UInt16 => BodyCodec)) :
    let pipeline := ProtocolPipeline.create profile routes codecs
    (∀ reads, handedOut lib pipeline reads =
        (streamFrames pipeline.envelope reads.flatten).map (pipeline.dispatch lib) ↔
      ErrorsArriveAlone pipeline.envelope reads) ∧
    ∀ reads reads', reads.flatten = reads'.flatten →
      ErrorsArriveAlone pipeline.envelope reads → ErrorsArriveAlone pipeline.envelope reads' →
      handedOut lib pipeline reads = handedOut lib pipeline reads' ∧
        TcpSession.received lib { pipeline } reads = TcpSession.received lib { pipeline } reads' := by
  intro pipeline
  have hiff := handedOut_eq_frames_iff lib pipeline rfl
  refine ⟨hiff, ?_⟩
  intro reads reads' hflat hreads hreads'
  have heq : handedOut lib pipeline reads = handedOut lib pipeline reads' := by
    rw [(hiff reads).mpr hreads, (hiff reads').mpr hreads', hflat]
  exact ⟨heq, by rw [received_eq_deliver, received_eq_deliver, heq]⟩

def smallFramePipeline : ProtocolPipeline :=
  .create
    { envelope := { lengthBytes := 1, maxFrameSize := 1 }, unknownRouteAction := .forwardRaw }
    {} ((∅ : AList fun _ : UInt16 => BodyCodec).insert 0 .raw)

def unusedLibrary : JsonLibrary where
  parse _ := .error "parse error"
  dump _ := .error "type error"

/-- A frame followed by an oversized length: in one read the frame is lost, in two it is handed
out and delivered. -/
theorem pipeline_drops_frame_before_error :
    (handedOut unusedLibrary smallFramePipeline [[1, 0xAA, 5]]).map (·.packet) = [] ∧
      TcpSession.received unusedLibrary { pipeline := smallFramePipeline } [[1, 0xAA, 5]] = [] ∧
      (handedOut unusedLibrary smallFramePipeline [[1, 0xAA], [5]]).map (·.packet) =
        [{ body := [0xAA], rawFrame := [1, 0xAA] }] ∧
      (TcpSession.received unusedLibrary { pipeline := smallFramePipeline } [[1, 0xAA], [5]]).map
        (·.packet) = [{ body := [0xAA], rawFrame := [1, 0xAA] }] :=
  ⟨rfl, rfl, rfl, rfl⟩

end

variable (lib : JsonLibrary) (pipeline : ProtocolPipeline)

def headerRoute (packet : Packet) : Option RouteEntry :=
  if packet.routeId ≠ 0 then pipeline.routes.find packet.routeId else none

/-- The route of a packet with this body and without a route id. -/
def bodyRoute (body : List UInt8) : Option RouteEntry := (pipeline.resolveRoute lib { body }).2.1

lemma resolveRoute_route (packet : Packet) :
    (pipeline.resolveRoute lib packet).2.1 =
      (headerRoute pipeline packet).or (bodyRoute lib pipeline packet.body) := by
  have hkey : ∀ codec : BodyCodec,
      codec.routeKey lib packet = codec.routeKey lib { body := packet.body } := by
    intro codec
    cases codec <;> rfl
  rw [bodyRoute, ProtocolPipeline.resolveRoute, ← headerRoute]
  cases headerRoute pipeline packet with
  | some => rfl
  | none =>
    rw [Option.none_or, ProtocolPipeline.resolveRoute]
    simp only [hkey, ne_eq, not_true_eq_false, if_false]
    repeat' split
    all_goals first | rfl | exact routeOfKey_route ..

/-- The routing source of the profile is the only one, for two packets. -/
def FollowsSource (p q : Packet) : Prop :=
  match pipeline.profile.routeSource with
  | .header =>
    p.routeId = q.routeId → (pipeline.resolveRoute lib p).2.1 = (pipeline.resolveRoute lib q).2.1
  | .none => (pipeline.resolveRoute lib p).2.1 = none ∧ (pipeline.resolveRoute lib q).2.1 = none
  | .body => p.body = q.body → (pipeline.resolveRoute lib p).2.1 = (pipeline.resolveRoute lib q).2.1

/-- The headers of two packets name no route, or none that the source does not lead to. -/
def HeadersFollow (p q : Packet) : Prop :=
  match pipeline.profile.routeSource with
  | .header => True
  | .none => headerRoute pipeline p = none ∧ headerRoute pipeline q = none
  | .body => p.body = q.body → headerRoute pipeline p = headerRoute pipeline q ∨
      (headerRoute pipeline p = none ∧ headerRoute pipeline q = bodyRoute lib pipeline p.body) ∨
      headerRoute pipeline q = none ∧ headerRoute pipeline p = bodyRoute lib pipeline p.body

/-- Routes come from the configured source alone exactly where the headers name none besides. -/
theorem route_source_only_iff (p q : Packet) :
    FollowsSource lib pipeline p q ↔ HeadersFollow lib pipeline p q := by
  have hother : pipeline.profile.routeSource ≠ .body → ∀ body, bodyRoute lib pipeline body = none := by
    intro hsource body
    simp [bodyRoute, ProtocolPipeline.resolveRoute, hsource]
  unfold FollowsSource HeadersFollow
  simp only [resolveRoute_route]
  cases hsource : pipeline.profile.routeSource with
  | header =>
    refine iff_of_true (fun hid => ?_) trivial
    rw [hother (by simp [hsource]), hother (by simp [hsource]), headerRoute, hid, headerRoute]
  | none => simp [hother (by simp [hsource])]
  | body =>
    refine forall_congr' fun hbody => ?_
    rw [← hbody]
    cases headerRoute pipeline p with
    | none => cases headerRoute pipeline q <;> simp [eq_comm]
    | some => cases headerRoute pipeline q <;> simp [eq_comm]

def pingRoutes : RouteTable := (({} : RouteTable).add { routeId := 1, debugName := "ping" }).2

def sourcePipeline (routeSource : RouteSource) : ProtocolPipeline :=
  .create { envelopeKind := .idLen, routeSource } pingRoutes
    ((∅ : AList fun _ : UInt16 => BodyCodec).insert 0 .raw)

/-- The packets that a session gets from the reads of a stream. -/
def packetsRead (env : Envelope) : List (List UInt8) → List Packet
  | [] => []
  | chunk :: chunks =>
    let (packets, next) := env.feed (.bytes chunk)
    if next.hasError then [] else packets ++ packetsRead next chunks

/-- Two frames of an `id_len` stream with one body: their headers decide under the sources `body` and
`none`. -/
theorem header_overrides_source :
    ∃ p q : Packet, (∀ source, packetsRead (sourcePipeline source).envelope
        [[0, 1, 0, 0, 0, 2, 0, 0]] = [p, q]) ∧
      ¬FollowsSource unusedLibrary (sourcePipeline .body) p q ∧
      ¬FollowsSource unusedLibrary (sourcePipeline .none) p q := by
  refine ⟨{ routeId := 1, rawFrame := [0, 1, 0, 0] }, { routeId := 2, rawFrame := [0, 2, 0, 0] },
    fun _ => rfl, ?_, ?_⟩
  · intro h
    cases h rfl
  · intro h
    cases h.1

/-- The same pipeline with `decode_before_dispatch` set. -/
def decodingBefore (early : Bool) : ProtocolPipeline :=
  { pipeline with profile := { pipeline.profile with decodeBeforeDispatch := early } }

/-- `materialize_decode` for a result without an error. -/
def completed (result : DispatchResult) : DispatchResult :=
  if result.ok then (pipeline.materializeDecode lib result).2 else result

lemma completed_decodeFor (result : DispatchResult) (route : RouteEntry) :
    completed lib pipeline (pipeline.decodeFor lib result route) =
      pipeline.decodeFor lib result route := by
  unfold ProtocolPipeline.decodeFor
  split
  · simp [completed, DispatchResult.ok]
  split
  · simp [completed, ProtocolPipeline.materializeDecode, DispatchResult.decoded, apply_ite]
  · simp [completed, DispatchResult.ok]

lemma completed_dispatch_iff (packet : Packet) :
    completed lib (decodingBefore pipeline false)
        ((decodingBefore pipeline false).dispatch lib packet) =
      (decodingBefore pipeline true).dispatch lib packet ↔
    (pipeline.profile.unknownRouteAction = .decodeLocal →
      (pipeline.resolveRoute lib packet).2 ≠ (none, "")) := by
  have hresolve : ∀ early, (decodingBefore pipeline early).resolveRoute lib packet =
      pipeline.resolveRoute lib packet := fun _ => rfl
  simp only [ProtocolPipeline.dispatch, hresolve]
  obtain ⟨packet', route, error⟩ := pipeline.resolveRoute lib packet
  by_cases herror : error = ""
  swap
  · simp [DispatchResult.ok, herror, completed]
  subst herror
  cases route with
  | none =>
    simp only [DispatchResult.ok, DispatchResult.decoded, completed, decodingBefore,
      ProtocolPipeline.materializeDecode]
    by_cases haction : pipeline.profile.unknownRouteAction = .decodeLocal <;> simp [haction]
  | some entry =>
    refine iff_of_true ?_ (by simp)
    by_cases haction : entry.policy.action = .decodeLocal
    swap
    · simp [DispatchResult.ok, completed, haction, ProtocolPipeline.materializeDecode]
    cases hlazy : entry.policy.lazyDecode with
    | false =>
      simp only [DispatchResult.ok, haction, hlazy, beq_self_eq_true, Bool.not_true,
        Bool.false_eq_true, Bool.not_false, or_true, and_self, if_true, if_false]
      exact completed_decodeFor ..
    | true =>
      simp [DispatchResult.ok, DispatchResult.decoded, completed, haction, hlazy, decodingBefore,
        ProtocolPipeline.materializeDecode]
      rfl

/-- Both kinds of decoding hand out the results of the packets and then the same errors. -/
lemma feedChunks_eq (chunks : List (List UInt8)) :
    ∃ errors : List DispatchResult, (∀ result ∈ errors, result.ok = false) ∧
      ∀ early, (decodingBefore pipeline early).feedChunks lib chunks =
        (packetsRead pipeline.envelope chunks).map ((decodingBefore pipeline early).dispatch lib) ++
          errors := by
  induction chunks generalizing pipeline with
  | nil => exact ⟨[], by simp, fun _ => rfl⟩
  | cons chunk chunks ih =>
    have henvelope : ∀ early, (decodingBefore pipeline early).envelope = pipeline.envelope :=
      fun _ => rfl
    simp only [packetsRead, ProtocolPipeline.feedChunks, ProtocolPipeline.feed, henvelope]
    obtain ⟨packets, next⟩ := pipeline.envelope.feed (.bytes chunk)
    by_cases herror : next.error = ""
    · obtain ⟨errors, hbad, heq⟩ := ih { pipeline with envelope := next, error := "" }
      refine ⟨errors, hbad, fun early => ?_⟩
      simp only [Envelope.hasError, herror, bne_self_eq_false, Bool.false_eq_true, if_false, ne_eq,
        not_true_eq_false, List.map_append, List.append_assoc]
      exact congrArg (_ ++ ·) (heq early)
    · exact ⟨[{ error := next.error }], by simp [DispatchResult.ok, herror],
        by simp [Envelope.hasError, herror]⟩

/-- Lazy decoding that is made up for agrees with early decoding, for every stream and every cut of
it, exactly if the profile does not decode packets without a route or there is none. -/
theorem lazy_decode_agrees_iff (chunks : List (List UInt8)) :
    ((decodingBefore pipeline false).feedChunks lib chunks).map
        (completed lib (decodingBefore pipeline false)) =
      (decodingBefore pipeline true).feedChunks lib chunks ↔
    (pipeline.profile.unknownRouteAction = .decodeLocal →
      ∀ packet ∈ packetsRead pipeline.envelope chunks,
        (pipeline.resolveRoute lib packet).2 ≠ (none, "")) := by
  obtain ⟨errors, hbad, heq⟩ := feedChunks_eq lib pipeline chunks
  have herrors : errors.map (completed lib (decodingBefore pipeline false)) = errors := by
    conv_rhs => rw [← List.map_id errors]
    refine List.map_congr_left fun result hresult => ?_
    simp [completed, hbad result hresult]
  rw [heq, heq, List.map_append, herrors, List.append_left_inj, List.map_map, List.map_inj_left]
  simp only [Function.comp_apply, completed_dispatch_iff]
  exact ⟨fun h haction packet hpacket => h packet hpacket haction,
    fun h packet hpacket haction => h haction packet hpacket⟩

def localPipeline : ProtocolPipeline :=
  .create { envelope := { lengthBytes := 1 }, unknownRouteAction := .decodeLocal } {}
    ((∅ : AList fun _ : UInt16 => BodyCodec).insert 0 .raw)

/-- A frame without a route: no error before the dispatch, one where it is made up for. -/
theorem lazy_decode_fails_unrouted :
    ((decodingBefore localPipeline true).feedChunks unusedLibrary [[1, 0xAA]]).map (·.error) = [""] ∧
      ((decodingBefore localPipeline false).feedChunks unusedLibrary [[1, 0xAA]]).map
          (fun r => (completed unusedLibrary (decodingBefore localPipeline false) r).error) =
        ["decode_local dispatch is missing route metadata"] :=
  ⟨rfl, rfl⟩

end ShieldRuntime.Proofs
