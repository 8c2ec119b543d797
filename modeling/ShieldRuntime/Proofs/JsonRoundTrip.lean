import ShieldRuntime.Proofs.PipelineStream

/-!
# End-to-end round trip of JSON messages

From the sender's choice of a route to the receiver's route lookup.
-/

namespace ShieldRuntime.Proofs
open Library Transport

variable {value message : Json} {bytes text : List UInt8} {pipeline : ProtocolPipeline}
  {packet : Packet} {lib : JsonLibrary} {codecs : AList (fun _ : UInt16 => BodyCodec)}
  {body sent : DecodedBody} {route : RouteEntry}

mutual

theorem normalize_normalize : ∀ value : Json, value.normalize.normalize = value.normalize
  | .integer i => by
    by_cases h : 0 ≤ i <;> simp [Json.normalize, h]
  | .array items => by simp only [Json.normalize, normalizeItems_normalizeItems items]
  | .object members => by simp only [Json.normalize, normalizeFields_normalizeFields members]
  | .null | .boolean _ | .unsigned _ | .float _ | .string _ => by simp only [Json.normalize]

theorem normalizeItems_normalizeItems : ∀ items : List Json,
    Json.normalizeItems (Json.normalizeItems items) = Json.normalizeItems items
  | [] => rfl
  | item :: items => by
    simp only [Json.normalizeItems, normalize_normalize item, normalizeItems_normalizeItems items]

theorem normalizeFields_normalizeFields : ∀ members : List (String × Json),
    Json.normalizeFields (Json.normalizeFields members) = Json.normalizeFields members
  | [] => rfl
  | (_, value) :: rest => by
    simp only [Json.normalizeFields, normalize_normalize value, normalizeFields_normalizeFields rest]

end

lemma lookup_normalizeFields (key : String) (members : List (String × Json)) :
    (Json.normalizeFields members).lookup key = (members.lookup key).map Json.normalize := by
  induction members with
  | nil => rfl
  | cons member rest ih =>
    obtain ⟨k, v⟩ := member
    simp only [Json.normalizeFields, List.lookup_cons]
    cases key == k with
    | true => rfl
    | false => exact ih

lemma fields_normalize (value : Json) :
    value.normalize.fields = Json.normalizeFields value.fields := by
  cases value with
  | integer i =>
    by_cases h : 0 ≤ i <;> simp [Json.normalize, Json.fields, Json.normalizeFields, h]
  | _ => simp [Json.normalize, Json.fields, Json.normalizeFields]

lemma field_normalize (value : Json) (key : String) :
    value.normalize.field? key = (value.field? key).map Json.normalize := by
  rw [Json.field?, fields_normalize, lookup_normalizeFields]
  rfl

lemma isObject_normalize (value : Json) : value.normalize.isObject = value.isObject := by
  cases value with
  | integer i => by_cases h : 0 ≤ i <;> simp [Json.normalize, Json.isObject, h]
  | _ => simp [Json.normalize, Json.isObject]

section Ordered

variable {key : String} {a b : Json}

lemma lookup_orderedInsert (key : String) (member : String × Json) (rest : List (String × Json)) :
    (rest.orderedInsert (fun a b => a.1 ≤ b.1) member).lookup key = (member :: rest).lookup key := by
  induction rest with
  | nil => rfl
  | cons next rest ih =>
    obtain ⟨k, v⟩ := member
    obtain ⟨k', v'⟩ := next
    by_cases hle : k ≤ k'
    · rw [List.orderedInsert, if_pos hle]
    · rw [List.orderedInsert, if_neg hle, List.lookup_cons, ih, List.lookup_cons, List.lookup_cons,
        List.lookup_cons]
      -- the member stands behind smaller keys only, so behind none of its own
      have hne : k ≠ k' := fun heq => hle (heq ▸ String.le_refl k)
      by_cases hkey : key = k
      · simp [hkey, beq_false_of_ne hne]
      · simp [beq_false_of_ne hkey]

lemma lookup_orderedFields (key : String) (members : List (String × Json)) :
    (Json.orderedFields members).lookup key = (members.lookup key).map Json.ordered := by
  induction members with
  | nil => rfl
  | cons member rest ih =>
    obtain ⟨k, v⟩ := member
    rw [Json.orderedFields, lookup_orderedInsert, List.lookup_cons, List.lookup_cons, ih]
    cases key == k <;> rfl

lemma field_ordered (value : Json) (key : String) :
    value.ordered.field? key = (value.field? key).map Json.ordered := by
  cases value with
  | object members => exact lookup_orderedFields key members
  | _ => rfl

lemma isObject_ordered (value : Json) : value.ordered.isObject = value.isObject := by
  cases value <;> rfl

lemma normalizeFields_orderedInsert (key : String) (value : Json) (rest : List (String × Json)) :
    Json.normalizeFields (rest.orderedInsert (fun a b => a.1 ≤ b.1) (key, value)) =
      (Json.normalizeFields rest).orderedInsert (fun a b => a.1 ≤ b.1) (key, value.normalize) := by
  induction rest with
  | nil => rfl
  | cons next rest ih =>
    by_cases hle : key ≤ next.1 <;> simp [Json.normalizeFields, hle, ih]

mutual

theorem ordered_normalize : ∀ value : Json, value.normalize.ordered = value.ordered.normalize
  | .integer i => by by_cases h : 0 ≤ i <;> simp [Json.normalize, Json.ordered, h]
  | .array items => by simp only [Json.normalize, Json.ordered, orderedItems_normalizeItems items]
  | .object members => by
    simp only [Json.normalize, Json.ordered, orderedFields_normalizeFields members]
  | .null | .boolean _ | .unsigned _ | .float _ | .string _ => by
    simp only [Json.normalize, Json.ordered]

theorem orderedItems_normalizeItems : ∀ items : List Json,
    Json.orderedItems (Json.normalizeItems items) = Json.normalizeItems (Json.orderedItems items)
  | [] => rfl
  | item :: items => by
    simp only [Json.normalizeItems, Json.orderedItems, ordered_normalize item,
      orderedItems_normalizeItems items]

theorem orderedFields_normalizeFields : ∀ members : List (String × Json),
    Json.orderedFields (Json.normalizeFields members) =
      Json.normalizeFields (Json.orderedFields members)
  | [] => rfl
  | (key, value) :: rest => by
    simp only [Json.normalizeFields, Json.orderedFields, ordered_normalize value,
      orderedFields_normalizeFields rest, normalizeFields_orderedInsert]

end

lemma getField_ordered (h : a.ordered = b.ordered) (key : String) :
    ((a.field? key).getD a).ordered = ((b.field? key).getD b).ordered := by
  have hmap : (a.field? key).map Json.ordered = (b.field? key).map Json.ordered := by
    rw [← field_ordered, h, field_ordered]
  cases ha : a.field? key <;> cases hb : b.field? key <;> simp_all

lemma unsignedField_ordered (value : Json) (key : String) :
    value.ordered.unsignedField? key = value.unsignedField? key := by
  unfold Json.unsignedField?
  rw [field_ordered]
  rcases value.field? key with _ | member
  · rfl
  · cases member <;> rfl

lemma stringField_ordered (value : Json) (key : String) :
    value.ordered.stringField? key = value.stringField? key := by
  unfold Json.stringField?
  rw [field_ordered]
  rcases value.field? key with _ | member
  · rfl
  · cases member <;> rfl

lemma structuredRouteKey_ordered (value : Json) :
    structuredRouteKey value.ordered = structuredRouteKey value := by
  simp only [structuredRouteKey, isObject_ordered, unsignedField_ordered, stringField_ordered]

/-- A value that came back as `a` is equal to the values that `a` was equal to. -/
lemma same_of_ordered (h : b.ordered = a.normalize.ordered) (value : Json) :
    b.Same value ↔ a.Same value := by
  have hsame : b.normalize.ordered = a.normalize.ordered := by
    rw [ordered_normalize, h, ← ordered_normalize, normalize_normalize]
  rw [Json.Same, hsame, Json.Same]

end Ordered

lemma ne_of_field {key : String} {member : Json} (h : value.field? key = some member) : member ≠
    value := by
  cases value with
  | object members =>
    have hmem : (key, member) ∈ members := by
      have hl : members.lookup key = some member := h
      obtain ⟨before, after, rfl, -⟩ := List.lookup_eq_some_iff.mp hl
      simp
    intro heq
    have hsize := List.sizeOf_lt_of_mem hmem
    have hmember := congrArg sizeOf heq
    simp only [Json.object.sizeOf_spec, Prod.mk.sizeOf_spec] at hsize hmember
    omega
  | _ => simp [Json.field?, Json.fields] at h

/-- A pipeline for JSON over a length-based envelope, with named routes. -/
structure JsonPipeline (profile : ProtocolProfile) (routes : RouteTable)
    (codecs : AList (fun _ : UInt16 => BodyCodec)) : Prop where
  codec : codecs.lookup profile.defaultCodecId = some .json
  lengthBased : profile.envelopeKind ≠ .delimiter
  source : profile.routeSource = defaultRouteSourceForEnvelope profile.envelopeKind
  bodyRoute : profile.decodeBodyRoute = true
  route : ∀ id route, routes.find id = some route →
    id ≠ 0 ∧ route.debugName ≠ "" ∧ route.policy.action = .decodeLocal
  distinct : ∀ id id' route route', routes.find id = some route → routes.find id' = some route' →
    route.debugName = route'.debugName → id = id'

def materialized (lib : JsonLibrary) (pipeline : ProtocolPipeline) (bytes : List UInt8) :
    List DispatchResult :=
  let (results, next) := pipeline.feed lib (.bytes bytes)
  results.map fun result => (next.materializeDecode lib result).2

def outboundRoute (pipeline : ProtocolPipeline) (body : DecodedBody) : Option RouteEntry :=
  (pipeline.resolveOutboundRoute body).map Prod.fst

/-- The receiver gets one result, on the sender's route, with this business part. -/
def ArrivesAs (lib : JsonLibrary) (pipeline : ProtocolPipeline) (body : DecodedBody)
    (bytes : List UInt8) (business : Json) : Prop :=
  ∃ result decoded message, materialized lib pipeline bytes = [result] ∧ result.error = "" ∧
    result.route = outboundRoute pipeline body ∧ result.decodedBody = some decoded ∧
    decoded.message = some message ∧ message.Same business

/-- The value whose text `encode_message` puts into the frame. -/
def wireValue (pipeline : ProtocolPipeline) (body : DecodedBody) : Except String Json :=
  match pipeline.resolveOutboundRoute body with
  | none => .error "failed to resolve outbound route"
  | some (route, sent) => encodeStructuredMessage sent route

/-- The text of the message is within the frame limit. -/
def FitsFrame (lib : JsonLibrary) (pipeline : ProtocolPipeline) (body : DecodedBody) : Prop :=
  ∀ wire text, wireValue pipeline body = .ok wire → lib.dump wire = .ok text →
    ¬exceedsLimit pipeline.envelope.config text

def hintedRoute (pipeline : ProtocolPipeline) (message : Json) : Option RouteEntry :=
  (structuredRouteKey message.normalize).bind fun key => (pipeline.routeOfKey {} key).2

/-- The hints in the message lead to the sender's route, where they are read at all. -/
def RoutesAgree (pipeline : ProtocolPipeline) (body : DecodedBody) (message : Json) : Prop :=
  pipeline.profile.envelopeKind ≠ .lenPrefix ∨ messageContainsRouteHint message = false ∨
    hintedRoute pipeline message = outboundRoute pipeline body

lemma chosenById_spec {id : UInt32} (h : pipeline.chosenById body id = some (route, sent)) :
    pipeline.routes.find route.routeId = some route ∧ sent.message = body.message := by
  obtain ⟨found, hfound, heq⟩ := Option.map_eq_some_iff.mp h
  cases heq
  rw [RouteTable.routeId_of_find hfound]
  exact ⟨hfound, rfl⟩

lemma chosenByName_spec {name : String} (h : pipeline.chosenByName body name = some (route, sent)) :
    pipeline.routes.find route.routeId = some route ∧ sent.message = body.message := by
  obtain ⟨found, hfound, heq⟩ := Option.map_eq_some_iff.mp h
  cases heq
  exact ⟨RouteTable.find_of_findByName hfound, rfl⟩

lemma chosenByMessage_spec (h : pipeline.chosenByMessage body message = some (route, sent)) :
    pipeline.routes.find route.routeId = some route ∧ sent.message = body.message := by
  simp only [ProtocolPipeline.chosenByMessage, Option.or_eq_some_iff, Option.bind_eq_some_iff] at h
  rcases h with ⟨_, -, h⟩ | ⟨-, ⟨_, -, h⟩ | ⟨-, ⟨_, -, h⟩ | ⟨-, _, -, h⟩⟩⟩
  · exact chosenById_spec h
  · exact chosenById_spec h
  · exact chosenByName_spec h
  · exact chosenByName_spec h

lemma resolveOutboundRoute_spec (h : pipeline.resolveOutboundRoute body = some (route, sent)) :
    pipeline.routes.find route.routeId = some route ∧ sent.message = body.message := by
  simp only [ProtocolPipeline.resolveOutboundRoute, Option.or_eq_some_iff] at h
  rcases h with h | ⟨-, h | ⟨-, h | ⟨-, h⟩⟩⟩
  · split at h
    · exact chosenById_spec h
    · cases h
  · split at h
    · exact chosenByName_spec h
    · cases h
  · obtain ⟨message, -, h⟩ := Option.bind_eq_some_iff.mp h
    exact chosenByMessage_spec h
  · split at h
    · cases h
    obtain ⟨found, hfound, heq⟩ := Option.map_eq_some_iff.mp h
    cases heq
    exact ⟨RouteTable.find_of_only hfound, rfl⟩

lemma encodeMessage_ok
    (hcodec : pipeline.codecs.lookup pipeline.profile.defaultCodecId = some .json)
    (h : pipeline.encodeMessage lib body = .ok bytes) :
    ∃ route sent text, pipeline.resolveOutboundRoute body = some (route, sent) ∧
      BodyCodec.json.encode lib sent route = .ok text ∧
      pipeline.envelope.encodeFrame
        { routeId := route.routeId, kind := route.kind.toUInt16, body := text } = .ok bytes := by
  unfold ProtocolPipeline.encodeMessage ProtocolPipeline.codecForRoute at h
  cases hroute : pipeline.resolveOutboundRoute body with
  | none => simp [hroute] at h
  | some chosen =>
    obtain ⟨route, sent⟩ := chosen
    cases htext : BodyCodec.json.encode lib sent route with
    | error => simp [hroute, hcodec, htext] at h
    | ok text =>
      simp only [hroute, hcodec, htext] at h
      exact ⟨route, sent, text, rfl, htext, h⟩

lemma encode_json_ok (h : BodyCodec.json.encode lib sent route = .ok text) :
    ∃ wire, encodeStructuredMessage sent route = .ok wire ∧ lib.dump wire = .ok text := by
  simp only [BodyCodec.encode, bind, Except.bind] at h
  cases hwire : encodeStructuredMessage sent route with
  | error => simp [hwire] at h
  | ok wire =>
    rw [hwire] at h
    exact ⟨wire, rfl, h⟩

variable {wire : Json} {profile : ProtocolProfile} {routes : RouteTable}

lemma isObject_of_hint (h : messageContainsRouteHint message = true) : message.isObject = true := by
  exact (Bool.and_eq_true_iff.mp h).1

lemma payload_of_wire (hmsg : sent.message = some message)
    (hwire : encodeStructuredMessage sent route = .ok wire) :
    (wire.normalize.field? "payload").getD wire.normalize = (businessPart message).normalize := by
  unfold encodeStructuredMessage at hwire
  simp only [hmsg] at hwire
  rw [field_normalize]
  by_cases hhint : messageContainsRouteHint message = true
  · rw [if_pos hhint] at hwire
    cases hwire
    cases hpay : message.field? "payload" with
    | none => simp [businessPart, Json.contains, hpay]
    | some => simp [businessPart, Json.contains, hpay, isObject_of_hint hhint, hhint]
  · rw [if_neg hhint] at hwire
    cases hwire
    have hpay : (Json.object (Json.setField "payload" message (routeFields sent route))).field?
        "payload" = some message := by
      simp [Json.field?, Json.fields, Json.lookup_setField]
    simp [hpay, businessPart, hhint]

lemma same_businessPart_iff (message : Json) :
    (businessPart message).Same message ↔
      ¬(messageContainsRouteHint message = true ∧ message.contains "payload" = true) := by
  constructor
  · rintro heq ⟨hhint, hpay⟩
    obtain ⟨payload, hfield⟩ := Option.isSome_iff_exists.mp hpay
    have hpart : businessPart message = payload := by
      simp [businessPart, isObject_of_hint hhint, hpay, hhint, hfield]
    rw [hpart] at heq
    have hmember : message.normalize.ordered.field? "payload" = some payload.normalize.ordered := by
      rw [field_ordered, field_normalize, hfield]
      rfl
    exact ne_of_field hmember heq
  · intro hnot
    have hpart : businessPart message = message := by
      unfold businessPart
      rw [if_neg]
      simp only [Bool.and_eq_true, not_and]
      intro hp hh
      exact hnot ⟨hh, hp.2⟩
    rw [hpart, Json.Same]

lemma wrapped_route (sent : DecodedBody) (hid : route.routeId ≠ 0)
    (hfind : pipeline.routes.find route.routeId = some route) (message : Json) :
    hintedRoute pipeline (.object (Json.setField "payload" message (routeFields sent route))) =
      some route := by
  set wrapped := Json.object (Json.setField "payload" message (routeFields sent route)) with hwrapped
  have hfield : wrapped.field? "route_id" = some (.unsigned route.routeId.toNat) := by
    show List.lookup _ (Json.setField _ _ _) = _
    rw [Json.lookup_setField, if_neg (by decide)]
    unfold routeFields
    rw [if_pos hid, Json.lookup_setField, if_pos rfl]
  have hunsigned : wrapped.normalize.unsignedField? "route_id" = some route.routeId := by
    unfold Json.unsignedField?
    rw [field_normalize, hfield]
    simp [Json.normalize]
  have hobject : wrapped.normalize.isObject = true := by
    rfl
  simp [hintedRoute, structuredRouteKey, hobject, hunsigned, BodyRouteKey.empty, hid,
    ProtocolPipeline.routeOfKey, hfind]

section Receiver

lemma routeOfKey_body (key : BodyRouteKey) :
    (pipeline.routeOfKey packet key).1.body = packet.body := by
  rcases routeOfKey_cases pipeline packet key with ⟨id, heq⟩ | heq <;> rw [heq]

lemma resolveRoute_header (hid : packet.routeId ≠ 0)
    (hfind : pipeline.routes.find packet.routeId = some route) :
    pipeline.resolveRoute lib packet = (packet, some route, "") := by
  simp [ProtocolPipeline.resolveRoute, hid, hfind]

variable {packet' : Packet}

lemma structuredRouteKey_nonempty {key : BodyRouteKey} (h : structuredRouteKey value = some key) :
    key.empty = false := by
  unfold structuredRouteKey at h
  extract_lets read at h
  by_cases hempty : read.empty = true
  · simp [hempty] at h
  simp only [hempty, Bool.false_eq_true, ite_false, Option.ite_none_left_eq_some,
    Option.some.injEq] at h
  rw [← h.2]
  simpa using hempty

lemma resolveRoute_body (hid : packet.routeId = 0) (hsource : pipeline.profile.routeSource = .body)
    (hbody : pipeline.profile.decodeBodyRoute = true)
    (hcodec : pipeline.codecs.lookup pipeline.profile.defaultCodecId = some .json)
    (hparse : lib.parse packet.body = .ok value) :
    ∃ packet', packet'.body = packet.body ∧ pipeline.resolveRoute lib packet =
      (packet', (structuredRouteKey value).bind fun key => (pipeline.routeOfKey {} key).2, "") := by
  cases hkey : structuredRouteKey value with
  | none =>
    refine ⟨packet, rfl, ?_⟩
    simp [ProtocolPipeline.resolveRoute, hid, hsource, hbody, hcodec, BodyCodec.routeKey, hparse, hkey]
  | some key =>
    have hempty := structuredRouteKey_nonempty hkey
    refine ⟨(pipeline.routeOfKey packet key).1, routeOfKey_body key, ?_⟩
    simp [ProtocolPipeline.resolveRoute, hid, hsource, hbody, hcodec, BodyCodec.routeKey, hparse, hkey,
      hempty, routeOfKey_route pipeline packet {} key]

lemma resolveRoute_mem {error : String}
    (h : pipeline.resolveRoute lib packet = (packet', some route, error)) :
    ∃ id, pipeline.routes.find id = some route := by
  rcases resolveRoute_cases lib pipeline packet with ⟨id, heq⟩ | ⟨error', heq⟩
  · rw [heq] at h
    exact ⟨id, (Prod.ext_iff.mp (Prod.ext_iff.mp h).2).1⟩
  · rw [heq] at h
    cases h

lemma materialize_dispatch (hresolve : pipeline.resolveRoute lib packet = (packet', some route, ""))
    (haction : route.policy.action = .decodeLocal)
    (hcodec : pipeline.codecs.lookup pipeline.profile.defaultCodecId = some .json)
    (hparse : lib.parse packet'.body = .ok value) :
    (pipeline.materializeDecode lib (pipeline.dispatch lib packet)).2 =
      { packet := packet', route := some route, action := .decodeLocal
        decodedBody := some (decodeStructuredBody packet' route value) } := by
  have hdecode : ∀ result : DispatchResult, result.packet = packet' →
      pipeline.decodeFor lib result route =
        { result with decodedBody := some (decodeStructuredBody packet' route value) } := by
    rintro result rfl
    simp [ProtocolPipeline.decodeFor, ProtocolPipeline.codecForRoute, hcodec, BodyCodec.decode, hparse]
  simp only [ProtocolPipeline.dispatch, hresolve, DispatchResult.ok, beq_self_eq_true,
    Bool.not_true, Bool.false_eq_true, ite_false, haction, true_and]
  split
  · rw [hdecode _ rfl]
    simp [ProtocolPipeline.materializeDecode, DispatchResult.ok, DispatchResult.decoded]
  · simp [ProtocolPipeline.materializeDecode, DispatchResult.ok, DispatchResult.decoded, hdecode]

lemma dispatch_route (hresolve : pipeline.resolveRoute lib packet = (packet', none, "")) :
    (pipeline.dispatch lib packet).route = none := by
  simp [ProtocolPipeline.dispatch, hresolve, DispatchResult.ok]

lemma materializeDecode_route (lib : JsonLibrary) (pipeline : ProtocolPipeline)
    (result : DispatchResult) : (pipeline.materializeDecode lib result).2.route = result.route := by
  unfold ProtocolPipeline.materializeDecode
  split
  · rfl
  split
  · rfl
  split
  · rfl
  · exact decodeFor_route _ _ _ _

end Receiver

lemma materialized_frame (lib : JsonLibrary) (profile : ProtocolProfile) (routes : RouteTable)
    (codecs : AList (fun _ : UInt16 => BodyCodec)) (hkind : profile.envelopeKind ≠ .delimiter)
    {frame : List UInt8}
    (henc : (ProtocolPipeline.create profile routes codecs).envelope.encodeFrame packet = .ok frame)
    : let pipeline := ProtocolPipeline.create profile routes codecs
    (exceedsLimit pipeline.envelope.config packet.body → ∃ error, error ≠ "" ∧
      materialized lib pipeline frame = [{ error }]) ∧
    (¬exceedsLimit pipeline.envelope.config packet.body → materialized lib pipeline frame =
      [(pipeline.materializeDecode lib
        (pipeline.dispatch lib (decodedPacket profile.envelopeKind packet frame))).2]) := by
  intro pipeline
  have hw : pipeline.envelope.widthError = none := widthError_of_encode _ henc
  have hl := envelope_incremental pipeline.envelope hw
  have hlook := envelope_look_encode pipeline.envelope hkind packet frame henc
  constructor
  · intro hlarge
    have hfail := hlook []
    rw [if_pos hlarge, List.append_nil] at hfail
    have hd : decode pipeline.envelope.look (pipeline.envelope.buffer ++ frame) =
      ([], .error (pipeline.envelope.kind.label ++ " frame too large")) := decode_fail hfail
    obtain ⟨hres, -, hne⟩ := feed_pipeline_error lib pipeline hw hd
    refine ⟨_, hne, ?_⟩
    simp only [materialized, hres, List.map_cons, List.map_nil]
    simp [ProtocolPipeline.materializeDecode, DispatchResult.ok, hne]
  · intro hfits
    have hcut : List.Forall₂ (fun f p => ∀ more, pipeline.envelope.look (f ++ more) = .emit p f.length)
        [frame] [decodedPacket profile.envelopeKind packet frame] :=
      .cons (fun more => by rw [hlook, if_neg hfits]; rfl) .nil
    have hframes := decode_frames hl (envelope_look_nil _ hw) hcut
    rw [List.flatten_cons, List.flatten_nil, List.append_nil] at hframes
    have hd : decode pipeline.envelope.look (pipeline.envelope.buffer ++ frame) =
      ([decodedPacket profile.envelopeKind packet frame], .ok []) := hframes
    simp only [materialized, feed_pipeline_ok lib pipeline hw hd]
    rfl

lemma receiver_route (frame : List UInt8) (hp : JsonPipeline profile routes codecs)
    (hroute : (ProtocolPipeline.create profile routes codecs).resolveOutboundRoute body =
      some (route, sent)) (hmsg : sent.message = some message)
    (hwire : encodeStructuredMessage sent route = .ok wire)
    (hparse : lib.parse text = .ok value) (hback : value.ordered = wire.normalize.ordered) :
    let pipeline := ProtocolPipeline.create profile routes codecs
    let packet := decodedPacket profile.envelopeKind
      { routeId := route.routeId, kind := route.kind.toUInt16, body := text } frame
    ∃ packet' found, pipeline.resolveRoute lib packet = (packet', found, "") ∧
      packet'.body = text ∧ (found = some route ↔ RoutesAgree pipeline body message) := by
  intro pipeline packet
  obtain ⟨hfind, -⟩ := resolveOutboundRoute_spec hroute
  have hid : route.routeId ≠ 0 := (hp.route _ _ hfind).1
  have hsender : outboundRoute pipeline body = some route := by
    rw [outboundRoute, hroute]
    rfl
  have hheader (hkind : profile.envelopeKind ≠ .lenPrefix) (hpacket : packet.routeId = route.routeId)
      (hbody : packet.body = text) :
      ∃ packet' found, pipeline.resolveRoute lib packet = (packet', found, "") ∧
        packet'.body = text ∧ (found = some route ↔ RoutesAgree pipeline body message) := by
    refine ⟨packet, some route, resolveRoute_header ?_ ?_, hbody, ?_⟩
    · rwa [hpacket]
    · rw [hpacket]
      exact hfind
    · simp [RoutesAgree, pipeline, ProtocolPipeline.create, hkind]
  cases hkind : profile.envelopeKind with
  | lenPrefix =>
    have hpacket : packet = { body := text, rawFrame := frame } := by
      simp [packet, decodedPacket, hkind]
    have hsource : pipeline.profile.routeSource = .body := by
      have h := hp.source
      rwa [hkind] at h
    have hnone : packet.routeId = 0 := by rw [hpacket]
    have hparse' : lib.parse packet.body = .ok value := by rwa [hpacket]
    obtain ⟨packet', hbody, hresolve⟩ := resolveRoute_body hnone hsource hp.bodyRoute hp.codec hparse'
    rw [← structuredRouteKey_ordered value, hback, structuredRouteKey_ordered] at hresolve
    refine ⟨packet', hintedRoute pipeline wire, hresolve, by rw [hbody, hpacket], ?_⟩
    unfold encodeStructuredMessage at hwire
    simp only [hmsg] at hwire
    have hkind' : pipeline.profile.envelopeKind = .lenPrefix := hkind
    by_cases hhint : messageContainsRouteHint message = true
    · rw [if_pos hhint] at hwire
      cases hwire
      simp [RoutesAgree, hkind', hhint, hsender]
    rw [if_neg hhint] at hwire
    cases hwire
    have hwrapped := wrapped_route sent hid hfind message
    simp [RoutesAgree, hhint, pipeline, hwrapped]
  | idLen =>
    apply hheader <;> simp [packet, decodedPacket, hkind]
  | typeLen =>
    apply hheader <;> simp [packet, decodedPacket, hkind, TypeLenEnvelope.typeId, hid]
  | delimiter => exact (hp.lengthBased hkind).elim

lemma arrivesAs_iff (lib : JsonLibrary) (hp : JsonPipeline profile routes codecs)
    (hlib : ∀ wire, wireValue (.create profile routes codecs) body = .ok wire → lib.RoundTrips wire)
    (hmsg : body.message = some message)
    (henc : (ProtocolPipeline.create profile routes codecs).encodeMessage lib body = .ok bytes)
    (business : Json) : let pipeline := ProtocolPipeline.create profile routes codecs
    ArrivesAs lib pipeline body bytes business ↔
      FitsFrame lib pipeline body ∧ RoutesAgree pipeline body message ∧
        (businessPart message).Same business := by
  intro pipeline
  obtain ⟨route, sent, text, hroute, htext, hframe⟩ := encodeMessage_ok hp.codec henc
  obtain ⟨wire, hwire, hdump⟩ := encode_json_ok htext
  obtain ⟨-, hsent⟩ := resolveOutboundRoute_spec hroute
  have hsentMsg : sent.message = some message := hsent.trans hmsg
  have hvalue : wireValue pipeline body = .ok wire := by
    simp only [wireValue, pipeline, hroute, hwire]
  obtain ⟨back, hparse, hback⟩ := hlib wire hvalue text hdump
  have hfits : FitsFrame lib pipeline body ↔ ¬exceedsLimit pipeline.envelope.config text := by
    constructor
    · intro h
      exact h wire text hvalue hdump
    · intro h wire' text' hvalue' hdump'
      cases hvalue.symm.trans hvalue'
      cases hdump.symm.trans hdump'
      exact h
  have hsender : outboundRoute pipeline body = some route := by
    rw [outboundRoute, hroute]
    rfl
  obtain ⟨hover, hwithin⟩ := materialized_frame lib profile routes codecs hp.lengthBased hframe
  by_cases hlarge : exceedsLimit pipeline.envelope.config text
  · obtain ⟨error, hne, hres⟩ := hover hlarge
    constructor
    · rintro ⟨result, decoded, got, hone, herr, -⟩
      rw [hres] at hone
      cases hone
      exact (hne herr).elim
    · rintro ⟨h, -⟩
      exact (hfits.mp h hlarge).elim
  · have hres := hwithin hlarge
    obtain ⟨packet', found, hresolve, hbody, hagree⟩ := receiver_route bytes hp hroute
      hsentMsg hwire hparse hback
    cases found with
    | none =>
      have hnone := (materializeDecode_route lib pipeline _).trans (dispatch_route hresolve)
      constructor
      · rintro ⟨result, decoded, got, hone, -, hsame, -⟩
        rw [hres] at hone
        cases hone
        rw [hnone, hsender] at hsame
        cases hsame
      · rintro ⟨-, h, -⟩
        cases hagree.mpr h
    | some entry =>
      obtain ⟨id, hentry⟩ := resolveRoute_mem hresolve
      have hdone := materialize_dispatch hresolve (hp.route id entry hentry).2.2 hp.codec
        (by rw [hbody]; exact hparse)
      rw [hdone] at hres
      have hpayload : ((back.field? "payload").getD back).ordered =
          (businessPart message).normalize.ordered := by
        rw [getField_ordered hback, payload_of_wire hsentMsg hwire]
      rw [hfits, ← hagree]
      constructor
      · rintro ⟨result, decoded, got, hone, -, hsame, hdecoded, hgot, heqv⟩
        rw [hres] at hone
        cases hone
        cases hdecoded
        cases hgot
        rw [hsender] at hsame
        exact ⟨hlarge, hsame, (same_of_ordered hpayload business).mp heqv⟩
      · rintro ⟨-, hsame, heqv⟩
        refine ⟨_, _, _, hres, rfl, ?_, rfl, rfl, ?_⟩
        · rw [hsender]
          exact hsame
        · exact (same_of_ordered hpayload business).mpr heqv

def twoRoutes : RouteTable :=
  (RouteTable.upsert {} { routeId := 1, debugName := "login" }).upsert
    { routeId := 2, debugName := "logout" }

def jsonCodecs : AList (fun _ : UInt16 => BodyCodec) := (∅ : AList _).insert 0 .json

lemma twoRoutes_find {id : UInt32} (h : twoRoutes.find id = some route) :
    (id = 1 ∧ route = { routeId := 1, debugName := "login" }) ∨
      (id = 2 ∧ route = { routeId := 2, debugName := "logout" }) := by
  rw [twoRoutes, RouteTable.find_upsert, RouteTable.find_upsert] at h
  split at h
  · rename_i hid
    cases h
    exact .inr ⟨hid, rfl⟩
  split at h
  · rename_i hid
    cases h
    exact .inl ⟨hid, rfl⟩
  · cases h

lemma twoRoutes_jsonPipeline : JsonPipeline {} twoRoutes jsonCodecs where
  codec := rfl
  lengthBased := by decide
  source := rfl
  bodyRoute := rfl
  route := by
    intro id route h
    rcases twoRoutes_find h with ⟨rfl, rfl⟩ | ⟨rfl, rfl⟩ <;> decide
  distinct := by
    intro id id' route route' h h' hname
    rcases twoRoutes_find h with ⟨rfl, rfl⟩ | ⟨rfl, rfl⟩ <;>
      rcases twoRoutes_find h' with ⟨rfl, rfl⟩ | ⟨rfl, rfl⟩
    · rfl
    · revert hname
      decide
    · revert hname
      decide
    · rfl

/-- A sent message arrives as its business part on the sender's route exactly when its text fits
the frame limit and the hints in it do not lead the receiver elsewhere. It arrives unchanged
exactly when it is moreover not itself a routed message with a payload. -/
theorem json_message_round_trip (lib : JsonLibrary) (profile : ProtocolProfile)
    (routes : RouteTable) (codecs : AList (fun _ : UInt16 => BodyCodec))
    (hpipeline : JsonPipeline profile routes codecs) (body : DecodedBody) (message : Json)
    (hlib : ∀ wire, wireValue (.create profile routes codecs) body = .ok wire → lib.RoundTrips wire)
    (hmsg : body.message = some message) (bytes : List UInt8)
    (henc : (ProtocolPipeline.create profile routes codecs).encodeMessage lib body = .ok bytes) :
    let pipeline := ProtocolPipeline.create profile routes codecs
    (ArrivesAs lib pipeline body bytes (businessPart message) ↔
      FitsFrame lib pipeline body ∧ RoutesAgree pipeline body message) ∧
    (ArrivesAs lib pipeline body bytes message ↔
      FitsFrame lib pipeline body ∧ RoutesAgree pipeline body message ∧
        ¬(messageContainsRouteHint message = true ∧ message.contains "payload" = true)) := by
  intro pipeline
  have hself : (businessPart message).Same (businessPart message) := rfl
  constructor
  · refine (arrivesAs_iff lib hpipeline hlib hmsg henc (businessPart message)).trans ?_
    simp [hself, pipeline]
  · refine (arrivesAs_iff lib hpipeline hlib hmsg henc message).trans ?_
    rw [same_businessPart_iff]

def greetingText : List UInt8 :=
  bytesOf "\x7b\"payload\":\"hi\",\"route\":\"logout\",\"route_id\":2\x7d"

def greetingLibrary : JsonLibrary := textLibrary [(greetingText,
  .object [("payload", .string "hi"), ("route", .string "logout"), ("route_id", .unsigned 2)])]

theorem json_message_round_trip_named_route :
    ArrivesAs greetingLibrary (.create {} twoRoutes jsonCodecs)
      { routeId := 2, message := some (.string "hi") } ([0, 0, 0, 46] ++ greetingText)
      (.string "hi") := by
  have hdump : greetingLibrary.dump (.object [("route", .string "logout"),
      ("route_id", .unsigned 2), ("payload", .string "hi")]) = .ok greetingText := by rfl
  refine (json_message_round_trip greetingLibrary {} twoRoutes jsonCodecs twoRoutes_jsonPipeline
    { routeId := 2, message := some (.string "hi") } (.string "hi") ?_ rfl
    ([0, 0, 0, 46] ++ greetingText) rfl).2.mpr
    ⟨fun wire text _ _ h => absurd h.1 (by decide), .inr (.inl rfl), by decide⟩
  intro wire hwire bytes hbytes
  cases hwire
  cases hdump.symm.trans hbytes
  exact ⟨_, rfl, rfl⟩

def hintText : List UInt8 := bytesOf "\x7b\"route_id\":2\x7d"

/-- A message for route 1 whose own `route_id` says 2 arrives on route 2. -/
theorem json_hint_overrides_sender :
    ∃ (body : DecodedBody) (message : Json) (bytes : List UInt8),
      (textLibrary [(hintText, message)]).RoundTrips message ∧
      JsonPipeline {} twoRoutes jsonCodecs ∧ body.message = some message ∧
      (ProtocolPipeline.create {} twoRoutes jsonCodecs).encodeMessage
        (textLibrary [(hintText, message)]) body = .ok bytes ∧
      ¬ArrivesAs (textLibrary [(hintText, message)]) (.create {} twoRoutes jsonCodecs) body bytes
        message := by
  refine ⟨{ routeId := 1, message := some (.object [("route_id", .unsigned 2)]) }, _, _,
    ?_, twoRoutes_jsonPipeline, rfl, rfl, ?_⟩
  · intro bytes h
    cases h
    exact ⟨_, rfl, rfl⟩
  · rintro ⟨result, decoded, message, hone, -, hroute, -⟩
    have hids := congrArg (List.map fun r : DispatchResult => r.route.map RouteEntry.routeId) hone
    simp only [List.map_cons, List.map_nil, hroute] at hids
    revert hids
    decide

end ShieldRuntime.Proofs
