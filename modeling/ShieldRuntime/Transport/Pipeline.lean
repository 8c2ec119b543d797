import ShieldRuntime.Transport.Envelope
import ShieldRuntime.Transport.Json
import ShieldRuntime.Transport.RouteTable

/-!
# Protocol pipelines

`ProtocolPipeline` puts an envelope, a route table and the body codecs together. A codec reads a route
key out of the body of a packet, decodes the body for a route, and encodes a business message. An
exception is an `Except` error with the text of its `what()`. `createEnvelope` never fails on the
four envelope kinds, so the tests for a missing envelope are left out.

`build_protocol_pipeline_from_json` makes one, with the parsers of the words in a configuration. An
error is the text that the function leaves in `error`. The name of the profile is read, because
reading it may throw, and is not kept. `truncate` is the cast of a double to an integer.
-/

namespace ShieldRuntime.Transport
open Library

/-- The route that a body names. -/
structure BodyRouteKey where
  routeId : UInt32 := 0
  routeName : String := ""
  deriving DecidableEq, Repr

def BodyRouteKey.empty (key : BodyRouteKey) : Bool := key.routeId == 0 && key.routeName == ""

/-- A body and the route it belongs to. -/
structure DecodedBody where
  routeId : UInt32 := 0
  codecId : UInt16 := 0
  schemaId : UInt16 := 0
  routeName : String := ""
  bytes : List UInt8 := []
  message : Option Json := none
  deriving Repr

def structuredRouteKey (value : Json) : Option BodyRouteKey :=
  if !value.isObject then none
  else
    let key : BodyRouteKey :=
      { routeId :=
          match value.unsignedField? "route_id" with
          | some id => id
          | none => (value.unsignedField? "msg_id").getD 0
        routeName :=
          match value.stringField? "route" with
          | some name => name
          | none => (value.stringField? "method").getD "" }
    if key.empty then none else some key

def decodeStructuredBody (packet : Packet) (route : RouteEntry) (message : Json) : DecodedBody where
  routeId := route.routeId
  codecId := route.codecId
  schemaId := route.schemaId
  bytes := packet.body
  routeName := ((structuredRouteKey message).map BodyRouteKey.routeName).getD ""
  message := some ((message.field? "payload").getD message)

def messageContainsRouteHint (message : Json) : Bool :=
  message.isObject && (message.contains "route" || message.contains "route_id" ||
    message.contains "msg_id" || message.contains "method")

/-- The members that name the route in a wrapped message. -/
def routeFields (body : DecodedBody) (route : RouteEntry) : List (String × Json) :=
  let named :=
    if body.routeName ≠ "" then Json.setField "route" (.string body.routeName) []
    else if route.debugName ≠ "" then Json.setField "route" (.string route.debugName) []
    else []
  if route.routeId ≠ 0 then Json.setField "route_id" (.unsigned route.routeId.toNat) named
  else named

def encodeStructuredMessage (body : DecodedBody) (route : RouteEntry) : Except String Json :=
  match body.message with
  | some message =>
    if messageContainsRouteHint message then .ok message
    else .ok (.object (Json.setField "payload" message (routeFields body route)))
  | none =>
    if body.bytes ≠ [] then
      .error "structured body codec expects business message, not raw bytes"
    else .ok (.object (Json.setField "payload" (.object []) (routeFields body route)))

/-- The business part of a message: the payload of one that carries its own route. -/
def businessPart (message : Json) : Json :=
  if message.isObject && message.contains "payload" && messageContainsRouteHint message then
    (message.field? "payload").getD message
  else message

def pluginBusinessMessage (body : DecodedBody) : Except String Json :=
  match body.message with
  | some message => .ok (businessPart message)
  | none =>
    if body.bytes ≠ [] then .error "plugin body codec expects business message, not raw bytes"
    else .ok (.object [])

/-- `shield_error_v1` as far as it is read: absent texts are empty. -/
structure PluginError where
  message : String := ""
  code : String := ""
  deriving DecidableEq, Repr

def pluginErrorMessage (err : PluginError) (fallback : String) : String :=
  if err.message ≠ "" then err.message else if err.code ≠ "" then err.code else fallback

/-- A codec of a plugin. The callbacks take the route and the payload or the message text, and
return the message text or the payload; a missing callback is `none`. -/
structure ExternalCodec where
  provider : String
  name : String
  decode : Option (RouteEntry → List UInt8 → Except PluginError (List UInt8)) := none
  encode : Option (RouteEntry → List UInt8 → Except PluginError (List UInt8)) := none

inductive BodyCodec where
  | raw
  | passthrough (name : String)
  | json
  | external (codec : ExternalCodec)

namespace BodyCodec

def name : BodyCodec → String
  | raw => "raw"
  | passthrough name => name
  | json => "json"
  | external codec => codec.name

variable (lib : JsonLibrary)

def routeKey (packet : Packet) : BodyCodec → Option BodyRouteKey
  | json =>
    match lib.parse packet.body with
    | .ok value => structuredRouteKey value
    | .error _ => none
  | _ => none

def decode (packet : Packet) (route : RouteEntry) : BodyCodec → Except String DecodedBody
  | raw =>
    .ok { routeId := route.routeId, codecId := route.codecId, schemaId := route.schemaId,
          bytes := packet.body }
  | passthrough _ => .error "body codec does not support decode_local"
  | json =>
    match lib.parse packet.body with
    | .ok value => .ok (decodeStructuredBody packet route value)
    | .error what => .error what
  | external codec =>
    match codec.decode with
    | none => .error ("protocol codec provider '" ++ codec.provider ++ "' is not available")
    | some decode =>
      match decode route packet.body with
      | .error err => .error (pluginErrorMessage err "protocol decode failed")
      | .ok text => do
        let message ← if text = [] then .ok (.object []) else lib.parse text
        return { routeId := route.routeId, codecId := route.codecId, schemaId := route.schemaId,
                 routeName := route.debugName, bytes := packet.body, message := some message }

def encode (body : DecodedBody) (route : RouteEntry) : BodyCodec → Except String (List UInt8)
  | raw => if body.message.isSome then .error "raw body codec expects bytes" else .ok body.bytes
  | passthrough _ => .error "body codec does not support encode"
  | json => do lib.dump (← encodeStructuredMessage body route)
  | external codec =>
    match codec.encode with
    | none => .error ("protocol codec provider '" ++ codec.provider ++ "' is not available")
    | some encode => do
      let text ← lib.dump (← pluginBusinessMessage body)
      match encode route text with
      | .error err => .error (pluginErrorMessage err "protocol encode failed")
      | .ok payload => .ok payload

end BodyCodec

/-- The codecs by id and by name; a null pointer is `none`. -/
structure BodyCodecRegistry where
  codecs : AList (fun _ : UInt16 => BodyCodec) := ∅
  codecNames : AList (fun _ : String => UInt16) := ∅
  name_indexed : Indexed BodyCodec.name "" (fun id => codecs.lookup id)
    (fun name => codecNames.lookup name) := by simp [Indexed]

namespace BodyCodecRegistry

variable (registry : BodyCodecRegistry)

def find (codecId : UInt16) : Option BodyCodec :=
  registry.codecs.lookup codecId

def findByName (name : String) : Option BodyCodec :=
  (registry.codecNames.lookup name).bind registry.find

def insertName (names : AList (fun _ : String => UInt16)) (codecId : UInt16) (codec : BodyCodec) :
    AList (fun _ : String => UInt16) :=
  if codec.name = "" then names else names.insert codec.name codecId

/-- Unlike the route table, `upsert` looks for the old name also when it is empty. -/
def releaseName (codecId : UInt16) : AList (fun _ : String => UInt16) :=
  match registry.find codecId with
  | some existing =>
    if registry.codecNames.lookup existing.name = some codecId then
      registry.codecNames.erase existing.name
    else registry.codecNames
  | none => registry.codecNames

lemma lookup_insertName (names : AList (fun _ : String => UInt16)) (codecId : UInt16)
    (codec : BodyCodec) : (fun name => (insertName names codecId codec).lookup name) =
      indexKey "" (fun name => names.lookup name) codecId codec.name := by
  unfold insertName indexKey
  split
  · rfl
  · exact lookup_insert_eq_update names codec.name codecId

lemma lookup_releaseName (codecId : UInt16) :
    (fun name => (registry.releaseName codecId).lookup name) =
      releaseKey BodyCodec.name registry.find (fun name => registry.codecNames.lookup name)
        codecId := by
  unfold releaseName releaseKey
  cases registry.find codecId with
  | none => rfl
  | some existing =>
    dsimp only
    split
    · exact lookup_erase_eq_update registry.codecNames existing.name
    · rfl

lemma name_indexed_write {names : AList (fun _ : String => UInt16)}
    (codecId : UInt16) (codec : BodyCodec) (hnames : (fun name => names.lookup name) =
      releaseKey BodyCodec.name registry.find (fun name => registry.codecNames.lookup name)
        codecId) :
    Indexed BodyCodec.name "" (fun id => (registry.codecs.insert codecId codec).lookup id)
      (fun name => (insertName names codecId codec).lookup name) := by
  rw [lookup_insertName, hnames, lookup_insert_eq_update]
  exact registry.name_indexed.write codecId codec

/-- The registry after the call, and whether the codec was inserted. -/
def add (codecId : UInt16) : Option BodyCodec → Bool × BodyCodecRegistry
  | none => (false, registry)
  | some codec =>
    if hfresh : registry.find codecId = none then
      if codec.name ≠ "" ∧ (registry.codecNames.lookup codec.name).isSome then (false, registry)
      else
        (true,
          { codecs := registry.codecs.insert codecId codec
            codecNames := insertName registry.codecNames codecId codec
            name_indexed := name_indexed_write registry codecId codec
              (by rw [releaseKey, hfresh]) })
    else (false, registry)

def upsert (codecId : UInt16) : Option BodyCodec → BodyCodecRegistry
  | none => registry
  | some codec =>
    { codecs := registry.codecs.insert codecId codec
      codecNames := insertName (registry.releaseName codecId) codecId codec
      name_indexed := name_indexed_write registry codecId codec
        (lookup_releaseName registry codecId) }

def clear (_registry : BodyCodecRegistry) : BodyCodecRegistry := {}

end BodyCodecRegistry

/-- The settings of a pipeline. -/
structure ProtocolProfile where
  envelopeKind : EnvelopeKind := .lenPrefix
  envelope : EnvelopeConfig := {}
  defaultCodecId : UInt16 := 0
  routeSource : RouteSource := .body
  unknownRouteAction : RouteAction := .drop
  decodeBodyRoute : Bool := true
  decodeBeforeDispatch : Bool := false
  deriving DecidableEq, Repr

def defaultRouteSourceForEnvelope : EnvelopeKind → RouteSource
  | .idLen | .typeLen => .header
  | .lenPrefix | .delimiter => .body

/-- What is to be done with a packet. -/
structure DispatchResult where
  packet : Packet := {}
  route : Option RouteEntry := none
  action : RouteAction := .drop
  decodedBody : Option DecodedBody := none
  error : String := ""

namespace DispatchResult

variable (result : DispatchResult)

def ok : Bool := result.error == ""

def shouldDrop : Bool := result.action == .drop && result.ok

def shouldForwardRaw : Bool := result.action == .forwardRaw

def decoded : Bool := result.decodedBody.isSome

end DispatchResult

/-- The envelope, the routes and the codecs of a protocol. -/
structure ProtocolPipeline where
  profile : ProtocolProfile
  envelope : Envelope
  routes : RouteTable
  codecs : AList (fun _ : UInt16 => BodyCodec)
  error : String := ""

namespace ProtocolPipeline

variable (lib : JsonLibrary) (pipeline : ProtocolPipeline)

/-- The constructor: a pipeline with a fresh envelope of the profile's kind. -/
def create (profile : ProtocolProfile) (routes : RouteTable)
    (codecs : AList (fun _ : UInt16 => BodyCodec)) : ProtocolPipeline where
  profile := profile
  envelope := createEnvelope profile.envelopeKind profile.envelope
  routes := routes
  codecs := codecs

/-- `codec_for_route`: the route's own `codec_id` is not used. -/
def codecForRoute (_route : RouteEntry) : Option BodyCodec :=
  pipeline.codecs.lookup pipeline.profile.defaultCodecId

/-- The route that a key read from a body leads to, and the packet with the id it sets. -/
def routeOfKey (packet : Packet) (key : BodyRouteKey) : Packet × Option RouteEntry :=
  if key.routeId ≠ 0 then
    ({ packet with routeId := key.routeId }, pipeline.routes.find key.routeId)
  else
    match if key.routeName ≠ "" then pipeline.routes.findByName key.routeName else none with
    | some route => ({ packet with routeId := route.routeId }, some route)
    | none => (packet, none)

/-- The packet with the route id found in its body, the route, and the error of `result`. -/
def resolveRoute (packet : Packet) : Packet × Option RouteEntry × String :=
  match if packet.routeId ≠ 0 then pipeline.routes.find packet.routeId else none with
  | some route => (packet, some route, "")
  | none =>
    if pipeline.profile.routeSource ≠ .body ∨ !pipeline.profile.decodeBodyRoute then
      (packet, none, "")
    else
      match pipeline.codecs.lookup pipeline.profile.defaultCodecId with
      | none => (packet, none, "default body codec is not registered")
      | some codec =>
        match codec.routeKey lib packet with
        | none => (packet, none, "")
        | some key =>
          if key.empty then (packet, none, "")
          else
            let found := pipeline.routeOfKey packet key
            (found.1, found.2, "")

/-- The decoding step shared by `feed` and `materialize_decode`. -/
def decodeFor (result : DispatchResult) (route : RouteEntry) : DispatchResult :=
  match pipeline.codecForRoute route with
  | none => { result with error := "body codec is not registered" }
  | some codec =>
    match codec.decode lib result.packet route with
    | .ok body => { result with decodedBody := some body }
    | .error what => { result with error := "body decode failed: " ++ what }

/-- One round of the loop of `feed` over the packets of the envelope. -/
def dispatch (packet : Packet) : DispatchResult :=
  let (packet, route, error) := pipeline.resolveRoute lib packet
  let result : DispatchResult := { packet, route, error }
  if !result.ok then result
  else
    match route with
    | none => { result with action := pipeline.profile.unknownRouteAction }
    | some entry =>
      let result := { result with action := entry.policy.action }
      if result.action = .decodeLocal ∧
          (pipeline.profile.decodeBeforeDispatch ∨ !entry.policy.lazyDecode) then
        pipeline.decodeFor lib result entry
      else result

/-- The results of one read, and the pipeline it leaves. After a framing error the only result
is the error itself. -/
def feed (data : InputSpan) : List DispatchResult × ProtocolPipeline :=
  let (packets, envelope) := pipeline.envelope.feed data
  if envelope.hasError then
    ([{ error := envelope.error }], { pipeline with envelope, error := envelope.error })
  else
    (packets.map (pipeline.dispatch lib), { pipeline with envelope, error := "" })

/-- `materialize_decode`: its return value, and the result it has updated. -/
def materializeDecode (result : DispatchResult) : Bool × DispatchResult :=
  if !result.ok ∨ result.action ≠ .decodeLocal then (result.ok, result)
  else if result.decoded then (true, result)
  else
    match result.route with
    | none =>
      (false, { result with error := "decode_local dispatch is missing route metadata" })
    | some route =>
      let result := pipeline.decodeFor lib result route
      (result.ok, result)

/-- Reads one after another, up to the first one that reports a framing error. -/
def feedChunks (lib : JsonLibrary) (pipeline : ProtocolPipeline) :
    List (List UInt8) → List DispatchResult
  | [] => []
  | chunk :: chunks =>
    let (results, next) := pipeline.feed lib (.bytes chunk)
    if next.error ≠ "" then results else results ++ next.feedChunks lib chunks

/-- A route found by id, and the body with the route entered in it. -/
def chosenById (body : DecodedBody) (routeId : UInt32) : Option (RouteEntry × DecodedBody) :=
  (pipeline.routes.find routeId).map fun route =>
    (route, { body with
      routeId := routeId
      routeName := if body.routeName = "" then route.debugName else body.routeName })

def chosenByName (body : DecodedBody) (routeName : String) : Option (RouteEntry × DecodedBody) :=
  (pipeline.routes.findByName routeName).map fun route =>
    (route, { body with routeId := route.routeId, routeName := routeName })

/-- The hints inside the message, in the order in which the sender tries them. -/
def chosenByMessage (body : DecodedBody) (message : Json) : Option (RouteEntry × DecodedBody) :=
  ((message.unsignedField? "route_id").bind (pipeline.chosenById body)).or <|
  ((message.unsignedField? "msg_id").bind (pipeline.chosenById body)).or <|
  ((message.stringField? "route").bind (pipeline.chosenByName body)).or <|
  (message.stringField? "method").bind (pipeline.chosenByName body)

def sawRouteHint (body : DecodedBody) : Bool :=
  body.routeId != 0 || body.routeName != "" || body.message.any messageContainsRouteHint

/-- The route of an outgoing body, and the body with the route entered in it. -/
def resolveOutboundRoute (body : DecodedBody) : Option (RouteEntry × DecodedBody) :=
  (if body.routeId ≠ 0 then pipeline.chosenById body body.routeId else none).or <|
  (if body.routeName ≠ "" then pipeline.chosenByName body body.routeName else none).or <|
  (body.message.bind (pipeline.chosenByMessage body)).or <|
  if sawRouteHint body then none
  else pipeline.routes.only.map fun route =>
    (route, { body with
      routeId := route.routeId
      routeName := if body.routeName = "" then route.debugName else body.routeName })

/-- The bytes of a message, or the error that `encode_message` leaves in the pipeline. -/
def encodeMessage (body : DecodedBody) : Except EncodeFault (List UInt8) :=
  match pipeline.resolveOutboundRoute body with
  | none => .error (.error "failed to resolve outbound route")
  | some (route, body) =>
    match pipeline.codecForRoute route with
    | none => .error (.error "body codec is not registered")
    | some codec =>
      match codec.encode lib body route with
      | .error what => .error (.error ("body encode failed: " ++ what))
      | .ok bytes =>
        pipeline.envelope.encodeFrame
          { routeId := route.routeId, kind := route.kind.toUInt16, body := bytes }

end ProtocolPipeline

namespace Json

def getBoolean : Json → Except String Bool
  | boolean b => .ok b
  | value => .error (value.typeError "boolean")

/-- `get` of an integer type, before the cast to its width. Only `std::size_t` does not take a
boolean. -/
def getInteger (truncate : UInt64 → Int) (booleans : Bool) : Json → Except String Int
  | integer n => .ok n
  | unsigned n => .ok n
  | float bits => .ok (truncate bits)
  | boolean b =>
    if booleans then .ok (if b then 1 else 0) else .error ((boolean b).typeError "number")
  | value => .error (value.typeError "number")

def valueOr {α : Type} (get : Json → Except String α) (value : Json) (key : String) (default : α) :
    Except String α :=
  if value.isObject then
    match value.field? key with
    | some member => get member
    | none => .ok default
  else .error ("[json.exception.type_error.306] cannot use value() with " ++ value.typeName)

end Json

def parseProtocolEndian : Json → Option Endian
  | .string text =>
    if text = "big" ∨ text = "be" then some .big
    else if text = "little" ∨ text = "le" then some .little
    else none
  | _ => none

def parseEnvelopeKind (value : String) : Option EnvelopeKind :=
  if value = "lenprefix" ∨ value = "len-prefix" ∨ value = "len_prefix" then some .lenPrefix
  else if value = "idlen" ∨ value = "id-len" ∨ value = "id_len" then some .idLen
  else if value = "typed_len" ∨ value = "type_len" ∨ value = "typed-len" ∨ value = "typelen" then
    some .typeLen
  else if value = "delimiter" ∨ value = "line" then some .delimiter
  else none

def parseRouteSource (value : String) : Option RouteSource :=
  if value = "header" ∨ value = "header.route_id" ∨ value = "header.msg_id" then some .header
  else if value = "body" ∨ value = "body.route" ∨ value = "body.route_id" then some .body
  else if value = "none" then some .none
  else none

def createBodyCodec (name : String) : Option BodyCodec :=
  if name = "raw" then some .raw
  else if name = "json" then some .json
  else if name ∈ ["msgpack", "protobuf", "fbs", "flatbuffers", "sproto"] then
    some (.passthrough name)
  else if name = "xmldef" ∨ name = "xml_def" then some (.passthrough "xmldef")
  else none

/-- What an exception of the JSON library leaves in `error`. -/
def orInvalid {α : Type} : Except String α → Except String α
  | .ok value => .ok value
  | .error what => .error ("invalid network.protocol: " ++ what)

/-- A member that is a word; everything else than a string is passed over. -/
def parsedWord {α : Type} (parse : String → Option α) (error : String) (value : Json) (key : String)
    (default : α) : Except String α :=
  match value.stringField? key with
  | none => .ok default
  | some word =>
    match parse word with
    | some parsed => .ok parsed
    | none => .error error

/-- `shield_protocol_codec_v1`. -/
structure ResolvedCodec where
  codecName : Option String
  decode : Option (RouteEntry → List UInt8 → Except PluginError (List UInt8))
  encode : Option (RouteEntry → List UInt8 → Except PluginError (List UInt8))

/-- `ProtocolBuildOptions`. The resolver gives a codec or a null pointer, and the text of its error;
`catalogs` gives the text of a catalog file, with a relative path taken from `source_dir`. -/
structure ProtocolBuildOptions where
  fallbackMaxFrameSize : Nat := 0
  externalCodecResolver : Option (String → String → Option ResolvedCodec × String) := none
  catalogs : String → Option String := fun _ => none

section Parts

variable (truncate : UInt64 → Int)

def buildEnvelopeKind (envelope : Json) : Except String EnvelopeKind :=
  match envelope.field? "type" with
  | none => .ok .lenPrefix
  | some type => do
    match parseEnvelopeKind (← orInvalid type.getString) with
    | some kind => return kind
    | none => .error "unknown network.protocol.envelope.type"

def buildEndian (envelope : Json) : Except String Endian :=
  match envelope.field? "endian" with
  | none => .ok .big
  | some endian =>
    match parseProtocolEndian endian with
    | some endian => .ok endian
    | none => .error "invalid network.protocol.envelope.endian"

/-- The first byte of the delimiter, if it is a string that is not empty. -/
def buildDelimiter (envelope : Json) : UInt8 :=
  match (envelope.stringField? "delimiter").bind (·.toList.head?) with
  | some ch => UInt8.ofNat ch.toNat
  | none => 10

variable (options : ProtocolBuildOptions)

/-- The part of the profile that `envelope` gives. -/
def buildEnvelope (envelope : Json) :
    Except String (EnvelopeKind × EnvelopeConfig) := do
  let (kind, config) ←
    if envelope.isObject then do
      let kind ← buildEnvelopeKind envelope
      let endian ← buildEndian envelope
      let lengthBytes ← orInvalid (envelope.valueOr (Json.getInteger truncate true) "length_bytes" 0)
      let routeIdBytes ←
        orInvalid (envelope.valueOr (Json.getInteger truncate true) "route_id_bytes" 0)
      let lengthIncludesHeader ←
        orInvalid (envelope.valueOr Json.getBoolean "length_includes_header" false)
      let maxFrameSize ←
        orInvalid (envelope.valueOr (Json.getInteger truncate false) "max_frame_size" 0)
      pure (kind, ({
        endian
        lengthBytes := (lengthBytes % 2 ^ 8).toNat
        routeIdBytes := (routeIdBytes % 2 ^ 8).toNat
        lengthIncludesHeader
        delimiter := buildDelimiter envelope
        maxFrameSize := (maxFrameSize % 2 ^ 64).toNat } : EnvelopeConfig))
    else pure (.lenPrefix, {})
  return (kind, { config with
    maxFrameSize :=
      if config.maxFrameSize = 0 ∧ 0 < options.fallbackMaxFrameSize then
        options.fallbackMaxFrameSize
      else config.maxFrameSize })

def buildExternalCodec (provider codec : String) :
    Except String BodyCodec :=
  match options.externalCodecResolver with
  | none =>
    .error ("network.protocol.body.provider is configured but no external codec resolver is " ++
      "available")
  | some resolver =>
    match resolver provider codec with
    | (none, error) =>
      .error (if error = "" then "failed to resolve network.protocol.body.provider" else error)
    | (some external, _) =>
      if external.codecName ≠ some codec then
        .error "network.protocol.body.provider does not serve network.protocol.body.codec"
      else if external.decode.isNone ∨ external.encode.isNone then
        .error "network.protocol.body.provider has incomplete vtable"
      else
        .ok (.external
          { provider, name := codec, decode := external.decode, encode := external.encode })

def buildCodec (body : Json) : Except String BodyCodec := do
  let codec ← orInvalid (body.valueOr Json.getString "codec" "raw")
  let provider ← orInvalid (body.valueOr Json.getString "provider" "")
  if provider ≠ "" then buildExternalCodec options provider codec
  else
    match createBodyCodec codec with
    | some codec => return codec
    | none => .error "unsupported network.protocol.body.codec"

/-- The part of the profile that `routing` gives. -/
def buildRouting (profile : ProtocolProfile) (routing : Json) : Except String ProtocolProfile :=
  if routing.isObject then do
    let routeSource ← parsedWord parseRouteSource "invalid network.protocol.routing.source" routing
      "source" profile.routeSource
    let decodeBodyRoute ← orInvalid (routing.valueOr Json.getBoolean "decode_body_route" true)
    let decodeBeforeDispatch ←
      orInvalid (routing.valueOr Json.getBoolean "decode_before_dispatch" false)
    let unknownRouteAction ← parsedWord parseAction
      "invalid network.protocol.routing.unknown_route_action" routing "unknown_route_action"
      profile.unknownRouteAction
    return { profile with routeSource, decodeBodyRoute, decodeBeforeDispatch, unknownRouteAction }
  else .ok profile

/-- `load_xmldef_routes_from_file`, with the path of the catalog as it stands in the body. -/
def loadXmldefRoutesFromFile (catalog : String)
    (routes : RouteTable) (catalogOptions : XmldefCatalogOptions) : RouteTable × Option String :=
  match options.catalogs catalog with
  | none => (routes, some "failed to open xmldef catalog")
  | some text => loadXmldefRoutesFromString text routes catalogOptions

/-- The routes of the catalog, which only the codec `xmldef` has. -/
def buildCatalogRoutes (codec : BodyCodec) (body routing : Json) :
    Except String RouteTable :=
  match if codec.name = "xmldef" then body.stringField? "catalog" else none with
  | none => .ok {}
  | some catalog => do
    let defaultAction ← parsedWord parseAction "invalid network.protocol.routing.default_action"
      routing "default_action" .decodeLocal
    let defaultLazyDecode ← orInvalid (routing.valueOr Json.getBoolean "lazy_decode" true)
    match loadXmldefRoutesFromFile options catalog {}
      { defaultCodecId := 1, defaultAction, defaultLazyDecode } with
    | (_, some error) => .error ("failed to load xmldef catalog: " ++ error)
    | (routes, none) => return routes

/-- A direction that is not known leaves the default. -/
def routeDirection (text : String) : RouteDirection := (parseDirection text).getD .clientToServer

def buildRoute (route : Json) : Except String RouteEntry := do
  let routeId ← orInvalid (route.valueOr (Json.getInteger truncate true) "id" 0)
  let direction ← orInvalid (route.valueOr Json.getString "direction" "c2s")
  let requiresAuth ← orInvalid (route.valueOr Json.getBoolean "requires_auth" true)
  let codecId ← orInvalid (route.valueOr (Json.getInteger truncate true) "codec_id" 1)
  let schemaId ← orInvalid (route.valueOr (Json.getInteger truncate true) "schema_id" 0)
  let debugName ← orInvalid (route.valueOr Json.getString "name" "")
  let lazyDecode ← orInvalid (route.valueOr Json.getBoolean "lazy_decode" true)
  let action ← parsedWord parseAction "invalid network.protocol.routes.action" route "action"
    .decodeLocal
  return {
    routeId := UInt32.ofNat (routeId % 2 ^ 32).toNat
    direction := routeDirection direction
    requiresAuth
    codecId := UInt16.ofNat (codecId % 2 ^ 16).toNat
    schemaId := UInt16.ofNat (schemaId % 2 ^ 16).toNat
    debugName
    policy := { action, lazyDecode } }

/-- The table with a route, unless another one has its name. -/
def insertRoute (routes : RouteTable) (entry : RouteEntry) : Except String RouteTable :=
  if entry.routeId = 0 then .error "network.protocol.routes[].id is required"
  else if entry.debugName ≠ "" ∧
      (routes.findByName entry.debugName).any (fun named => named.routeId != entry.routeId) then
    .error "network.protocol.routes contains duplicate name"
  else .ok (routes.upsert entry)

/-- The loop over the routes; what is no object is passed over. -/
def buildRoutes : RouteTable → List Json → Except String RouteTable
  | routes, [] => .ok routes
  | routes, route :: rest =>
    if route.isObject then do
      let entry ← buildRoute truncate route
      let routes ← insertRoute routes entry
      buildRoutes routes rest
    else buildRoutes routes rest

def routeItems (config : Json) : List Json :=
  match config.field? "routes" with
  | some (.array items) => items
  | _ => []

/-- The part of `build_protocol_pipeline_from_json` after the tests of the parsed configuration. -/
def buildPipeline (config : Json) :
    Except String ProtocolPipeline := do
  let _name ← orInvalid (config.valueOr Json.getString "name" "")
  let (envelopeKind, envelope) ←
    buildEnvelope truncate options ((config.field? "envelope").getD (.object []))
  let body := (config.field? "body").getD (.object [])
  let codec ← buildCodec options body
  let routing := (config.field? "routing").getD (.object [])
  let profile ← buildRouting
    { envelopeKind, envelope, defaultCodecId := 1,
      routeSource := defaultRouteSourceForEnvelope envelopeKind } routing
  let routes ← buildCatalogRoutes options codec body routing
  let routes ← buildRoutes truncate routes (routeItems config)
  return ProtocolPipeline.create profile routes (AList.singleton 1 codec)

/-- `build_protocol_pipeline_from_json`; without a text the error is not touched. -/
def buildProtocolPipelineFromJson (lib : JsonLibrary) (options : ProtocolBuildOptions)
    (configJson : List UInt8) : Except (Option String) ProtocolPipeline :=
  match lib.parse configJson with
  | .ok (.object (field :: fields)) =>
    (buildPipeline truncate options (.object (field :: fields))).mapError some
  | _ => .error none

end Parts

end ShieldRuntime.Transport
