import ShieldRuntime.Library.StreamDecoder

/-!
# Packet envelopes and frames

The four framings of `transport/protocol.cpp`: a length prefix, a route id followed by a
length, a type id followed by a length, and a delimiter byte. `size_t` and `uint64_t` are
naturals below `2 ^ 64`, reduced where the code can exceed that. A `std::string` is a
`String` with one character per byte. A session without a pipeline has frames with an eight byte
header in network byte order.
-/

namespace ShieldRuntime.Transport
open Library

inductive Endian where
  | big
  | little
  deriving DecidableEq, Repr

inductive RouteSource where
  | none
  | header
  | body
  deriving DecidableEq, Repr

inductive EnvelopeKind where
  | lenPrefix
  | idLen
  | typeLen
  | delimiter
  deriving DecidableEq, Repr

/-- `Packet`, and `PacketRef` as the view of one. -/
structure Packet where
  routeId : UInt32 := 0
  kind : UInt16 := 0
  flags : UInt16 := 0
  seq : UInt32 := 0
  body : List UInt8 := []
  rawFrame : List UInt8 := []
  deriving DecidableEq, Repr

/-- The settings of an envelope. -/
structure EnvelopeConfig where
  endian : Endian := .big
  lengthBytes : Nat := 0
  routeIdBytes : Nat := 0
  lengthIncludesHeader : Bool := false
  delimiter : UInt8 := 10
  maxFrameSize : Nat := 0
  routeSource : RouteSource := .body
  deriving DecidableEq, Repr

/-- `std::numeric_limits<std::size_t>::max()`. -/
def sizeMax : Nat := 2 ^ 64 - 1

/-- `std::vector<std::uint8_t>::max_size()`. -/
def vectorMaxSize : Nat := 2 ^ 63 - 1

def validIntegerWidth (width : Nat) : Bool :=
  width == 1 || width == 2 || width == 4 || width == 8

def readUint (data : List UInt8) : Endian → Nat
  | .big => data.foldl (fun value byte => (value <<< 8) % 2 ^ 64 ||| byte.toNat) 0
  | .little =>
    data.zipIdx.foldl (fun value p => value ||| (p.1.toNat <<< (p.2 * 8)) % 2 ^ 64) 0

/-- The bytes appended to `out`. -/
def writeUint (value width : Nat) : Endian → List UInt8
  | .big => (List.range width).map fun i =>
      UInt8.ofNat ((value >>> ((width - 1 - i) * 8)) &&& 0xff)
  | .little => (List.range width).map fun i => UInt8.ofNat ((value >>> (i * 8)) &&& 0xff)

def fitsWidth (value width : Nat) : Bool :=
  if 8 ≤ width then true else decide (value < 2 ^ (width * 8))

def bodyLengthFromField (lengthField headerSize : Nat) (includesHeader : Bool) : Option Nat :=
  if !includesHeader then
    if sizeMax < lengthField then none else some lengthField
  else if lengthField < headerSize ∨ sizeMax < lengthField then none
  else some (lengthField - headerSize)

/-- The tail shared by the length-based loops, once the header has been read: the two
overflow tests, the size limit, and the cut of the frame. `name` starts the error texts. -/
def cutFrame (name : String) (config : EnvelopeConfig) (headerSize lengthField : Nat)
    (header : Packet) (buffer : List UInt8) : Look String Packet :=
  match bodyLengthFromField lengthField headerSize config.lengthIncludesHeader with
  | none => .fail (name ++ " frame length overflow")
  | some payloadLen =>
    if sizeMax - headerSize < payloadLen then .fail (name ++ " frame length overflow")
    else if 0 < config.maxFrameSize ∧ config.maxFrameSize < payloadLen then
      .fail (name ++ " frame too large")
    else if buffer.length < payloadLen + headerSize then .wait
    else
      .emit { header with
          body := (buffer.drop headerSize).take payloadLen
          rawFrame := buffer.take (payloadLen + headerSize) } (payloadLen + headerSize)

/-- One round of the loop of `LenPrefixEnvelope::feed`. -/
def LenPrefixEnvelope.look (config : EnvelopeConfig) (buffer : List UInt8) :
    Look String Packet :=
  let headerSize := config.lengthBytes
  if buffer.length < headerSize then .wait
  else
    let lengthField := readUint (buffer.take headerSize) config.endian
    cutFrame "lenprefix" config headerSize lengthField {} buffer

/-- The loop body of the two envelopes with an id field. `idError` is the text of the
overflow error, `header` what the id sets in the packet. -/
def idFrameLook (name idError : String) (header : Nat → Packet) (config : EnvelopeConfig)
    (buffer : List UInt8) : Look String Packet :=
  let headerSize := config.routeIdBytes + config.lengthBytes
  if buffer.length < headerSize then .wait
  else
    let id := readUint (buffer.take config.routeIdBytes) config.endian
    let lengthField :=
      readUint ((buffer.drop config.routeIdBytes).take config.lengthBytes) config.endian
    if 2 ^ 32 - 1 < id then .fail idError
    else cutFrame name config headerSize lengthField (header id) buffer

/-- One round of the loop of `IdLenEnvelope::feed`. -/
def IdLenEnvelope.look : EnvelopeConfig → List UInt8 → Look String Packet :=
  idFrameLook "idlen" "idlen route id overflow" fun id => { routeId := UInt32.ofNat id }

/-- One round of the loop of `TypeLenEnvelope::feed`. -/
def TypeLenEnvelope.look : EnvelopeConfig → List UInt8 → Look String Packet :=
  idFrameLook "typed_len" "typed_len type id overflow" fun id =>
    { routeId := UInt32.ofNat id, kind := UInt16.ofNat (id &&& 0xffff) }

/-- One round of the loop of `DelimiterEnvelope::feed`. -/
def DelimiterEnvelope.look (config : EnvelopeConfig) (buffer : List UInt8) :
    Look String Packet :=
  match buffer.findIdx? (· == config.delimiter) with
  | none =>
    if 0 < config.maxFrameSize ∧ config.maxFrameSize < buffer.length then
      .fail "delimiter frame too large"
    else .wait
  | some bodyLen =>
    if 0 < config.maxFrameSize ∧ config.maxFrameSize < bodyLen then
      .fail "delimiter frame too large"
    else
      .emit { body := buffer.take bodyLen, rawFrame := buffer.take (bodyLen + 1) } (bodyLen + 1)

/-- Why `encode` gives no frame: the `error_` text, or the `std::length_error` that
`out.reserve` throws beyond `max_size()`. -/
inductive EncodeFault where
  | error (message : String)
  | lengthError
  deriving DecidableEq, Repr

def LenPrefixEnvelope.encode (config : EnvelopeConfig) (packet : Packet) :
    Except EncodeFault (List UInt8) :=
  if !validIntegerWidth config.lengthBytes then .error (.error "invalid lenprefix length width")
  else
    let lengthField :=
      if config.lengthIncludesHeader then (packet.body.length + config.lengthBytes) % 2 ^ 64
      else packet.body.length
    if !fitsWidth lengthField config.lengthBytes then
      .error (.error "lenprefix payload length does not fit header")
    else if vectorMaxSize < config.lengthBytes + packet.body.length then .error .lengthError
    else .ok (writeUint lengthField config.lengthBytes config.endian ++ packet.body)

/-- `encode` of the two envelopes with an id field. -/
def idFrameEncode (name idError : String) (id : Packet → UInt32) (config : EnvelopeConfig)
    (packet : Packet) : Except EncodeFault (List UInt8) :=
  if !validIntegerWidth config.routeIdBytes || !validIntegerWidth config.lengthBytes then
    .error (.error ("invalid " ++ name ++ " integer width"))
  else if !fitsWidth (id packet).toNat config.routeIdBytes then .error (.error idError)
  else
    let lengthField :=
      if config.lengthIncludesHeader then
        (packet.body.length + config.routeIdBytes + config.lengthBytes) % 2 ^ 64
      else packet.body.length
    if !fitsWidth lengthField config.lengthBytes then
      .error (.error (name ++ " payload length does not fit header"))
    else if vectorMaxSize < config.routeIdBytes + config.lengthBytes + packet.body.length then
      .error .lengthError
    else
      .ok (writeUint (id packet).toNat config.routeIdBytes config.endian ++
        writeUint lengthField config.lengthBytes config.endian ++ packet.body)

def IdLenEnvelope.encode : EnvelopeConfig → Packet → Except EncodeFault (List UInt8) :=
  idFrameEncode "idlen" "idlen route id does not fit header" fun packet => packet.routeId

/-- The type id on the wire: the route id, or the kind of a packet without one. -/
def TypeLenEnvelope.typeId (packet : Packet) : UInt32 :=
  if packet.routeId ≠ 0 then packet.routeId else packet.kind.toUInt32

def TypeLenEnvelope.encode : EnvelopeConfig → Packet → Except EncodeFault (List UInt8) :=
  idFrameEncode "typed_len" "typed_len type id does not fit header" TypeLenEnvelope.typeId

def DelimiterEnvelope.encode (config : EnvelopeConfig) (packet : Packet) :
    Except EncodeFault (List UInt8) :=
  if vectorMaxSize < packet.body.length + 1 then .error .lengthError
  else .ok (packet.body ++ [config.delimiter])

/-- An envelope object: its kind, and the fields of the base class. -/
structure Envelope where
  kind : EnvelopeKind
  config : EnvelopeConfig
  buffer : List UInt8 := []
  error : String := ""
  deriving DecidableEq, Repr

/-- The argument pair `(data, size)` of `feed`. -/
inductive InputSpan where
  | null (size : Nat)
  | bytes (data : List UInt8)
  deriving DecidableEq, Repr

/-- The constructors of the four classes fill in default widths. -/
def envelopeConfig : EnvelopeKind → EnvelopeConfig → EnvelopeConfig
  | .lenPrefix, config =>
    { config with
      lengthBytes := if config.lengthBytes = 0 then 4 else config.lengthBytes
      routeIdBytes := 0
      routeSource := .body }
  | .idLen, config =>
    { config with
      routeIdBytes := if config.routeIdBytes = 0 then 2 else config.routeIdBytes
      lengthBytes := if config.lengthBytes = 0 then 2 else config.lengthBytes
      routeSource := .header }
  | .typeLen, config =>
    { config with
      routeIdBytes := if config.routeIdBytes = 0 then 1 else config.routeIdBytes
      lengthBytes := if config.lengthBytes = 0 then 4 else config.lengthBytes
      routeSource := .header }
  | .delimiter, config =>
    { config with lengthBytes := 0, routeIdBytes := 0, routeSource := .body }

def createEnvelope (kind : EnvelopeKind) (config : EnvelopeConfig) : Envelope :=
  { kind, config := envelopeConfig kind config }

def Envelope.hasError (env : Envelope) : Bool := env.error != ""

/-- The name that starts the texts of an envelope's errors. -/
def EnvelopeKind.label : EnvelopeKind → String
  | .lenPrefix => "lenprefix"
  | .idLen => "idlen"
  | .typeLen => "typed_len"
  | .delimiter => "delimiter"

/-- The width test at the start of `feed`, with the text of its error. -/
def Envelope.widthError (env : Envelope) : Option String :=
  match env.kind with
  | .lenPrefix =>
    if validIntegerWidth env.config.lengthBytes then none
    else some "invalid lenprefix length width"
  | .idLen =>
    if validIntegerWidth env.config.routeIdBytes && validIntegerWidth env.config.lengthBytes then
      none
    else some "invalid idlen integer width"
  | .typeLen =>
    if validIntegerWidth env.config.routeIdBytes && validIntegerWidth env.config.lengthBytes then
      none
    else some "invalid typed_len integer width"
  | .delimiter => none

def Envelope.look (env : Envelope) : List UInt8 → Look String Packet :=
  match env.kind with
  | .lenPrefix => LenPrefixEnvelope.look env.config
  | .idLen => IdLenEnvelope.look env.config
  | .typeLen => TypeLenEnvelope.look env.config
  | .delimiter => DelimiterEnvelope.look env.config

/-- The packets of one `feed` call and the envelope it leaves. Every error clears the
buffer; the packets cut before it are returned. -/
def Envelope.feed (env : Envelope) (data : InputSpan) : List Packet × Envelope :=
  match data with
  | .null (_ + 1) =>
    ([], { env with buffer := [], error := env.kind.label ++ " feed received null data" })
  | _ =>
    match env.widthError with
    | some message => ([], { env with buffer := [], error := message })
    | none =>
      let chunk := match data with
        | .bytes bytes => bytes
        | .null _ => []
      match decode env.look (env.buffer ++ chunk) with
      | (packets, .ok rest) => (packets, { env with buffer := rest, error := "" })
      | (packets, .error message) => (packets, { env with buffer := [], error := message })

/-- The frame of a packet, or why there is none; `encode` does not touch the buffer. -/
def Envelope.encodeFrame (env : Envelope) (packet : Packet) : Except EncodeFault (List UInt8) :=
  match env.kind with
  | .lenPrefix => LenPrefixEnvelope.encode env.config packet
  | .idLen => IdLenEnvelope.encode env.config packet
  | .typeLen => TypeLenEnvelope.encode env.config packet
  | .delimiter => DelimiterEnvelope.encode env.config packet

/-- Reads one after another, up to the first one that reports an error. -/
def Envelope.feedChunks (env : Envelope) : List (List UInt8) → List Packet × Envelope
  | [] => ([], env)
  | chunk :: chunks =>
    let r := env.feed (.bytes chunk)
    if r.2.hasError then r
    else
      let next := r.2.feedChunks chunks
      (r.1 ++ next.1, next.2)

/-- Any `feed` calls one after another, also after an error. -/
def Envelope.feedAll (env : Envelope) : List InputSpan → List Packet × Envelope
  | [] => ([], env)
  | data :: inputs =>
    let r := env.feed data
    let next := r.2.feedAll inputs
    (r.1 ++ next.1, next.2)

/-- The header of a frame. -/
structure FrameHeader where
  length : UInt32 := 0
  flags : UInt16 := 0
  type : UInt16 := 0
  deriving DecidableEq, Repr

def headerSize : Nat := 8

def FrameHeader.fromNetwork (data : List UInt8) : FrameHeader where
  length := (data.getD 0 0).toUInt32 <<< 24 ||| (data.getD 1 0).toUInt32 <<< 16 |||
    (data.getD 2 0).toUInt32 <<< 8 ||| (data.getD 3 0).toUInt32
  flags := (data.getD 4 0).toUInt16 <<< 8 ||| (data.getD 5 0).toUInt16
  type := (data.getD 6 0).toUInt16 <<< 8 ||| (data.getD 7 0).toUInt16

def FrameHeader.toNetwork (header : FrameHeader) : List UInt8 :=
  [((header.length >>> 24) &&& 0xFF).toUInt8, ((header.length >>> 16) &&& 0xFF).toUInt8,
    ((header.length >>> 8) &&& 0xFF).toUInt8, (header.length &&& 0xFF).toUInt8,
    ((header.flags >>> 8) &&& 0xFF).toUInt8, (header.flags &&& 0xFF).toUInt8,
    ((header.type >>> 8) &&& 0xFF).toUInt8, (header.type &&& 0xFF).toUInt8]

/-- A header and a payload. -/
structure Frame where
  header : FrameHeader
  payload : List UInt8
  deriving DecidableEq, Repr

namespace Frame

def construct (type : UInt16) (payload : List UInt8) : Frame where
  header := { length := UInt32.ofNat payload.length, type, flags := 0 }
  payload := payload

/-- What a caller can do with the reference that `mutable_payload` returns. -/
def mutablePayload (frame : Frame) (payload : List UInt8) : Frame := { frame with payload }

def serialize (frame : Frame) : List UInt8 := frame.header.toNetwork ++ frame.payload

/-- The result of `parse` and the frame it leaves: the header is assigned before the frame is
known to be complete. -/
def parse (frame : Frame) (data : List UInt8) : Bool × Frame :=
  if data.length < headerSize then (false, frame)
  else
    let header := FrameHeader.fromNetwork data
    if data.length - headerSize < header.length.toNat then (false, { frame with header })
    else (true, { header, payload := (data.drop headerSize).take header.length.toNat })

end Frame

/-- The decoder and the bytes it has not used up. -/
structure FrameDecoder where
  buffer : List UInt8 := []
  header : FrameHeader := {}
  needed : Nat := headerSize
  haveHeader : Bool := false
  maxFrameSize : Nat := 0
  error : String := ""
  deriving DecidableEq, Repr

namespace FrameDecoder

def reset (decoder : FrameDecoder) : FrameDecoder :=
  { decoder with buffer := [], needed := headerSize, haveHeader := false }

def tooLarge (decoder : FrameDecoder) (header : FrameHeader) : Bool :=
  0 < decoder.maxFrameSize && decoder.maxFrameSize < header.length.toNat

/-- The loop of `feed`. A round that goes on takes a header from the buffer, so the length of the
buffer bounds the rounds. -/
def drain : Nat → FrameDecoder → List Frame × FrameDecoder
  | 0, decoder => ([], decoder)
  | fuel + 1, decoder =>
    if decoder.buffer = [] then ([], decoder)
    else if !decoder.haveHeader && decoder.buffer.length < headerSize then
      ([], { decoder with needed := headerSize - decoder.buffer.length })
    else
      let header :=
        if decoder.haveHeader then decoder.header else FrameHeader.fromNetwork decoder.buffer
      if !decoder.haveHeader && decoder.tooLarge header then
        ([], { decoder with
          header
          error := "frame too large: " ++ toString header.length.toNat ++ " bytes (max " ++
            toString decoder.maxFrameSize ++ ")" }.reset)
      else
        let needed := if decoder.haveHeader then decoder.needed else header.length.toNat
        if decoder.buffer.length < headerSize + needed then
          ([], { decoder with header, needed, haveHeader := true })
        else
          let next := drain fuel { decoder with
            header
            buffer := decoder.buffer.drop (headerSize + header.length.toNat)
            haveHeader := false
            needed := headerSize }
          ({ header, payload := (decoder.buffer.drop headerSize).take header.length.toNat } :: next.1,
            next.2)

def feed (decoder : FrameDecoder) (data : List UInt8) : List Frame × FrameDecoder :=
  let buffer := decoder.buffer ++ data
  drain (buffer.length + 1) { decoder with buffer, error := "" }

/-- Calls of `feed` one after another, also after an error. -/
def feedAll (decoder : FrameDecoder) : List (List UInt8) → List Frame × FrameDecoder
  | [] => ([], decoder)
  | data :: inputs =>
    let r := decoder.feed data
    let next := r.2.feedAll inputs
    (r.1 ++ next.1, next.2)

end FrameDecoder

end ShieldRuntime.Transport
