import ShieldRuntime.Library.Delimited
import ShieldRuntime.Lua.Values

/-!
# The JWT authentication plugin

`plugins/auth_jwt`: the base64url codec, the reading and writing of small JSON texts, the
configuration of an instance, tokens, and the calls of the interface. A `std::string` is the list of
its bytes and a C string the list of the bytes before its NUL. An `int` that may wrap is a
`BitVec 32`. The HMAC is a parameter. An overflow of a signed 64-bit integer is undefined and
`none`. A null pointer is `none` as well, and what a call reads of the clock is an argument.
-/

namespace ShieldRuntime.Plugins

open Library Lua Transport

def b64urlTable : List UInt8 :=
  bytesOf "ABCDEFGHIJKLMNOPQRSTUVWXYZabcdefghijklmnopqrstuvwxyz0123456789-_"

def b64urlChar (sextet : BitVec 32) : UInt8 := b64urlTable.getD (sextet &&& 0x3F).toNat 0

/-- The inner loop of `b64url_encode`: the characters it writes and the bits that are left. The
argument is `valb + 6`, the number of bits of `val` that are not written yet. -/
def writeSextets (val : BitVec 32) : (pending : Nat) → List UInt8 × Nat
  | valb + 6 =>
    let (out, pending) := writeSextets val valb
    (b64urlChar (val.sshiftRight valb) :: out, pending)
  | pending => ([], pending)

/-- The loop of `b64url_encode` and the bits after it; `pending` is `valb + 6`. -/
def encodeFrom (val : BitVec 32) (pending : Nat) : List UInt8 → List UInt8
  | [] => if 0 < pending then [b64urlChar ((val <<< 8).sshiftRight (pending + 2))] else []
  | b :: rest =>
    let val := (val <<< 8) ||| b.toBitVec.zeroExtend 32
    let (out, pending) := writeSextets val (pending + 8)
    out ++ encodeFrom val pending rest

def b64urlEncode (data : List UInt8) : List UInt8 := encodeFrom 0 0 data

/-- `b64url_val`; `none` is `-1`. -/
def b64urlVal? (c : UInt8) : Option Nat :=
  if 65 ≤ c ∧ c ≤ 90 then some (c.toNat - 65)
  else if 97 ≤ c ∧ c ≤ 122 then some (c.toNat - 97 + 26)
  else if 48 ≤ c ∧ c ≤ 57 then some (c.toNat - 48 + 52)
  else if c = 45 then some 62
  else if c = 95 then some 63
  else none

/-- The loop of `b64url_decode`; `pending` is `valb + 8`. A character that is not in the table is
skipped. -/
def decodeFrom (val : BitVec 32) (pending : Nat) : List UInt8 → List UInt8
  | [] => []
  | c :: rest =>
    match b64urlVal? c with
    | none => decodeFrom val pending rest
    | some d =>
      let val := (val <<< 6) ||| BitVec.ofNat 32 d
      if 8 ≤ pending + 6 then
        UInt8.ofNat (val.sshiftRight (pending + 6 - 8) &&& 0xFF).toNat ::
          decodeFrom val (pending + 6 - 8) rest
      else decodeFrom val (pending + 6) rest

def b64urlDecode (s : List UInt8) : List UInt8 := decodeFrom 0 0 s

/-- The switch of `json_escape`. -/
def escapeChar (c : UInt8) : List UInt8 :=
  if c = 34 then bytesOf "\\\""
  else if c = 92 then bytesOf "\\\\"
  else if c = 8 then bytesOf "\\b"
  else if c = 12 then bytesOf "\\f"
  else if c = 10 then bytesOf "\\n"
  else if c = 13 then bytesOf "\\r"
  else if c = 9 then bytesOf "\\t"
  else if c < 0x20 then bytesOf "\\u00" ++ [hexDigit (c.toNat / 16), hexDigit (c.toNat % 16)]
  else [c]

def jsonEscape (s : List UInt8) : List UInt8 := s.flatMap escapeChar

/-- The text after the colon that follows the first occurrence of the key between quotes, without
blanks. -/
def valueAfter? (j key : List UInt8) : Option (List UInt8) :=
  ((afterFirst (34 :: key ++ [34]) j).bind (afterFirst [58])).map
    (List.dropWhile fun b => b = 32 ∨ b = 9)

/-- The loop of `json_get_string` up to the closing quote. -/
def readString : List UInt8 → List UInt8
  | [] => []
  | [b] => if b = 34 then [] else [b]
  | b :: c :: rest =>
    if b = 34 then []
    else if b = 92 then c :: readString rest
    else b :: readString (c :: rest)

def jsonGetString (j key : List UInt8) : List UInt8 :=
  match valueAfter? j key with
  | some (34 :: rest) => readString rest
  | _ => []

/-- The loop of `json_get_int` over the digits. -/
def readDigits? (v : Int) : List UInt8 → Option Int
  | [] => some v
  | b :: rest =>
    if 48 ≤ b ∧ b ≤ 57 then
      let next := v * 10 + (b.toNat - 48 : Nat)
      if next < 2 ^ 63 then readDigits? next rest else none
    else some v

def jsonGetInt (j key : List UInt8) : Option Int :=
  match valueAfter? j key with
  | some (45 :: rest) => (readDigits? 0 rest).map (- ·)
  | some rest => readDigits? 0 rest
  | none => some 0

/-- The settings, with their defaults. -/
structure AuthConfig where
  secret : List UInt8 := []
  issuer : List UInt8 := []
  audience : List UInt8 := []
  tokenTtlSeconds : Int := 3600
  leewaySeconds : Int := 60
deriving DecidableEq, Repr

/-- `get_int`: a number, or the default in place of zero. -/
def getIntOr (s key : List UInt8) (default : Int) : Option Int :=
  (jsonGetInt s key).map fun v => if v ≠ 0 then toInt32 v else default

def parseConfig (configJson : Option (List UInt8)) : Option AuthConfig :=
  match configJson with
  | none => some {}
  | some s => do
    let ttl ← getIntOr s (bytesOf "token_ttl_seconds") 3600
    let leeway ← getIntOr s (bytesOf "leeway_seconds") 60
    return {
      secret := jsonGetString s (bytesOf "secret")
      issuer := jsonGetString s (bytesOf "issuer")
      audience := jsonGetString s (bytesOf "audience")
      tokenTtlSeconds := ttl
      leewaySeconds := leeway }

/-- The `config_schema` of the manifest. -/
def authConfigSchema : Json :=
  .object [
    ("type", .string "object"),
    ("required", .array [.string "secret"]),
    ("properties", .object [
      ("secret", .object [("type", .string "string"), ("secret", .boolean true)]),
      ("issuer", .object [("type", .string "string")]),
      ("audience", .object [("type", .string "string")]),
      ("token_ttl_seconds", .object [("type", .string "integer"), ("default", .integer 3600),
        ("minimum", .integer 1), ("maximum", .integer 86400)]),
      ("leeway_seconds", .object [("type", .string "integer"), ("default", .integer 60),
        ("minimum", .integer 0), ("maximum", .integer 3600)])])]

def int64? (n : Int) : Option Int := if -2 ^ 63 ≤ n ∧ n < 2 ^ 63 then some n else none

def headerJson : List UInt8 := bytesOf "\x7b\"alg\":\"HS256\",\"typ\":\"JWT\"\x7d"

/-- A member with a string, which is left out if the string is empty. -/
def optionalMember (name : String) (value : List UInt8) : List UInt8 :=
  if value = [] then [] else bytesOf (",\"" ++ name ++ "\":\"") ++ jsonEscape value ++ bytesOf "\""

def payloadJson (cfg : AuthConfig) (userId : List UInt8) (now expiry : Int) : List UInt8 :=
  bytesOf "\x7b\"sub\":\"" ++ jsonEscape userId ++ bytesOf "\"" ++
    bytesOf ",\"iat\":" ++ bytesOf (toString now) ++
    bytesOf ",\"exp\":" ++ bytesOf (toString expiry) ++
    optionalMember "iss" cfg.issuer ++ optionalMember "aud" cfg.audience ++ bytesOf "\x7d"

/-- `exp && now > exp + cfg.leeway_seconds`. -/
def isExpired (cfg : AuthConfig) (now : Int) (payload : List UInt8) : Option Bool := do
  let exp ← jsonGetInt payload (bytesOf "exp")
  if exp = 0 then return false
  else return (← int64? (exp + cfg.leewaySeconds)) < now

/-- `iat && now + cfg.leeway_seconds < iat`. -/
def isEarly (cfg : AuthConfig) (now : Int) (payload : List UInt8) : Option Bool := do
  let iat ← jsonGetInt payload (bytesOf "iat")
  if iat = 0 then return false
  else return (← int64? (now + cfg.leewaySeconds)) < iat

/-- A member that the configuration asks for is another one. -/
def isForeign (payload : List UInt8) (key : String) (configured : List UInt8) : Bool :=
  configured ≠ [] ∧ jsonGetString payload (bytesOf key) ≠ configured

/-- The checks of `verify_jwt` on the payload: the user id or the error. -/
def checkClaims (cfg : AuthConfig) (now : Int) (payload : List UInt8) :
    Option (Except String (List UInt8)) := do
  if ← isExpired cfg now payload then return .error "token_expired"
  else
    if ← isEarly cfg now payload then return .error "token_not_yet_valid"
    else if isForeign payload "iss" cfg.issuer then return .error "invalid_issuer"
    else if isForeign payload "aud" cfg.audience then return .error "invalid_audience"
    else
      let userId := jsonGetString payload (bytesOf "sub")
      if userId = [] then return .error "missing_subject" else return .ok userId

def splitDot? (text : List UInt8) : Option (List UInt8 × List UInt8) :=
  (afterFirst [46] text).map fun rest => (text.takeWhile (· ≠ 46), rest)

section

variable (hmac : (key msg : List UInt8) → List UInt8)

def createJwt (cfg : AuthConfig) (userId : List UInt8) (now : Int) : Option (List UInt8) :=
  (int64? (now + cfg.tokenTtlSeconds)).map fun expiry =>
    let signingInput := b64urlEncode headerJson ++ [46] ++
      b64urlEncode (payloadJson cfg userId now expiry)
    signingInput ++ [46] ++ b64urlEncode (hmac cfg.secret signingInput)

def verifyJwt (cfg : AuthConfig) (token : List UInt8) (now : Int) :
    Option (Except String (List UInt8)) :=
  match splitDot? token with
  | none => some (.error "invalid_token_format")
  | some (header, rest) =>
    match splitDot? rest with
    | none => some (.error "invalid_token_format")
    | some (payload, signature) =>
      if hmac cfg.secret (header ++ [46] ++ payload) ≠ b64urlDecode signature then
        some (.error "invalid_signature")
      else checkClaims cfg now (b64urlDecode payload)

end

/-- An instance and the tokens it has invalidated. -/
structure AuthInstance where
  cfg : AuthConfig
  blacklist : List (List UInt8) := []
deriving DecidableEq, Repr

/-- What a call of the interface fills in. -/
structure AuthResult where
  success : Int
  errorCode : Option String
  errorMsg : Option String
  userId : Option (List UInt8)
  token : Option (List UInt8)
  tokenExpiryMs : Int
  rolesJson : Option String
  extraJson : Option String
deriving DecidableEq, Repr

/-- `dup_cstr` of a `std::string`. -/
def dupCstr (s : List UInt8) : List UInt8 := s.takeWhile (· ≠ 0)

namespace AuthInstance

variable (hmac : (key msg : List UInt8) → List UInt8) (inst : AuthInstance)

/-- `out` is the result as the caller passes it. -/
def authenticate (token : Option (List UInt8)) (out : AuthResult) (now : Int) :
    Option (Int × AuthResult) :=
  match token with
  | none => some (-1, out)
  | some token =>
    if token ∈ inst.blacklist then
      some (-1,
        { out with
          success := 0
          errorCode := some "token_revoked"
          errorMsg := some "token has been invalidated" })
    else
      (verifyJwt hmac inst.cfg token now).map fun
        | .ok userId => (0, ⟨1, none, none, some (dupCstr userId), none, 0, none, none⟩)
        | .error err => (-1, ⟨0, some err, some err, none, none, 0, none, none⟩)

/-- The clock is read for the checks, for the new token and for its expiry. -/
def refreshToken (token : Option (List UInt8)) (out : AuthResult) (now created stamped : Int) :
    Option (Int × AuthResult) :=
  match token with
  | none => some (-1, out)
  | some token => do
    match ← verifyJwt hmac inst.cfg token now with
    | .error err => return (-1, { out with success := 0, errorCode := some err, errorMsg := some err })
    | .ok userId =>
      let newToken ← createJwt hmac inst.cfg userId created
      let expiry ← int64? (stamped + inst.cfg.tokenTtlSeconds)
      let expiryMs ← int64? (expiry * 1000)
      return (0, ⟨1, none, none, some (dupCstr userId), some (dupCstr newToken), expiryMs, none, none⟩)

def invalidate (token : Option (List UInt8)) : Int × AuthInstance :=
  match token with
  | none => (-1, inst)
  | some token => (0, { inst with blacklist := token :: inst.blacklist })

end AuthInstance

/-! Runs: the calls on one instance; only `invalidate` changes it. -/

inductive AuthCall
  | authenticate (token : Option (List UInt8)) (now : Int)
  | refreshToken (token : Option (List UInt8)) (now created stamped : Int)
  | invalidate (token : Option (List UInt8))
deriving DecidableEq

def AuthInstance.step (inst : AuthInstance) : AuthCall → Option AuthInstance
  | .authenticate _ _ => some inst
  | .refreshToken _ _ _ _ => some inst
  | .invalidate token => some (inst.invalidate token).2

end ShieldRuntime.Plugins
