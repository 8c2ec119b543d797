import ShieldRuntime.Lua.Requests
import ShieldRuntime.Net.SessionStep

/-!
# The gateway bridge

`LuaGatewayBridge` passes the packets of a session to the service that the session is bound to. It
reads the binding with one getter at a time, and other threads may change it between any two.
-/

namespace ShieldRuntime.Lua
open Transport Net

/-- A client message on its way to a service. -/
structure ClientIngress where
  gatewayServiceName : ServiceId := ""
  sessionId : UInt64 := 0
  sessionEpoch : UInt32 := 0
  playerId : String := ""
  protocolProfileId : String := ""
  routeId : UInt32 := 0
  bodyBytes : List UInt8 := []
  deriving DecidableEq, Repr

/-- What the getters return during one `on_packet`, in the order of the calls. The first
`player_id` is the one that is checked, the second the one that is sent. -/
structure SessionReads where
  checkedPlayerId : String := ""
  targetService : String := ""
  id : UInt64 := 0
  epoch : UInt32 := 0
  playerId : String := ""
  deriving DecidableEq, Repr

/-- Where the messages of a session go, and for which player. -/
structure Binding where
  targetService : String
  playerId : String
  epoch : UInt32
  deriving DecidableEq, Repr

/-- The binding after the first `n` setters. -/
def Binding.rebound (old new : Binding) : (n : Nat) → Binding
  | 0 => old
  | 1 => { old with targetService := new.targetService }
  | 2 => { new with epoch := old.epoch }
  | _ => new

/-- How many setters come before each getter of `on_packet`. -/
structure Interleaving where
  check : Nat
  target : Nat
  epoch : Nat
  player : Nat
  ordered : check ≤ target ∧ target ≤ epoch ∧ epoch ≤ player ∧ player ≤ 3

def Interleaving.reads (order : Interleaving) (id : UInt64) (old new : Binding) : SessionReads where
  checkedPlayerId := (old.rebound new order.check).playerId
  targetService := (old.rebound new order.target).targetService
  id := id
  epoch := (old.rebound new order.epoch).epoch
  playerId := (old.rebound new order.player).playerId

/-- What becomes of a packet: nothing, a warning, or a call of `send_client_ingress`. -/
inductive Admission where
  | ignored
  | rejected (warning : String)
  | ingress (target : ServiceId) (ingress : ClientIngress)
  deriving DecidableEq, Repr

/-- The bridge, with the service that authenticates clients. -/
structure LuaGatewayBridge where
  authServiceName : ServiceId
  deriving DecidableEq, Repr

namespace LuaGatewayBridge

def clientIngress (bridge : LuaGatewayBridge) (session : SessionReads) (packet : DispatchResult) :
    ClientIngress where
  gatewayServiceName := bridge.authServiceName
  sessionId := session.id
  sessionEpoch := session.epoch
  playerId := session.playerId
  routeId := packet.packet.routeId
  bodyBytes :=
    match packet.decodedBody with
    | some body => body.bytes
    | none => packet.packet.body

/-- `on_packet` up to `send_client_ingress`. -/
def admission (bridge : LuaGatewayBridge) (session : SessionReads) (packet : DispatchResult) :
    Admission :=
  if !packet.ok || packet.shouldDrop || packet.shouldForwardRaw then .ignored
  else
    let routeId := toString packet.packet.routeId.toNat
    match packet.route with
    | none => .rejected ("Unknown route_id: " ++ routeId)
    | some route =>
      if route.direction = .serverToClient then
        .rejected ("Rejected server_to_client route from client: " ++ routeId)
      else if route.requiresAuth && session.checkedPlayerId == "" then
        .rejected ("Rejected unauthenticated access to route: " ++ routeId)
      else if session.targetService = "" then
        .rejected ("Session has no target service, route_id: " ++ routeId)
      else .ingress session.targetService (bridge.clientIngress session packet)

/-- What becomes of each packet of a session. The `k`-th one finds the binding as in `reads k`. -/
def admissions (bridge : LuaGatewayBridge) (reads : Nat → SessionReads)
    (packets : List DispatchResult) : List Admission :=
  packets.mapIdx fun k packet => bridge.admission (reads k) packet

def ingressArgs (ingress : ClientIngress) : Json :=
  .array [.unsigned ingress.routeId.toNat,
    .object [("session_id", .unsigned ingress.sessionId.toNat),
      ("session_epoch", .unsigned ingress.sessionEpoch.toNat),
      ("player_id", .string ingress.playerId),
      ("gateway_service", .string ingress.gatewayServiceName)],
    .string (stringOf ingress.bodyBytes)]

/-- What `on_packet` does when it returns: a message to an actor, or else a warning or nothing. -/
inductive Effect where
  | none
  | warning (text : String)
  | sent (actor : Instance) (message : ServiceMessage)
  deriving Repr

section

variable (dump : JsonDump)

def sendClientIngress (registry : Registry) (target : ServiceId) (ingress : ClientIngress) :
    Except String Effect := do
  match ← sendSystem dump registry target "on_client_message" (ingressArgs ingress) with
  | .error error => return .warning ("Failed to queue ClientIngress: " ++ error)
  | .ok (actor, message) => return .sent actor message

def onPacket (bridge : LuaGatewayBridge) (registry : Registry) (session : SessionReads)
    (packet : DispatchResult) : Except String Effect :=
  match bridge.admission session packet with
  | .ignored => .ok .none
  | .rejected warning => .ok (.warning warning)
  | .ingress target ingress => sendClientIngress dump registry target ingress

end

end LuaGatewayBridge

end ShieldRuntime.Lua
