import ShieldRuntime.Lua.GatewayBridge
import ShieldRuntime.Proofs.PipelineStream
import ShieldRuntime.Proofs.SentinelText

/-!
# Admission and delivery at the gateway

Every packet that a session delivers has a route of the table and the id of that route in its
header. `on_packet` reads the binding of the session with one getter after another, and an admitted
packet becomes one `on_client_message`.
-/

namespace ShieldRuntime.Proofs
open Library Transport Net Lua

section Origin

variable (lib : JsonLibrary)

lemma feed_pipeline_eq (pipeline : ProtocolPipeline) (data : InputSpan) :
    ∃ envelope error, (pipeline.feed lib data).2 = { pipeline with envelope, error } := by
  simp only [ProtocolPipeline.feed]
  split <;> exact ⟨_, _, rfl⟩

variable {pipeline : ProtocolPipeline} {packet : DispatchResult} {session : TcpSession}

lemma feed_origin {data : InputSpan} {result : DispatchResult}
    (hmem : result ∈ (pipeline.feed lib data).1) (herror : (pipeline.feed lib data).2.error = "") :
    ∃ packet, result = pipeline.dispatch lib packet := by
  simp only [ProtocolPipeline.feed] at hmem herror
  split at hmem
  · rename_i hfault
    rw [if_pos hfault] at herror
    -- The flag of the envelope is set exactly if it has an error text.
    exact absurd herror (by simpa [Envelope.hasError] using hfault)
  · obtain ⟨packet, -, rfl⟩ := List.mem_map.mp hmem
    exact ⟨packet, rfl⟩

lemma deliver_origin {results : List DispatchResult}
    (h : packet ∈ (TcpSession.deliver lib pipeline results).1) :
    ∃ result ∈ results, packet = (TcpSession.prepare lib pipeline result).2 := by
  induction results with
  | nil => cases h
  | cons result results ih =>
    have hrest : packet ∈ (TcpSession.deliver lib pipeline results).1 →
        ∃ other ∈ result :: results, packet = (TcpSession.prepare lib pipeline other).2 := by
      intro hmem
      obtain ⟨other, hother, heq⟩ := ih hmem
      exact ⟨other, List.mem_cons_of_mem _ hother, heq⟩
    rw [TcpSession.deliver] at h
    split at h
    · cases h
    split at h
    · exact hrest h
    split at h
    · cases h
    rcases List.mem_cons.mp h with heq | hmem
    · exact ⟨result, List.mem_cons_self, heq⟩
    · exact hrest hmem

lemma onRead_pipeline (session : TcpSession) (data : List UInt8) :
    ∃ envelope error,
      (session.onRead lib data).2.pipeline = { session.pipeline with envelope, error } := by
  unfold TcpSession.onRead
  split
  · exact ⟨_, _, rfl⟩
  · simp only
    split <;> exact feed_pipeline_eq lib session.pipeline (.bytes data)

lemma onRead_origin {data : List UInt8} (h : packet ∈ (session.onRead lib data).1) :
    ∃ raw, packet = (TcpSession.prepare lib session.pipeline
      (session.pipeline.dispatch lib raw)).2 := by
  unfold TcpSession.onRead at h
  split at h
  · cases h
  simp only at h
  split at h
  · cases h
  rename_i herror
  obtain ⟨result, hresult, heq⟩ := deliver_origin lib h
  obtain ⟨raw, rfl⟩ := feed_origin lib hresult (not_not.mp herror)
  obtain ⟨envelope, error, hnext⟩ := feed_pipeline_eq lib session.pipeline (.bytes data)
  rw [hnext] at heq
  exact ⟨raw, heq⟩

lemma received_origin {reads : List (List UInt8)}
    (h : packet ∈ TcpSession.received lib session reads) :
    ∃ raw, packet = (TcpSession.prepare lib session.pipeline
      (session.pipeline.dispatch lib raw)).2 := by
  induction reads generalizing session with
  | nil => cases h
  | cons data reads ih =>
    have hsplit : packet ∈ (session.onRead lib data).1 ++
        TcpSession.received lib (session.onRead lib data).2 reads := h
    rcases List.mem_append.mp hsplit with hmem | hmem
    · exact onRead_origin lib hmem
    obtain ⟨raw, heq⟩ := ih hmem
    obtain ⟨envelope, error, hnext⟩ := onRead_pipeline lib session data
    rw [hnext] at heq
    exact ⟨raw, heq⟩

end Origin

section Routes

/-- A chosen route is in the table and has the packet's id. -/
def Routed (routes : RouteTable) (packet : Packet) (route : Option RouteEntry) : Prop :=
  ∀ entry, route = some entry →
    routes.find entry.routeId = some entry ∧ packet.routeId = entry.routeId

lemma routed_find {routes : RouteTable} {packet : Packet} {route : Option RouteEntry}
    (h : routes.find packet.routeId = route) : Routed routes packet route := by
  rintro entry rfl
  have hid := RouteTable.routeId_of_find h
  exact ⟨hid ▸ h, hid.symm⟩

section

variable (lib : JsonLibrary) (pipeline : ProtocolPipeline)
include lib pipeline

lemma resolveRoute_routed (packet : Packet) :
    Routed pipeline.routes (pipeline.resolveRoute lib packet).1
      (pipeline.resolveRoute lib packet).2.1 := by
  rcases resolveRoute_cases lib pipeline packet with ⟨id, heq⟩ | ⟨error, heq⟩
  · rw [heq]
    exact routed_find rfl
  · rw [heq]
    exact fun _ h => nomatch h

lemma dispatch_packet (packet : Packet) :
    (pipeline.dispatch lib packet).packet = (pipeline.resolveRoute lib packet).1 ∧
      (pipeline.dispatch lib packet).route = (pipeline.resolveRoute lib packet).2.1 := by
  simp only [ProtocolPipeline.dispatch]
  split
  · exact ⟨rfl, rfl⟩
  split
  · exact ⟨rfl, rfl⟩
  split
  · exact ⟨decodeFor_packet .., decodeFor_route ..⟩
  · exact ⟨rfl, rfl⟩

lemma prepare_packet (result : DispatchResult) :
    (TcpSession.prepare lib pipeline result).2.packet = result.packet ∧
      (TcpSession.prepare lib pipeline result).2.route = result.route := by
  unfold TcpSession.prepare
  split
  · unfold ProtocolPipeline.materializeDecode
    split
    · exact ⟨rfl, rfl⟩
    split
    · exact ⟨rfl, rfl⟩
    split
    · exact ⟨rfl, rfl⟩
    · exact ⟨decodeFor_packet .., decodeFor_route ..⟩
  · exact ⟨rfl, rfl⟩

end

lemma received_routed {lib : JsonLibrary} {session : TcpSession} {reads : List (List UInt8)}
    {packet : DispatchResult} (h : packet ∈ TcpSession.received lib session reads) :
    Routed session.pipeline.routes packet.packet packet.route := by
  obtain ⟨raw, rfl⟩ := received_origin lib h
  obtain ⟨hpacket, hroute⟩ := prepare_packet lib session.pipeline
    (session.pipeline.dispatch lib raw)
  obtain ⟨hpacket', hroute'⟩ := dispatch_packet lib session.pipeline raw
  rw [hpacket, hroute, hpacket', hroute']
  exact resolveRoute_routed lib session.pipeline raw

end Routes

/-- The packet may go on: its route is for clients, and the session has what it asks for. -/
def Admissible (session : SessionReads) (packet : DispatchResult) (route : RouteEntry) : Prop :=
  packet.ok = true ∧ packet.shouldDrop = false ∧ packet.shouldForwardRaw = false ∧
    packet.route = some route ∧ route.direction ≠ .serverToClient ∧
    (route.requiresAuth = false ∨ session.checkedPlayerId ≠ "") ∧ session.targetService ≠ ""

lemma admission_eq_ingress_iff (bridge : LuaGatewayBridge) (session : SessionReads)
    (packet : DispatchResult) (target : ServiceId) (ingress : ClientIngress) :
    bridge.admission session packet = .ingress target ingress ↔
      (∃ route, Admissible session packet route) ∧ target = session.targetService ∧
        ingress = bridge.clientIngress session packet := by
  unfold LuaGatewayBridge.admission Admissible
  cases hok : packet.ok <;> cases hdrop : packet.shouldDrop <;>
    cases hraw : packet.shouldForwardRaw <;> simp
  cases hroute : packet.route with
  | none => simp
  | some route =>
    by_cases hdirection : route.direction = .serverToClient
    · simp [hdirection]
    by_cases hauth : route.requiresAuth = true ∧ session.checkedPlayerId = ""
    · simp [hdirection, hauth]
    have hallowed : route.requiresAuth = false ∨ session.checkedPlayerId ≠ "" := by
      cases hrequires : route.requiresAuth with
      | false => exact .inl rfl
      | true => exact .inr fun hplayer => hauth ⟨hrequires, hplayer⟩
    by_cases htarget : session.targetService = ""
    · simp [hdirection, hauth, htarget]
    dsimp only
    rw [if_neg hdirection, if_neg hauth, if_neg htarget, Admission.ingress.injEq]
    constructor
    · rintro ⟨rfl, rfl⟩
      exact ⟨⟨route, rfl, hdirection, hallowed, htarget⟩, rfl, rfl⟩
    · rintro ⟨-, rfl, rfl⟩
      exact ⟨rfl, rfl⟩

lemma forwarded_route {lib : JsonLibrary} {session : TcpSession} {bridge : LuaGatewayBridge}
    {chunks : List (List UInt8)} {reads : SessionReads} {packet : DispatchResult}
    {target : ServiceId} {ingress : ClientIngress}
    (hpacket : packet ∈ TcpSession.received lib session chunks)
    (hadmission : bridge.admission reads packet = .ingress target ingress) :
    ∃ route, Admissible reads packet route ∧
      session.pipeline.routes.find route.routeId = some route ∧
      target = reads.targetService ∧ ingress.routeId = route.routeId := by
  obtain ⟨⟨route, hroute⟩, htarget, rfl⟩ :=
    (admission_eq_ingress_iff bridge reads packet target ingress).mp hadmission
  obtain ⟨hfind, hid⟩ := received_routed hpacket route hroute.2.2.2.1
  exact ⟨route, hroute, hfind, htarget, hid⟩

/-- For every pipeline, every stream in every segmentation and every way in which the binding of
the session changes: what is forwarded came over a stored route that clients may use, from a
session with a target and with a player wherever the route asks for one, and it is forwarded
under the id of that route. -/
theorem gateway_admission (lib : JsonLibrary) (session : TcpSession) (bridge : LuaGatewayBridge)
    (chunks : List (List UInt8)) (reads : Nat → SessionReads) (k : Nat) (target : ServiceId)
    (ingress : ClientIngress)
    (h : (bridge.admissions reads (TcpSession.received lib session chunks))[k]? =
      some (.ingress target ingress)) :
    ∃ packet route, (TcpSession.received lib session chunks)[k]? = some packet ∧
      packet.route = some route ∧
      session.pipeline.routes.find route.routeId = some route ∧
      route.direction ≠ .serverToClient ∧
      (route.requiresAuth = false ∨ (reads k).checkedPlayerId ≠ "") ∧
      target = (reads k).targetService ∧ target ≠ "" ∧
      ingress.routeId = route.routeId := by
  rw [LuaGatewayBridge.admissions, List.getElem?_mapIdx] at h
  obtain ⟨packet, hpacket, hadmission⟩ := Option.map_eq_some_iff.mp h
  obtain ⟨route, ⟨-, -, -, hroute, hdirection, hauth, htarget⟩, hfind, rfl, hid⟩ :=
    forwarded_route (List.mem_of_getElem? hpacket) hadmission
  exact ⟨packet, route, hpacket, hroute, hfind, hdirection, hauth, rfl, htarget, hid⟩

def loginSession : TcpSession where
  pipeline := .create { envelope := { lengthBytes := 1 } }
    (RouteTable.upsert {} { routeId := 7, debugName := "login" })
    ((∅ : AList fun _ : UInt16 => BodyCodec).insert 0 .json)

def loginText : List UInt8 := bytesOf "\x7b\"route\":\"login\"\x7d"

def loginLibrary : JsonLibrary := textLibrary [(loginText, .object [("route", .string "login")])]

theorem gateway_admission_login :
    ∃ packet route, (TcpSession.received loginLibrary loginSession [[17], loginText])[0]? =
        some packet ∧
      packet.route = some route ∧
      loginSession.pipeline.routes.find route.routeId = some route ∧
      route.direction ≠ .serverToClient ∧
      (route.requiresAuth = false ∨ "p1" ≠ "") ∧ "game" = "game" ∧ "game" ≠ "" ∧
      (7 : UInt32) = route.routeId :=
  gateway_admission loginLibrary loginSession ⟨"auth"⟩ [[17], loginText]
    (fun _ => { checkedPlayerId := "p1", targetService := "game", playerId := "p1" }) 0 "game"
    { gatewayServiceName := "auth", playerId := "p1", routeId := 7, bodyBytes := loginText } rfl

section Fields

variable (old new : Binding) (n : Nat)

lemma rebound_targetService : (old.rebound new n).targetService =
    if n = 0 then old.targetService else new.targetService := by
  unfold Binding.rebound
  split <;> simp_all

lemma rebound_playerId :
    (old.rebound new n).playerId = if n ≤ 1 then old.playerId else new.playerId := by
  unfold Binding.rebound
  split <;> simp_all
  omega

lemma rebound_epoch : (old.rebound new n).epoch = if n ≤ 2 then old.epoch else new.epoch := by
  unfold Binding.rebound
  split <;> simp_all
  omega

end Fields

/-- What is sent carries one of the two bindings, and a player wherever the route asks for one. -/
def CarriesBinding (old new : Binding) (packet : DispatchResult) (target : ServiceId)
    (ingress : ClientIngress) : Prop :=
  (Binding.mk target ingress.playerId ingress.sessionEpoch = old ∨
    Binding.mk target ingress.playerId ingress.sessionEpoch = new) ∧
  ∀ route, packet.route = some route → route.requiresAuth = true → ingress.playerId ≠ ""

def guardedPacket : DispatchResult :=
  { route := some { requiresAuth := true }, action := .decodeLocal }

lemma guarded_sent (bridge : LuaGatewayBridge) {reads : SessionReads}
    (hplayer : reads.checkedPlayerId ≠ "") (htarget : reads.targetService ≠ "") :
    bridge.admission reads guardedPacket =
      .ingress reads.targetService (bridge.clientIngress reads guardedPacket) :=
  (admission_eq_ingress_iff bridge reads guardedPacket _ _).mpr
    ⟨⟨_, rfl, rfl, rfl, rfl, by decide, .inr hplayer, htarget⟩, rfl, rfl⟩

/-- Whatever is rebound to what, the messages that are sent carry one binding, if and only if the
getters come before the setters or after them, as far as they read what is set. -/
theorem ingress_binding_iff (bridge : LuaGatewayBridge) (id : UInt64) (order : Interleaving) :
    (∀ old new packet target ingress,
        bridge.admission (order.reads id old new) packet = .ingress target ingress →
          CarriesBinding old new packet target ingress) ↔
      order.target = 0 ∧ order.player ≤ 1 ∨ 2 ≤ order.check ∧ order.epoch = 3 := by
  obtain ⟨check, target, epoch, player, hct, hte, hep, hlast⟩ := order
  simp only [Interleaving.reads, rebound_targetService, rebound_playerId, rebound_epoch]
  constructor
  · intro h
    have hmixed := (h ⟨"a", "p", 0⟩ ⟨"b", "q", 1⟩ guardedPacket _ _
      (guarded_sent bridge (by dsimp; split <;> simp) (by dsimp; split <;> simp))).1
    have hlost : check ≤ 1 → player ≤ 1 := by
      intro hcheck
      by_contra hplayer
      refine (h ⟨"a", "p", 0⟩ ⟨"b", "", 1⟩ guardedPacket _ _
        (guarded_sent bridge (by simp [hcheck]) (by dsimp; split <;> simp))).2 _ rfl rfl ?_
      exact if_neg hplayer
    simp only [LuaGatewayBridge.clientIngress, Binding.mk.injEq] at hmixed
    split_ifs at hmixed <;> simp at hmixed <;> omega
  · intro horder old new packet sent ingress hsent
    obtain ⟨⟨route, -, -, -, hroute, -, hauth, -⟩, rfl, rfl⟩ :=
      (admission_eq_ingress_iff bridge _ packet _ _).mp hsent
    have hplayer : (if check ≤ 1 then old.playerId else new.playerId) =
        if player ≤ 1 then old.playerId else new.playerId := if_congr (by omega) rfl rfl
    refine ⟨?_, fun route' hroute' hrequires => ?_⟩
    · simp only [LuaGatewayBridge.clientIngress]
      rcases horder with ⟨htarget, hp⟩ | ⟨hcheck, he⟩
      · exact .inl (by rw [if_pos htarget, if_pos hp, if_pos (by omega)])
      · exact .inr (by rw [if_neg (by omega), if_neg (by omega), if_neg (by omega)])
    · obtain rfl := Option.some.inj (hroute.symm.trans hroute')
      rcases hauth with hfalse | hne
      · rw [hrequires] at hfalse
        cases hfalse
      · exact hplayer ▸ hne

/-- The player logs out between the check and the message. -/
theorem ingress_without_player :
    LuaGatewayBridge.admission ⟨"auth"⟩ (Interleaving.reads ⟨0, 0, 0, 2, by decide⟩ 5
        ⟨"game", "p1", 3⟩ ⟨"auth", "", 4⟩) guardedPacket =
      .ingress "game" { gatewayServiceName := "auth", sessionId := 5, sessionEpoch := 3 } := by
  decide

variable {ingress : ClientIngress}

section Message

/-- The text of the arguments, from the texts of the strings in them. -/
def argumentsText (ingress : ClientIngress) (gateway player body : List UInt8) : List UInt8 :=
  bytesOf "[" ++ bytesOf (toString ingress.routeId.toNat) ++
  bytesOf ",\x7b\"gateway_service\":" ++ gateway ++ bytesOf ",\"player_id\":" ++ player ++
  bytesOf ",\"session_epoch\":" ++ bytesOf (toString ingress.sessionEpoch.toNat) ++
  bytesOf ",\"session_id\":" ++ bytesOf (toString ingress.sessionId.toNat) ++
  bytesOf "\x7d," ++ body ++ bytesOf "]"

def ingressText (ingress : ClientIngress) : List UInt8 :=
  argumentsText ingress (quoted ingress.gatewayServiceName) (quoted ingress.playerId)
    (quoted (stringOf ingress.bodyBytes))

def ingressStrings (ingress : ClientIngress) : List String :=
  [ingress.gatewayServiceName, ingress.playerId, stringOf ingress.bodyBytes]

lemma sorted_ingress (id epoch player gateway : Json) :
    [("session_id", id), ("session_epoch", epoch), ("player_id", player),
      ("gateway_service", gateway)].insertionSort (fun a b => a.1 ≤ b.1) =
    [("gateway_service", gateway), ("player_id", player), ("session_epoch", epoch),
      ("session_id", id)] := by
  have hplayer : ¬"player_id" ≤ "gateway_service" := by decide +kernel
  have hepoch : ¬"session_epoch" ≤ "gateway_service" ∧ ¬"session_epoch" ≤ "player_id" := by
    decide +kernel
  have hid : ¬"session_id" ≤ "gateway_service" ∧ ¬"session_id" ≤ "player_id" ∧
      ¬"session_id" ≤ "session_epoch" := by decide +kernel
  simp [List.orderedInsert, hplayer, hepoch, hid]

variable {dump : JsonDump} {floatText : UInt64 → List UInt8} (hdoc : dump.Documented floatText)
include hdoc

lemma dump_ingressArgs (ingress : ClientIngress) :
    dump (LuaGatewayBridge.ingressArgs ingress) = (do
      let gateway ← dumpString ingress.gatewayServiceName
      let player ← dumpString ingress.playerId
      let body ← dumpString (stringOf ingress.bodyBytes)
      return argumentsText ingress gateway player body) := by
  have hgateway : dumpString "gateway_service" = .ok (bytesOf "\"gateway_service\"") :=
    dumpString_ok (by decide +kernel)
  have hplayer : dumpString "player_id" = .ok (bytesOf "\"player_id\"") :=
    dumpString_ok (by decide +kernel)
  have hepoch : dumpString "session_epoch" = .ok (bytesOf "\"session_epoch\"") :=
    dumpString_ok (by decide +kernel)
  have hid : dumpString "session_id" = .ok (bytesOf "\"session_id\"") :=
    dumpString_ok (by decide +kernel)
  have hopen : bytesOf ",\x7b\"gateway_service\":" =
      [44, 123] ++ bytesOf "\"gateway_service\"" ++ [58] := by decide +kernel
  have hsecond : bytesOf ",\"player_id\":" = [44] ++ bytesOf "\"player_id\"" ++ [58] := by
    decide +kernel
  have hthird : bytesOf ",\"session_epoch\":" = [44] ++ bytesOf "\"session_epoch\"" ++ [58] := by
    decide +kernel
  have hlast : bytesOf ",\"session_id\":" = [44] ++ bytesOf "\"session_id\"" ++ [58] := by
    decide +kernel
  have hclose : bytesOf "\x7d," = [125, 44] := by decide +kernel
  have hbegin : bytesOf "[" = [91] := by decide +kernel
  have hend : bytesOf "]" = [93] := by decide +kernel
  rw [LuaGatewayBridge.ingressArgs, hdoc.array]
  simp only [hdoc.object, hdoc.string, hdoc.unsigned, sorted_ingress, List.mapM_cons, List.mapM_nil,
    dumpMember, hgateway, hplayer, hepoch, hid]
  cases dumpString ingress.gatewayServiceName with
  | error => rfl
  | ok =>
    cases dumpString ingress.playerId with
    | error => rfl
    | ok =>
      cases dumpString (stringOf ingress.bodyBytes) with
      | error => rfl
      | ok =>
        refine congrArg Except.ok ?_
        simp [argumentsText, joinTexts, hopen, hsecond, hthird, hlast, hclose, hbegin, hend]

lemma dump_ingressArgs_ok (h : ∀ text ∈ ingressStrings ingress, validUtf8 (bytesOf text) = true) :
    dump (LuaGatewayBridge.ingressArgs ingress) = .ok (ingressText ingress) := by
  have hgateway := dumpString_ok (h ingress.gatewayServiceName (by simp [ingressStrings]))
  have hplayer := dumpString_ok (h ingress.playerId (by simp [ingressStrings]))
  have hbody := dumpString_ok (h (stringOf ingress.bodyBytes) (by simp [ingressStrings]))
  rw [dump_ingressArgs hdoc, hgateway, hplayer, hbody]
  rfl

omit hdoc in
lemma containsText_ingressText
    (h : ∀ text ∈ ingressStrings ingress, validUtf8 (bytesOf text) = true) :
    containsText (ingressText ingress) unsupportedSentinel = true ↔
      ∃ text ∈ ingressStrings ingress, EndsLikeSentinel text := by
  have hdoc := dump_documented fun _ => []
  have hdump := dump_ingressArgs_ok hdoc h
  have hkeys : ¬EndsLikeSentinel "gateway_service" ∧ ¬EndsLikeSentinel "player_id" ∧
      ¬EndsLikeSentinel "session_epoch" ∧ ¬EndsLikeSentinel "session_id" := by decide
  rw [containsText_dump hdoc (by simp [Plain]) hdump]
  simp [LuaGatewayBridge.ingressArgs, jsonStrings, itemStrings, fieldStrings, ingressStrings, hkeys,
    or_comm, or_left_comm]

lemma dump_ingressArgs_error
    (h : ∃ text ∈ ingressStrings ingress, validUtf8 (bytesOf text) = false) :
    ∃ what, dump (LuaGatewayBridge.ingressArgs ingress) = .error what := by
  obtain ⟨text, hmem, hinvalid⟩ := h
  obtain ⟨what, hwhat⟩ := dumpString_error hinvalid
  rw [dump_ingressArgs hdoc]
  simp only [ingressStrings, List.mem_cons, List.not_mem_nil, or_false] at hmem
  cases hgateway : dumpString ingress.gatewayServiceName with
  | error what => exact ⟨what, rfl⟩
  | ok =>
    cases hplayer : dumpString ingress.playerId with
    | error what => exact ⟨what, rfl⟩
    | ok =>
      cases hbody : dumpString (stringOf ingress.bodyBytes) with
      | error what => exact ⟨what, rfl⟩
      | ok =>
        -- None of the three strings is left to be the invalid one.
        rcases hmem with rfl | rfl | rfl
        · rw [hgateway] at hwhat
          cases hwhat
        · rw [hplayer] at hwhat
          cases hwhat
        · rw [hbody] at hwhat
          cases hwhat

end Message

section Bodies

variable {lib : JsonLibrary} {result packet : DispatchResult}

lemma decode_bytes {codec : BodyCodec} {packet : Packet} {route : RouteEntry} {body : DecodedBody}
    (h : codec.decode lib packet route = .ok body) : body.bytes = packet.body := by
  revert h
  fun_cases BodyCodec.decode lib packet route codec
  case case8 =>
    intro h
    obtain ⟨_, -, ⟨⟩⟩ := ok_of_bind_ok h
    rfl
  all_goals rintro ⟨⟩
  all_goals rfl

/-- A decoded body is the packet's own. -/
def KeepsBytes (result : DispatchResult) : Prop :=
  ∀ body, result.decodedBody = some body → body.bytes = result.packet.body

lemma keepsBytes_undecoded (h : result.decodedBody = none) : KeepsBytes result := by
  intro body hbody
  rw [h] at hbody
  cases hbody

lemma decodeFor_keepsBytes (lib : JsonLibrary) (pipeline : ProtocolPipeline) (h : KeepsBytes result)
    (route : RouteEntry) : KeepsBytes (pipeline.decodeFor lib result route) := by
  unfold ProtocolPipeline.decodeFor
  split
  · exact h
  split
  · rename_i hdecode
    intro body hbody
    cases hbody
    exact decode_bytes hdecode
  · exact h

lemma dispatch_keepsBytes (lib : JsonLibrary) (pipeline : ProtocolPipeline) (packet : Packet) :
    KeepsBytes (pipeline.dispatch lib packet) := by
  simp only [ProtocolPipeline.dispatch]
  split
  · exact keepsBytes_undecoded rfl
  split
  · exact keepsBytes_undecoded rfl
  split
  · exact decodeFor_keepsBytes lib pipeline (keepsBytes_undecoded rfl) _
  · exact keepsBytes_undecoded rfl

lemma prepare_keepsBytes (lib : JsonLibrary) (pipeline : ProtocolPipeline) (h : KeepsBytes result) :
    KeepsBytes (TcpSession.prepare lib pipeline result).2 := by
  unfold TcpSession.prepare
  split
  · unfold ProtocolPipeline.materializeDecode
    split
    · exact h
    split
    · exact h
    split
    · exact h
    · exact decodeFor_keepsBytes lib pipeline h _
  · exact h

lemma received_keepsBytes {session : TcpSession} {reads : List (List UInt8)}
    (h : packet ∈ TcpSession.received lib session reads) : KeepsBytes packet := by
  obtain ⟨raw, rfl⟩ := received_origin lib h
  exact prepare_keepsBytes lib session.pipeline (dispatch_keepsBytes lib session.pipeline raw)

lemma clientIngress_bodyBytes (bridge : LuaGatewayBridge) (session : SessionReads)
    (h : KeepsBytes packet) :
    (bridge.clientIngress session packet).bodyBytes = packet.packet.body := by
  unfold LuaGatewayBridge.clientIngress
  cases hbody : packet.decodedBody with
  | none => rfl
  | some body => exact h body hbody

end Bodies

section Delivery

/-- Every text is UTF-8 and is not taken for the placeholder of an unsupported value. -/
def Deliverable (texts : List String) : Prop :=
  ∀ text ∈ texts, validUtf8 (bytesOf text) = true ∧ ¬ EndsLikeSentinel text

lemma validUtf8_or (texts : List String) :
    (∀ text ∈ texts, validUtf8 (bytesOf text) = true) ∨
      ∃ text ∈ texts, validUtf8 (bytesOf text) = false := by
  by_cases h : ∀ text ∈ texts, validUtf8 (bytesOf text) = true
  · exact .inl h
  push Not at h
  obtain ⟨text, hmem, hinvalid⟩ := h
  exact .inr ⟨text, hmem, by simpa using hinvalid⟩

variable {registry : Registry} {dump : JsonDump} {floatText : UInt64 → List UInt8}
  (hdoc : dump.Documented floatText)
include hdoc

lemma validate_ingressArgs
    (hvalid : ∀ text ∈ ingressStrings ingress, validUtf8 (bytesOf text) = true)
    (hsize : (ingressText ingress).length ≤ maxMessageSize) :
    validateMessagePayload dump (LuaGatewayBridge.ingressArgs ingress) =
      .ok (if ∃ text ∈ ingressStrings ingress, EndsLikeSentinel text then
        .error "message contains unsupported value type" else .ok ()) := by
  have hsentinel := containsText_ingressText hvalid
  unfold validateMessagePayload
  rw [dump_ingressArgs_ok hdoc hvalid]
  by_cases hends : ∃ text ∈ ingressStrings ingress, EndsLikeSentinel text
  · rw [if_pos hends]
    simp [Bind.bind, Except.bind, Pure.pure, Except.pure, Nat.not_lt.mpr hsize,
      hsentinel.mpr hends]
  · rw [if_neg hends]
    simp [Bind.bind, Except.bind, Pure.pure, Except.pure, Nat.not_lt.mpr hsize,
      mt hsentinel.mp hends]

lemma sendClientIngress_error (hrunning : registry.stopping = false)
    (h : ∃ text ∈ ingressStrings ingress, validUtf8 (bytesOf text) = false) (target : ServiceId) :
    ∃ what, LuaGatewayBridge.sendClientIngress dump registry target ingress = .error what := by
  have hmethod : validateMessageMethod "on_client_message" true = .ok () := by decide
  obtain ⟨what, hwhat⟩ := dump_ingressArgs_error hdoc h
  refine ⟨what, ?_⟩
  simp [LuaGatewayBridge.sendClientIngress, sendSystem, hrunning, hmethod, validateMessagePayload,
    hwhat, Bind.bind, Except.bind]

lemma sendClientIngress_ok (hrunning : registry.stopping = false) {target : ServiceId}
    {actor : Instance} (hlive : registry.targetActor target = some actor)
    (hvalid : ∀ text ∈ ingressStrings ingress, validUtf8 (bytesOf text) = true)
    (hsize : (ingressText ingress).length ≤ maxMessageSize) :
    LuaGatewayBridge.sendClientIngress dump registry target ingress =
      if ∃ text ∈ ingressStrings ingress, EndsLikeSentinel text then
        .ok (.warning
          "Failed to queue ClientIngress: message contains unsupported value type")
      else
        .ok (.sent actor
          { sender := "", method := "on_client_message",
            args := LuaGatewayBridge.ingressArgs ingress, priority := .high }) := by
  have hmethod : validateMessageMethod "on_client_message" true = .ok () := by decide
  simp only [LuaGatewayBridge.sendClientIngress, sendSystem, hrunning, hmethod, hlive,
    validate_ingressArgs hdoc hvalid hsize, Bool.false_eq_true, if_false]
  by_cases hends : ∃ text ∈ ingressStrings ingress, EndsLikeSentinel text
  · simp only [if_pos hends]
    rfl
  · simp only [if_neg hends]
    rfl

omit hdoc in
/-- Within the size limit, an admitted packet reaches its live target as one `on_client_message`
with its body exactly if the runtime is not stopping and the strings of the message are UTF-8 and
do not end like the sentinel. Bytes that are not UTF-8 are thrown out of the read handler. -/
theorem gateway_delivery (dump : JsonDump) (floatText : UInt64 → List UInt8)
    (hdoc : dump.Documented floatText) (lib : JsonLibrary) (session : TcpSession) (bridge : LuaGatewayBridge)
    (registry : Registry) (chunks : List (List UInt8)) (reads : SessionReads)
    (packet : DispatchResult) (route : RouteEntry) (actor : Instance)
    (hpacket : packet ∈ TcpSession.received lib session chunks)
    (hadmission : Admissible reads packet route)
    (hlive : registry.targetActor reads.targetService = some actor)
    (hsize : ∀ text, dump (LuaGatewayBridge.ingressArgs (bridge.clientIngress reads packet)) =
      .ok text → text.length ≤ maxMessageSize) :
    ((∃ message routeId context text,
        bridge.onPacket dump registry reads packet = .ok (.sent actor message) ∧
        message.method = "on_client_message" ∧
        message.args = .array [routeId, context, .string text] ∧
        bytesOf text = packet.packet.body) ↔
      registry.stopping = false ∧
        Deliverable [bridge.authServiceName, reads.playerId, stringOf packet.packet.body]) ∧
    ((∃ what, bridge.onPacket dump registry reads packet = .error what) ↔
      registry.stopping = false ∧
        ∃ text ∈ [bridge.authServiceName, reads.playerId, stringOf packet.packet.body],
          validUtf8 (bytesOf text) = false) := by
  set ingress := bridge.clientIngress reads packet with hingress
  have hbody : ingress.bodyBytes = packet.packet.body :=
    clientIngress_bodyBytes bridge reads (received_keepsBytes hpacket)
  have hstrings : [bridge.authServiceName, reads.playerId, stringOf packet.packet.body] =
      ingressStrings ingress := by
    rw [ingressStrings, hbody]
    rfl
  have hon : bridge.onPacket dump registry reads packet =
      LuaGatewayBridge.sendClientIngress dump registry reads.targetService ingress := by
    have hingressed := (admission_eq_ingress_iff bridge reads packet reads.targetService ingress).mpr
      ⟨⟨route, hadmission⟩, rfl, rfl⟩
    rw [LuaGatewayBridge.onPacket, hingressed]
  rw [hon, hstrings]
  cases hstop : registry.stopping with
  | true =>
    simp [LuaGatewayBridge.sendClientIngress, sendSystem, hstop, Bind.bind, Except.bind, Pure.pure,
      Except.pure]
  | false =>
    rcases validUtf8_or (ingressStrings ingress) with hvalid | hinvalid
    · have hlength := hsize _ (dump_ingressArgs_ok hdoc hvalid)
      rw [sendClientIngress_ok hdoc hstop hlive hvalid hlength]
      have hnone : ¬ ∃ text ∈ ingressStrings ingress, validUtf8 (bytesOf text) = false := by
        rintro ⟨text, hmem, hinvalid⟩
        rw [hvalid text hmem] at hinvalid
        cases hinvalid
      by_cases hends : ∃ text ∈ ingressStrings ingress, EndsLikeSentinel text
      · have hnot : ¬ Deliverable (ingressStrings ingress) := by
          obtain ⟨text, hmem, hend⟩ := hends
          exact fun hall => (hall text hmem).2 hend
        simp [if_pos hends, hnone, hnot]
      · have hall : Deliverable (ingressStrings ingress) :=
          fun text hmem => ⟨hvalid text hmem, fun hend => hends ⟨text, hmem, hend⟩⟩
        rw [if_neg hends]
        refine ⟨⟨fun _ => ⟨rfl, hall⟩, fun _ => ?_⟩, ⟨fun h => ?_, fun h => absurd h.2 hnone⟩⟩
        · exact ⟨_, _, _, stringOf ingress.bodyBytes, rfl, rfl, rfl,
            by rw [bytesOf_stringOf, hbody]⟩
        · obtain ⟨what, hwhat⟩ := h
          cases hwhat
    · obtain ⟨what, hwhat⟩ := sendClientIngress_error hdoc hstop hinvalid reads.targetService
      have hnot : ¬ Deliverable (ingressStrings ingress) := by
        obtain ⟨text, hmem, hbad⟩ := hinvalid
        intro hall
        rw [(hall text hmem).1] at hbad
        cases hbad
      rw [hwhat]
      refine ⟨⟨?_, fun h => absurd h.2 hnot⟩, ⟨fun _ => ⟨rfl, hinvalid⟩, fun _ => ⟨what, rfl⟩⟩⟩
      rintro ⟨_, _, _, _, h, -⟩
      cases h

end Delivery

def chatRoute : RouteEntry := { routeId := 7, debugName := "chat" }

def chatSession : TcpSession where
  pipeline := .create
    { envelopeKind := .idLen, envelope := { routeIdBytes := 1, lengthBytes := 1 },
      routeSource := .header }
    (RouteTable.upsert {} chatRoute) ((∅ : AList fun _ : UInt16 => BodyCodec).insert 0 .raw)

def chatPacket (body : List UInt8) : DispatchResult where
  packet := { routeId := 7, body, rawFrame := 7 :: UInt8.ofNat body.length :: body }
  route := some chatRoute
  action := .decodeLocal
  decodedBody := some { routeId := 7, bytes := body }

def chatReads : SessionReads where
  checkedPlayerId := "p1"
  targetService := "game"
  playerId := "p1"

def gameRegistry : Registry where
  services := Function.update (fun _ => none) "game" (some 0)
  publishedNames := Function.update (fun _ => none) "game" (some "game")
  ownedNames := Function.update (fun _ => []) "game" ["game"]
  serviceOrder := ["game"]
  serviceActors := Function.update (fun _ => none) "game" (some 0)

theorem gateway_delivery_chat :
    ∃ message routeId context text,
      LuaGatewayBridge.onPacket (Json.dump fun _ => []) ⟨"auth"⟩ gameRegistry chatReads
        (chatPacket [104, 105]) = .ok (.sent 0 message) ∧
      message.method = "on_client_message" ∧
      message.args = .array [routeId, context, .string text] ∧ bytesOf text = [104, 105] := by
  have hsize : ∀ text, Json.dump (fun _ => []) (LuaGatewayBridge.ingressArgs
      (LuaGatewayBridge.clientIngress ⟨"auth"⟩ chatReads (chatPacket [104, 105]))) = .ok text →
        text.length ≤ maxMessageSize := by
    intro text htext
    cases htext
    decide
  have hpacket : chatPacket [104, 105] ∈
      TcpSession.received unusedLibrary chatSession [[7], [2, 104, 105]] :=
    List.mem_singleton_self _
  exact (gateway_delivery _ _ (dump_documented fun _ => []) unusedLibrary chatSession ⟨"auth"⟩ gameRegistry
    [[7], [2, 104, 105]] chatReads (chatPacket [104, 105]) chatRoute 0 hpacket
    ⟨rfl, rfl, rfl, rfl, by decide, .inr (by decide), by decide⟩ rfl hsize).1.mpr
      ⟨rfl, by unfold Deliverable; decide⟩

/-- Two bodies of a player on a live session: a byte that is not UTF-8 is thrown out of the read
handler, and a body that reads like the sentinel is refused. -/
theorem gateway_delivery_refused :
    (chatPacket [0xFF] ∈ TcpSession.received unusedLibrary chatSession [[7, 1, 0xFF]] ∧
      Admissible chatReads (chatPacket [0xFF]) chatRoute ∧
      gameRegistry.targetActor chatReads.targetService = some 0 ∧
      LuaGatewayBridge.onPacket (Json.dump fun _ => []) ⟨"auth"⟩ gameRegistry chatReads
          (chatPacket [0xFF]) =
        .error "[json.exception.type_error.316] invalid UTF-8 byte at index 0: 0xFF") ∧
    (chatPacket (bytesOf "<unsupported>") ∈ TcpSession.received unusedLibrary chatSession
        [[7, 13] ++ bytesOf "<unsupported>"] ∧
      Admissible chatReads (chatPacket (bytesOf "<unsupported>")) chatRoute ∧
      LuaGatewayBridge.onPacket (Json.dump fun _ => []) ⟨"auth"⟩ gameRegistry chatReads
        (chatPacket (bytesOf "<unsupported>")) =
          .ok (.warning
            "Failed to queue ClientIngress: message contains unsupported value type")) := by
  refine ⟨⟨List.mem_singleton_self _, ?_, rfl, ?_⟩, ⟨List.mem_singleton_self _, ?_, ?_⟩⟩
  · exact ⟨rfl, rfl, rfl, rfl, by decide, .inr (by decide), by decide⟩
  · rfl
  · exact ⟨rfl, rfl, rfl, rfl, by decide, .inr (by decide), by decide⟩
  · rfl

end ShieldRuntime.Proofs
