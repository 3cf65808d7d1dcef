import TransferGateway.Server.Login

/-!
# Connections

A connection begins with a handshake, and goes on with a login or with a status query. A status query
is passed on to the backend that the client would be sent to. Where that backend does not answer, the
gateway answers for it.
-/

namespace TransferGateway

open Protocol

/-! ### Operations -/

/-- What a handler does with its sockets beside reading and writing. -/
inductive SocketOp : Type → Type where
  /-- `set_nodelay(true)`, on either socket. -/
  | setNodelay : SocketOp (Except IoError Unit)
  | shutdown : SocketOp (Except IoError Unit)
  /-- `TcpStream::connect`, to the backend. -/
  | connect (address : String) : SocketOp (Except IoError Unit)

/-- Those of a handler on its client's stream and the shared state, those on the stream of the
backend, and those on sockets. -/
abbrev TaskOp (β : Type) := ConnOp β ⊕ StreamOp β ⊕ SocketOp β

structure Task where
  conn : Conn
  /-- The stream of the backend, once there is one. -/
  backend : Stream

namespace Task

def step {β : Type} (o : TaskOp β) (c : ConnChoice) (s : Task) : β × Task :=
  match o with
  | .inl o =>
    let r := s.conn.step o c
    (r.1, { s with conn := r.2 })
  | .inr (.inl o) =>
    let r := s.backend.step o c.stream
    (r.1, { s with backend := r.2 })
  | .inr (.inr .setNodelay) | .inr (.inr .shutdown) =>
    match c.stream.fault with
    | some e => (.error e, s)
    | none => (.ok (), s)
  | .inr (.inr (.connect _)) =>
    match c.stream.fault with
    | some e => (.error e, s)
    | none => (.ok (), { s with backend := ⟨[], []⟩ })

abbrev handle : Handler TaskOp ConnChoice Task := fun _ o c s => s.step o c

end Task

abbrev TaskProg := Prog TaskOp ConnError

/-- A program on the client's stream and the shared state. -/
def onConn {α : Type} (p : ConnProg α) : TaskProg α :=
  p.lift fun _ => Sum.inl

def onBackend {α : Type} (p : StreamProg α) : TaskProg α :=
  (p.lift fun _ o => Sum.inr (Sum.inl o)).mapError .protocol

/-- Issue an operation on a socket; `?` turns its error into an `anyhow::Error`. -/
def onSocket (o : SocketOp (Except IoError Unit)) : TaskProg Unit :=
  @Prog.perform TaskOp _ _ (.inr (.inr o)) >>= fun r => .ofExcept (r.mapError fun e => .other e.message)

section All

variable {P : (β : Type) → TaskOp β → Prop}

lemma all_onConn {α : Type} {p : ConnProg α} (hp : p.All fun β o => P β (.inl o)) :
    (onConn p).All P :=
  hp.lift fun _ h => h

lemma all_onBackend {α : Type} (hP : ∀ {β : Type} (o : StreamOp β), P β (.inr (.inl o)))
    (p : StreamProg α) : (onBackend p).All P :=
  (Prog.all_mapError ..).mpr ((Prog.all_true p).lift fun o _ => hP o)

lemma all_onSocket {o : SocketOp (Except IoError Unit)} (ho : P _ (.inr (.inr o))) :
    (onSocket o).All P :=
  .bind ((Prog.all_perform _).mpr ho) fun _ => by simp

end All

/-! ### Errors -/

/-- The `Display` of a `ProtocolError`. -/
def Protocol.ProtocolError.message : ProtocolError → String
  | .io error => s!"I/O error: {error.message}"
  | .unexpectedEof => "unexpected end of packet"
  | .varIntTooLong => "VarInt is longer than five bytes"
  | .negativePacketLength => "negative packet length"
  | .packetTooLarge length limit => s!"packet length {length} exceeds limit {limit}"
  | .invalidUtf8 => "invalid UTF-8 string"
  | .stringTooLong length limit => s!"string length {length} exceeds limit {limit}"
  | .unexpectedPacketId actual expected =>
    s!"unexpected packet id {actual.toInt} (expected {expected.toInt})"
  | .invalidValue what => s!"invalid protocol value: {what}"
  | .panic _ => ""

/-- A panic is not an error, and has no text. -/
def ConnError.message : ConnError → String
  | .protocol error => error.message
  | .other message => message
  | .panic _ => ""

def ConnError.isPanic : ConnError → Bool
  | .protocol (.panic _) | .panic _ => true
  | .protocol _ | .other _ => false

/-- The result of a call, for a `match` on it. A panic ends the handler all the same. -/
def resultOf {α : Type} (p : TaskProg α) : TaskProg (Except ConnError α) := do
  match ← p.attempt with
  | .error e => if e.isPanic then .fail e else return .error e
  | .ok a => return .ok a

lemma all_resultOf {α : Type} {P : (β : Type) → TaskOp β → Prop} {p : TaskProg α}
    (hp : p.All P) : (resultOf p).All P := by
  refine .bind ((Prog.all_attempt p).mpr hp) fun r => ?_
  cases r with
  | error e =>
    dsimp only
    split <;> trivial
  | ok a => trivial

/-! ### Status queries -/

/-- `i64::to_be_bytes`. -/
def toBeBytesI64 (value : Int64) : List UInt8 :=
  (List.range 8).map fun index => (value.toUInt64 >>> (8 * (7 - UInt64.ofNat index))).toUInt8

/-- The value of a ping. -/
def readPing : Reader Int64 := do
  let value ← readI64
  expectEnd
  return value

section Handler

variable [Xdb] [StdParse] [StdCase] [StdHash] [StdDisplay] [Md5]

def localStatusPayload (state : RuntimeState) : List UInt8 :=
  let server := state.config.server
  let motd := state.language.render "status.motd" [("motd", server.motd)]
  let response := Json.ofFields
    [("version", .ofFields
      [("name", .string server.statusVersionName),
       ("protocol", .number server.statusProtocol.toInt)]),
     ("players", .ofFields
      [("max", .number server.maxPlayers), ("online", .number 0), ("sample", .array [])]),
     ("description", legacyTextToJson motd),
     ("enforcesSecureChat", .bool false),
     ("previewsChat", .bool false)]
  writeString response.toText

/-- The payload of the backend's response, and the target that was resolved. -/
def proxyStatusResponse (protocolVersion : Int32) (configuredTarget : LineTarget)
    (dns : MinecraftDnsResolver) (maxFrameLength : ℕ) : TaskProg (List UInt8 × LineTarget) := do
  match ← onConn ((dns.resolveTarget configuredTarget configuredTarget.resolveSrv).mapError
      .panic) with
  | .error message => .fail (.other message)
  | .ok target => do
    onSocket (.connect (formatTarget target))
    onSocket .setNodelay
    onBackend (writePacket HANDSHAKE_PACKET_ID
      (encodeHandshake protocolVersion target.host target.port 1))
    onBackend (writePacket 0 [])
    match ← onBackend (readPacket maxFrameLength) with
    | none => .fail (.other "backend closed before status response")
    | some response =>
      if response.id ≠ 0 then
        .fail (.other s!"unexpected backend status response packet id {response.id.toInt}")
      else return (response.payload, target)

def completeBackendStatusPing (payload : List UInt8) (maxFrameLength : ℕ) : TaskProg Unit := do
  onBackend (writePacket 1 payload)
  match ← onBackend (readPacket maxFrameLength) with
  | none => .fail (.other "backend closed before status pong")
  | some pong =>
    if pong.id ≠ 1 then
      .fail (.other s!"unexpected backend status pong packet id {pong.id.toInt}")
    else return

section All

variable {P : (β : Type) → TaskOp β → Prop}

omit [Xdb] [StdCase] [StdHash] [StdDisplay] [Md5] in
lemma all_proxyStatusResponse
    (hlookup : ∀ resolver query, P _ (.inl (.inr (.srvLookup resolver query))))
    (hfetch : P _ (.inl (.inr .fetchAdd)))
    (hlog : ∀ level message, P _ (.inl (.inr (.log level message))))
    (hsocket : ∀ {β : Type} (o : SocketOp β), P β (.inr (.inr o)))
    (hbackend : ∀ {β : Type} (o : StreamOp β), P β (.inr (.inl o)))
    (protocolVersion : Int32) (target : LineTarget) (dns : MinecraftDnsResolver)
    (maxFrameLength : ℕ) :
    (proxyStatusResponse protocolVersion target dns maxFrameLength).All P := by
  refine .bind (all_onConn ((Prog.all_mapError ..).mpr (all_resolveTarget hlookup hfetch hlog ..)))
    fun resolved => ?_
  cases resolved with
  | error message => trivial
  | ok resolved =>
    refine .bind (all_onSocket (hsocket _)) fun _ => .bind (all_onSocket (hsocket _)) fun _ =>
      .bind (all_onBackend hbackend _) fun _ => .bind (all_onBackend hbackend _) fun _ =>
      .bind (all_onBackend hbackend _) fun response => ?_
    cases response with
    | none => trivial
    | some response =>
      dsimp only
      split <;> trivial

omit [Xdb] [StdParse] [StdCase] [StdHash] [StdDisplay] [Md5] in
lemma all_completeBackendStatusPing (hbackend : ∀ {β : Type} (o : StreamOp β), P β (.inr (.inl o)))
    (payload : List UInt8) (maxFrameLength : ℕ) :
    (completeBackendStatusPing payload maxFrameLength).All P := by
  refine .bind (all_onBackend hbackend _) fun _ => .bind (all_onBackend hbackend _) fun pong => ?_
  cases pong with
  | none => trivial
  | some pong =>
    dsimp only
    split <;> trivial

end All

/-- Whether there is a backend, and the payload of the response. -/
def statusPayload (peer : SocketAddr) (state : RuntimeState) (location : IpLocation)
    (handshake : Handshake) : TaskProg (Bool × List UInt8) := do
  match ← onConn (serve (.selectRoute (state.config.selectRouteWithHostContext location none
    (some handshake.host) state.security (StdDisplay.ipAddr peer.ip)))) with
  | .error panic => .fail (.panic panic)
  | .ok none => return (false, localStatusPayload state)
  | .ok (some (_, target)) => do
    match ← resultOf (proxyStatusResponse handshake.protocolVersion target state.dns
      state.config.server.maxFrameLength) with
    | .ok (payload, _) => do
      onConn (serve (.log .debug "proxied backend server status"))
      return (true, payload)
    | .error error => do
      onConn (serve (.log .warn
        (state.language.render "log.status_proxy_failed" [("error", error.message)])))
      return (false, localStatusPayload state)

/-- The end of `handle_status`, behind the response. -/
def answerPing (state : RuntimeState) (hasBackend : Bool) : TaskProg Unit := do
  let maxFrameLength := state.config.server.maxFrameLength
  let ping ← onConn (requirePacket maxFrameLength "client closed before status ping")
  if ping.id ≠ 1 then .fail (.other s!"unexpected status ping packet id {ping.id.toInt}")
  else do
    let value ← .ofExcept ((parse readPing ping.payload).mapError .protocol)
    onConn (onClient (writePacket 1 (toBeBytesI64 value)))
    if hasBackend then
      match ← resultOf (completeBackendStatusPing ping.payload maxFrameLength) with
      | .ok () => return
      | .error _ => onConn (serve (.log .debug "backend status ping failed"))
    else return

def handleStatus (peer : SocketAddr) (state : RuntimeState) (location : IpLocation)
    (handshake : Handshake) : TaskProg Unit := do
  let request ← onConn (requirePacket state.config.server.maxFrameLength
    "client closed before status request")
  if request.id ≠ 0 then
    .fail (.other s!"unexpected status request packet id {request.id.toInt}")
  else match state.security.check location with
    | some reason => onConn (logSecurityBlock peer reason state.language)
    | none => do
      let (hasBackend, payload) ← statusPayload peer state location handshake
      onConn (onClient (writePacket 0 payload))
      answerPing state hasBackend

/-! ### Whole connections -/

def lookupLocation (peer : SocketAddr) (state : RuntimeState) : ConnProg IpLocation :=
  match state.ip2region.lookup peer.ip StdDisplay.ipAddr with
  | .ok location => return location
  | .error _ => do
    serve (.log .warn (state.language.render "log.ip2region_failed" []))
    return .empty peer.ip

omit [StdParse] [StdCase] [StdHash] [Md5] in
lemma all_lookupLocation {P : (β : Type) → ConnOp β → Prop}
    (hlog : ∀ level message, P _ (.inr (.log level message))) (peer : SocketAddr)
    (state : RuntimeState) : (lookupLocation peer state).All P := by
  rw [lookupLocation]
  split
  · trivial
  · exact .bind ((Prog.all_perform _).mpr (hlog ..)) fun _ => trivial

def handleConnection (peer : SocketAddr) (state : RuntimeState) : TaskProg Unit := do
  onSocket .setNodelay
  let handshakePacket ← onConn (requirePacket state.config.server.maxFrameLength
    "client closed before handshake")
  let handshake ← .ofExcept ((parseHandshake handshakePacket).mapError .protocol)
  let location ← onConn (lookupLocation peer state)
  match handshake.nextState with
  | .status => handleStatus peer state location handshake
  | .login | .transfer => onConn (handleLogin peer state location handshake)
  onSocket .shutdown

end Handler

end TransferGateway
