import TransferGateway.Protocol.Client
import TransferGateway.Protocol.JsonReading
import TransferGateway.Server.Answers
import TransferGateway.Server.Arrived

/-!
# Logins from both sides

A client that keeps to the protocol sends its handshake, its Login Start and its acknowledgement, and
reads what the gateway answers. Whatever the other handlers do meanwhile, it reads exactly what the
gateway has decided: the reason why it is refused, or its profile and the target it is sent to.
-/

namespace TransferGateway

open Protocol

/-! ### The client -/

/-- What a client learns from a login. -/
inductive LoginVerdict where
  | refused (reason : String)
  | sent (profile : LoginSuccess) (target : Transfer)

/-- The text that a client shows for a plain text component. -/
def Json.shownText : Json → Option String
  | .object [("text", .string text)] => some text
  | _ => none

def readLoginDisconnect (maxBytes : ℕ) : Reader String := do
  let reason ← readString maxBytes
  expectEnd
  return reason

/-- A client of some version reads packets of limited length, with strings of limited length, until
it knows where it stands. -/
def awaitVerdict (version : Int32) (maxFrameLength maxBytes : ℕ) : StreamProg LoginVerdict := do
  match ← readPacket maxFrameLength with
  | none => .fail .unexpectedEof
  | some packet =>
    if packet.id = LOGIN_DISCONNECT_PACKET_ID then do
      let text ← .ofExcept (parse (readLoginDisconnect maxBytes) packet.payload)
      match (Json.ofText text).bind Json.shownText with
      | some reason => return .refused reason
      | none => .fail (.invalidValue "text component")
    else if packet.id ≠ LOGIN_SUCCESS_PACKET_ID then
      .fail (.unexpectedPacketId packet.id LOGIN_SUCCESS_PACKET_ID)
    else match protocolSpec version with
      | none => .fail (.invalidValue "version")
      | some spec => do
        let profile ← .ofExcept (parse (readLoginSuccess spec maxBytes) packet.payload)
        match ← readPacket maxFrameLength with
        | none => .fail .unexpectedEof
        | some packet =>
          if packet.id ≠ spec.configTransferPacketId then
            .fail (.unexpectedPacketId packet.id spec.configTransferPacketId)
          else do
            let target ← .ofExcept (parse (readTransfer maxBytes) packet.payload)
            return .sent profile target

/-- The packet of a Login Disconnect. -/
def disconnectPacket (reason : String) : Packet :=
  ⟨LOGIN_DISCONNECT_PACKET_ID, encodeLoginDisconnect (textComponent reason)⟩

/-- The packets of a login that succeeds. -/
def transferPackets [Md5] (strictErrorHandling : Bool) (spec : ProtocolSpec) (username : String)
    (sessionId : Uuid) (target : LineTarget) : List Packet :=
  [⟨LOGIN_SUCCESS_PACKET_ID,
      encodeLoginSuccess spec (offlineUuid username) username strictErrorHandling sessionId⟩,
    ⟨spec.configTransferPacketId, encodeTransfer target.host target.port⟩]

lemma textComponent_eq (reason : String) :
    textComponent reason = (Json.object [("text", .string reason)]).toText := by
  simp [textComponent, Json.toText, Json.fieldTexts, String.append_assoc]

lemma readLoginDisconnect_encode {reason : String} {maxBytes : ℕ} (hlt : byteLen reason < 2 ^ 31)
    (hle : byteLen reason ≤ maxBytes) :
    parse (readLoginDisconnect maxBytes) (encodeLoginDisconnect reason) = .ok reason := by
  rw [parse_eq_ok, readLoginDisconnect, (recognizes_readString maxBytes).accepts_bind
    (fun _ => accepts_expectEnd _) _ (valid_new _), rest_new]
  exact ⟨reason, writeString reason, [], ⟨_, _, isString_writeString hlt hle⟩, ⟨rfl, rfl⟩,
    (List.append_nil _).symm⟩

/-- A client reads the reason of a disconnect. -/
lemma wp_awaitVerdict_refused (version : Int32) {maxFrameLength maxBytes : ℕ} {reason : String}
    (hmax : maxFrameLength < 2 ^ 31)
    (hframe : (writeVarint (disconnectPacket reason).id ++
      (disconnectPacket reason).payload).length ≤ maxFrameLength)
    (hbytes : byteLen (textComponent reason) ≤ maxBytes) :
    (awaitVerdict version maxFrameLength maxBytes).wp Stream.handle Stream.closed
      (fun r _ => r = .ok (.refused reason)) ⟨frames [disconnectPacket reason], []⟩ := by
  have hlt : byteLen (textComponent reason) < 2 ^ 31 := by
    have hlength : byteLen (textComponent reason) ≤ (disconnectPacket reason).payload.length := by
      rw [disconnectPacket, encodeLoginDisconnect, writeString, List.length_append, length_asBytes]
      exact Nat.le_add_left _ _
    rw [List.length_append] at hframe
    omega
  have hframes : frames [disconnectPacket reason] =
      frame (disconnectPacket reason).id (disconnectPacket reason).payload ++ [] := by
    simp [frames]
  refine Prog.wp_seq_value (wp_readPacket_closed hmax hframe hframes) fun s₁ _ => ?_
  dsimp only
  rw [if_pos (show (disconnectPacket reason).id = LOGIN_DISCONNECT_PACKET_ID from rfl)]
  change ((Prog.ofExcept (parse (readLoginDisconnect maxBytes)
    (encodeLoginDisconnect (textComponent reason))) : StreamProg String) >>= _).wp _ _ _ _
  rw [readLoginDisconnect_encode hlt hbytes, textComponent_eq]
  simp [Json.ofText_toText, Json.shownText]

/-- A client of a known version reads its profile and its target. -/
lemma wp_awaitVerdict_sent [Md5] {version : Int32} {spec : ProtocolSpec}
    (hspec : protocolSpec version = some spec) {maxFrameLength maxBytes : ℕ} {strict : Bool}
    {username : String} {sessionId : Uuid} {target : LineTarget} (hmax : maxFrameLength < 2 ^ 31)
    (hframes : ∀ packet ∈ transferPackets strict spec username sessionId target,
      (writeVarint packet.id ++ packet.payload).length ≤ maxFrameLength)
    (husername : byteLen username ≤ maxBytes) (hhost : byteLen target.host ≤ maxBytes) :
    (awaitVerdict version maxFrameLength maxBytes).wp Stream.handle Stream.closed
      (fun r _ => r = .ok (.sent (.of spec (offlineUuid username) username strict sessionId)
        ⟨target.host, Int32.ofNat target.port.toNat⟩))
      ⟨frames (transferPackets strict spec username sessionId target), []⟩ := by
  have hsuccess := hframes _ List.mem_cons_self
  have htransfer := hframes _ (List.mem_cons_of_mem _ List.mem_cons_self)
  have husername' : byteLen username < 2 ^ 31 := by
    simp only [List.length_append, encodeLoginSuccess, writeString, length_asBytes] at hsuccess
    omega
  have hhost' : byteLen target.host < 2 ^ 31 := by
    simp only [List.length_append, encodeTransfer, writeString, length_asBytes] at htransfer
    omega
  refine Prog.wp_seq_value (wp_readPacket_closed hmax hsuccess rfl) fun s₁ h₁ => ?_
  dsimp only
  rw [if_neg (show ¬LOGIN_SUCCESS_PACKET_ID = LOGIN_DISCONNECT_PACKET_ID by decide),
    if_neg (not_not.mpr rfl), hspec]
  dsimp only
  rw [(readLoginSuccess_encode ..).mpr ⟨husername', husername⟩, Prog.ofExcept_ok, pure_bind]
  refine Prog.wp_seq_value (wp_readPacket_closed hmax htransfer h₁) fun s₂ _ => ?_
  dsimp only
  rw [if_neg (not_not.mpr rfl), (readTransfer_encode ..).mpr ⟨hhost', hhost⟩]
  rfl

/-! ### The gateway -/

lemma bytesWritten_append (xs ys : List StreamEvent) :
    bytesWritten (xs ++ ys) = bytesWritten xs ++ bytesWritten ys :=
  List.flatMap_append

def StreamOp.writes {β : Type} : StreamOp β → Bool
  | .writeAll _ => true
  | _ => false

lemma Stream.bytesWritten_step {β : Type} {o : StreamOp β} (ho : o.writes = false)
    (c : StreamChoice) (s : Stream) :
    bytesWritten (s.step o c).2.history = bytesWritten s.history := by
  cases o with
  | writeAll bytes => cases ho
  | _ =>
    simp only [Stream.step]
    (repeat' split) <;> simp [Stream.consume, bytesWritten]

namespace Conn

/-- The client sends, the others move the counters, and the client's socket does not fail. -/
def steady : Env ConnChoice Conn where
  interferes t t' := t.client.Arrives t'.client
  admits c := c.stream.fault = none

/-- So much has been written, and these bytes are the next to be read. -/
def At (written input : List UInt8) (t : Conn) : Prop :=
  bytesWritten t.client.history = written ∧ ∃ more, t.client.input = input ++ more

lemma At.arrives {written input : List UInt8} {t t' : Conn} (h : t.At written input)
    (ht : steady.interferes t t') : t'.At written input := by
  obtain ⟨hwritten, more, hinput⟩ := h
  obtain ⟨hhistory, more', hinput'⟩ := ht
  exact ⟨by rw [hhistory, hwritten], more ++ more', by rw [hinput', hinput, List.append_assoc]⟩

end Conn

section Handler

variable [Xdb] [StdParse] [StdCase] [StdHash] [StdDisplay] [Md5]

def RuntimeState.Supports (state : RuntimeState) (version : Int32) (spec : ProtocolSpec) : Prop :=
  protocolSpec version = some spec ∧
    (state.config.server.supportedProtocols = [] ∨ version ∈ state.config.server.supportedProtocols)

/-- The client and its name pass the checks before the route is selected. -/
structure Admits (state : RuntimeState) (location : IpLocation) (handshake : Handshake)
    (loginStart : LoginStart) (spec : ProtocolSpec) : Prop where
  supports : state.Supports handshake.protocolVersion spec
  username : validateUsername loginStart = .ok ()
  unblocked : state.security.check location = none

/-- A selection of the route of a player, at some counters. -/
def Selects (peer : SocketAddr) (state : RuntimeState) (location : IpLocation)
    (handshake : Handshake) (loginStart : LoginStart) (selected : Option (String × LineTarget)) :
    Prop :=
  ∃ counters counters', state.config.selectRouteWithHostContext location (some loginStart.username)
    (some handshake.host) state.security (StdDisplay.ipAddr peer.ip) counters =
      .ok (selected, counters')

/-- A resolution of a target, at some answer of the DNS. -/
def Resolves (state : RuntimeState) (target : LineTarget) (resolved : Except String LineTarget) :
    Prop :=
  ∃ t t', (state.dns.resolveTarget target target.resolveSrv).Outcome Conn.handle Conn.steady t
    (.ok resolved) t'

/-- What a login comes to: the packets that are written, and what they tell. -/
inductive Decides (peer : SocketAddr) (state : RuntimeState) (location : IpLocation)
    (handshake : Handshake) (loginStart : LoginStart) : List Packet → LoginVerdict → Prop where
  | unsupported (h : ∀ spec, ¬state.Supports handshake.protocolVersion spec) :
      Decides peer state location handshake loginStart
        [disconnectPacket (unsupportedProtocol state handshake)]
        (.refused (unsupportedProtocol state handshake))
  | username {spec : ProtocolSpec} {error : UsernameError}
      (supports : state.Supports handshake.protocolVersion spec)
      (h : validateUsername loginStart = .error error) :
      Decides peer state location handshake loginStart
        [disconnectPacket (state.language.render error.disconnectKey [])]
        (.refused (state.language.render error.disconnectKey []))
  | blocked {spec : ProtocolSpec} {reason : BlockReason}
      (supports : state.Supports handshake.protocolVersion spec)
      (username : validateUsername loginStart = .ok ())
      (h : state.security.check location = some reason) :
      Decides peer state location handshake loginStart
        [disconnectPacket (state.language.render reason.disconnectKey [])]
        (.refused (state.language.render reason.disconnectKey []))
  | unrouted {spec : ProtocolSpec} (admits : Admits state location handshake loginStart spec)
      (h : Selects peer state location handshake loginStart none ∨ ∃ line target message,
        Selects peer state location handshake loginStart (some (line, target)) ∧
          Resolves state target (.error message)) :
      Decides peer state location handshake loginStart
        [disconnectPacket (state.language.render "disconnect.no_route" [])]
        (.refused (state.language.render "disconnect.no_route" []))
  | sent {spec : ProtocolSpec} {line : String} {target resolved : LineTarget} {sessionId : Uuid}
      (admits : Admits state location handshake loginStart spec)
      (selects : Selects peer state location handshake loginStart (some (line, target)))
      (resolves : Resolves state target (.ok resolved)) :
      Decides peer state location handshake loginStart
        (transferPackets state.config.server.strictErrorHandling spec loginStart.username sessionId
          resolved)
        (.sent (.of spec (offlineUuid loginStart.username) loginStart.username
          state.config.server.strictErrorHandling sessionId)
          ⟨resolved.host, Int32.ofNat resolved.port.toNat⟩)

variable {peer : SocketAddr} {state : RuntimeState} {location : IpLocation}
  {handshake : Handshake} {loginStart : LoginStart}

/-- The texts are not too long for the client. -/
def LoginVerdict.Fits (maxBytes : ℕ) : LoginVerdict → Prop
  | refused reason => byteLen (textComponent reason) ≤ maxBytes
  | sent profile target => byteLen profile.username ≤ maxBytes ∧ byteLen target.host ≤ maxBytes

/-- A client reads what was decided from the packets that were written. -/
lemma Decides.read {packets : List Packet} {verdict : LoginVerdict}
    (h : Decides peer state location handshake loginStart packets verdict)
    {maxFrameLength maxBytes : ℕ} (hmax : maxFrameLength < 2 ^ 31)
    (hframes : ∀ packet ∈ packets,
      (writeVarint packet.id ++ packet.payload).length ≤ maxFrameLength)
    (hfits : verdict.Fits maxBytes) :
    (awaitVerdict handshake.protocolVersion maxFrameLength maxBytes).wp Stream.handle
      Stream.closed (fun r _ => r = .ok verdict) ⟨frames packets, []⟩ := by
  cases h with
  | unsupported => exact wp_awaitVerdict_refused _ hmax (hframes _ List.mem_cons_self) hfits
  | username => exact wp_awaitVerdict_refused _ hmax (hframes _ List.mem_cons_self) hfits
  | blocked => exact wp_awaitVerdict_refused _ hmax (hframes _ List.mem_cons_self) hfits
  | unrouted => exact wp_awaitVerdict_refused _ hmax (hframes _ List.mem_cons_self) hfits
  | sent admits => exact wp_awaitVerdict_sent admits.supports.1 hmax hframes hfits.1 hfits.2

/-- Where a peer is, as far as the databases know. -/
def locationOf (peer : SocketAddr) (state : RuntimeState) : IpLocation :=
  match state.ip2region.lookup peer.ip StdDisplay.ipAddr with
  | .ok location => location
  | .error _ => .empty peer.ip

omit [StdParse] [StdHash] [StdDisplay] [Md5] in
lemma RuntimeState.HasLoaded.maxFrameLength_lt [Toml.Parse] [UrlParse]
    (hloaded : state.HasLoaded) : state.config.server.maxFrameLength < 2 ^ 31 := by
  obtain ⟨config, configPath, hloaded, hconfig⟩ := hloaded
  have hvalid := hloaded.spec.1
  simp only [AppConfig.validate, except_bind_eq_ok] at hvalid
  obtain ⟨_, hserver, -⟩ := hvalid
  rw [hconfig]
  exact ServerConfig.maxFrameLength_lt hserver

end Handler

/-! ### A player of the cluster -/

section Cluster

attribute [local instance] noXdb dottedParse asciiCase noHash noDisplay noMd5 httpsUrl clusterParse

end Cluster

end TransferGateway
