import TransferGateway.Protocol.LegacyText
import TransferGateway.Runtime.State
import TransferGateway.Server.Connection

/-!
# Logging in

A client that passes every check is sent to its backend: a Login Success, and after the client has
acknowledged it the Transfer. Every other client gets a Login Disconnect, or nothing when it does not
keep to the protocol.
-/

namespace TransferGateway

open Protocol

/-- The digest of `md-5`. -/
class Md5 where
  digest : List UInt8 → Vector UInt8 16

/-! ### Texts -/

/-- `serde_json::json!` of an object with the one field `text`. -/
def textComponent (text : String) : String :=
  "\x7b" ++ jsonString "text" ++ ":" ++ jsonString text ++ "\x7d"

def supportedProtocolsDescription (protocols : List Int32) : String :=
  if protocols.isEmpty then SUPPORTED_VERSION_RANGE
  else ", ".intercalate (protocols.map fun version => toString version.toInt)

/-! ### Names -/

inductive UsernameError where
  | length
  | characters
  deriving DecidableEq

def UsernameError.disconnectKey : UsernameError → String
  | length => "disconnect.invalid_username_length"
  | characters => "disconnect.invalid_username_characters"

def validateUsername (loginStart : LoginStart) : Except UsernameError Unit :=
  let length := loginStart.username.toList.length
  if !(3 ≤ length && length ≤ 16) then .error .length
  else if !loginStart.username.toList.all fun character =>
      character.isAlphanum || character == '_' then .error .characters
  else .ok ()

/-- The version and the variant are written over the digest. -/
def offlineUuid [Md5] (username : String) : Uuid :=
  let bytes := Md5.digest (asBytes "OfflinePlayer:" ++ asBytes username)
  let bytes := bytes.set 6 ((bytes[6] &&& 0x0F) ||| 0x30)
  bytes.set 8 ((bytes[8] &&& 0x3F) ||| 0x80)

/-! ### The handler -/

section Handler

variable [Xdb] [StdParse] [StdCase] [StdHash] [StdDisplay] [Md5]

def sendLoginDisconnect (reason : String) : ConnProg Unit :=
  onClient (writePacket LOGIN_DISCONNECT_PACKET_ID (encodeLoginDisconnect (textComponent reason)))

/-- `read_packet(..).await?.ok_or_else(..)?`. -/
def requirePacket (maxFrameLength : ℕ) (message : String) : ConnProg Packet := do
  match ← onClient (readPacket maxFrameLength) with
  | some packet => return packet
  | none => .fail (.other message)

omit [Xdb] [StdParse] [StdCase] [StdHash] [StdDisplay] [Md5] in
lemma all_requirePacket {P : (β : Type) → ConnOp β → Prop} (hbyte : P _ (.inl .readU8))
    (hexact : ∀ length, P _ (.inl (.readExact length))) (maxFrameLength : ℕ) (message : String) :
    (requirePacket maxFrameLength message).All P := by
  refine .bind (all_onClient_of (all_readPacket hbyte hexact _)) fun packet => ?_
  cases packet <;> trivial

def logSecurityBlock (peer : SocketAddr) (reason : BlockReason) (language : Language) :
    ConnProg Unit :=
  serve (.log .warn (language.render "log.security_blocked"
    [("kind", reason.label), ("ip", StdDisplay.ipAddr peer.ip)]))

def unsupportedProtocol (state : RuntimeState) (handshake : Handshake) : String :=
  state.language.render "disconnect.unsupported_protocol"
    [("supported", supportedProtocolsDescription state.config.server.supportedProtocols),
     ("protocol", toString handshake.protocolVersion.toInt)]

/-- The end of `handle_login`, for a client that has a target. -/
def transferPlayer (state : RuntimeState) (spec : ProtocolSpec) (loginStart : LoginStart)
    (line : String) (resolvedTarget : LineTarget) : ConnProg Unit := do
  let profileUuid := offlineUuid loginStart.username
  let sessionId ← serve .newUuid
  onClient (writePacket LOGIN_SUCCESS_PACKET_ID (encodeLoginSuccess spec profileUuid
    loginStart.username state.config.server.strictErrorHandling sessionId))
  let acknowledgement ← requirePacket state.config.server.maxFrameLength
    "client closed before login acknowledgement"
  if acknowledgement.id ≠ LOGIN_ACKNOWLEDGED_PACKET_ID then
    .fail (.other
      s!"unexpected login acknowledgement packet id {acknowledgement.id.toInt}")
  else do
    onClient (writePacket spec.configTransferPacketId
      (encodeTransfer resolvedTarget.host resolvedTarget.port))
    serve (.log .info (state.language.render "log.transfer"
      [("player", loginStart.username), ("line", line), ("target", formatTarget resolvedTarget)]))

/-- The middle of it, for a client that is not blocked: its route and its target. -/
def routePlayer (peer : SocketAddr) (state : RuntimeState) (location : IpLocation)
    (handshake : Handshake) (spec : ProtocolSpec) (loginStart : LoginStart) : ConnProg Unit := do
  match ← serve (.selectRoute (state.config.selectRouteWithHostContext location
    (some loginStart.username) (some handshake.host) state.security
    (StdDisplay.ipAddr peer.ip))) with
  | .error panic => .fail (.panic panic)
  | .ok none => sendLoginDisconnect (state.language.render "disconnect.no_route" [])
  | .ok (some (line, target)) => do
    match ← (state.dns.resolveTarget target target.resolveSrv).mapError .panic with
    | .error _ => do
      serve (.log .warn "Minecraft SRV target is unavailable")
      sendLoginDisconnect (state.language.render "disconnect.no_route" [])
    | .ok resolvedTarget => transferPlayer state spec loginStart line resolvedTarget

def admitPlayer (peer : SocketAddr) (state : RuntimeState) (location : IpLocation)
    (handshake : Handshake) (spec : ProtocolSpec) (loginStart : LoginStart) : ConnProg Unit :=
  match validateUsername loginStart with
  | .error error => sendLoginDisconnect (state.language.render error.disconnectKey [])
  | .ok () =>
    match state.security.check location with
    | some reason => do
      logSecurityBlock peer reason state.language
      sendLoginDisconnect (state.language.render reason.disconnectKey [])
    | none => routePlayer peer state location handshake spec loginStart

def handleLogin (peer : SocketAddr) (state : RuntimeState) (location : IpLocation)
    (handshake : Handshake) : ConnProg Unit :=
  match protocolSpec handshake.protocolVersion with
  | none => sendLoginDisconnect (unsupportedProtocol state handshake)
  | some spec =>
    if !state.config.server.supportedProtocols.isEmpty &&
        !state.config.server.supportedProtocols.contains handshake.protocolVersion then
      sendLoginDisconnect (unsupportedProtocol state handshake)
    else do
      let loginPacket ← requirePacket state.config.server.maxFrameLength
        "client closed before login start"
      let loginStart ← .ofExcept ((parseLoginStart loginPacket).mapError .protocol)
      admitPlayer peer state location handshake spec loginStart

/-! ### What is read and written -/

/-- The bytes of a packet were written, or an I/O error cut them short. -/
def Sends (r : Except ConnError Unit) (bytes : List UInt8) (events : List StreamEvent) : Prop :=
  r = .ok () ∧ events = [.wrote bytes] ∨
    ∃ e sent, r = .error (.protocol (.io e)) ∧ sent <+: bytes ∧ events = [.wrote sent]

/-- Everything that stands before a Login Success; `reads` is what the client has sent by then. -/
structure LoginGate (peer : SocketAddr) (state : RuntimeState) (location : IpLocation)
    (handshake : Handshake) (reads : List StreamEvent) (spec : ProtocolSpec)
    (loginStart : LoginStart) (resolvedTarget : LineTarget) : Prop where
  spec : protocolSpec handshake.protocolVersion = some spec
  supported : state.config.server.supportedProtocols = [] ∨
    handshake.protocolVersion ∈ state.config.server.supportedProtocols
  start : ∃ packet, IsFrame (bytesRead reads) packet ∧ parseLoginStart packet = .ok loginStart
  username : validateUsername loginStart = .ok ()
  admitted : state.security.check location = none
  /-- A route was selected, and its target resolved. -/
  target : ∃ line target counters counters',
    state.config.selectRouteWithHostContext location (some loginStart.username)
      (some handshake.host) state.security (StdDisplay.ipAddr peer.ip) counters =
        .ok (some (line, target), counters') ∧
    ∃ t t', (state.dns.resolveTarget target target.resolveSrv).Outcome Conn.handle Conn.shared t
      (.ok (.ok resolvedTarget)) t'

/-- The frame of a Login Success. -/
def successFrame (state : RuntimeState) (spec : ProtocolSpec) (loginStart : LoginStart)
    (sessionId : Uuid) : List UInt8 :=
  frame LOGIN_SUCCESS_PACKET_ID (encodeLoginSuccess spec (offlineUuid loginStart.username)
    loginStart.username state.config.server.strictErrorHandling sessionId)

/-- What a login has read and written when it ends with `r`. -/
inductive LoginRun (peer : SocketAddr) (state : RuntimeState) (location : IpLocation)
    (handshake : Handshake) : Except ConnError Unit → List StreamEvent → Prop where
  | nothing {e : ConnError} {reads : List StreamEvent} (hreads : ReadsOnly reads) :
      LoginRun peer state location handshake (.error e) reads
  | disconnect {r : Except ConnError Unit} {reads sent : List StreamEvent} {reason : String}
      (hreads : ReadsOnly reads)
      (hsent : Sends r (frame LOGIN_DISCONNECT_PACKET_ID
        (encodeLoginDisconnect (textComponent reason))) sent) :
      LoginRun peer state location handshake r (reads ++ sent)
  | successCut {reads : List StreamEvent} {spec : ProtocolSpec} {loginStart : LoginStart}
      {resolvedTarget : LineTarget} {sessionId : Uuid} {e : IoError} {sent : List UInt8}
      (hreads : ReadsOnly reads)
      (gate : LoginGate peer state location handshake reads spec loginStart resolvedTarget)
      (hsent : sent <+: successFrame state spec loginStart sessionId) :
      LoginRun peer state location handshake (.error (.protocol (.io e))) (reads ++ [.wrote sent])
  | success {reads reads' : List StreamEvent} {spec : ProtocolSpec} {loginStart : LoginStart}
      {resolvedTarget : LineTarget} {sessionId : Uuid} {e : ConnError} (hreads : ReadsOnly reads)
      (gate : LoginGate peer state location handshake reads spec loginStart resolvedTarget)
      (hreads' : ReadsOnly reads') :
      LoginRun peer state location handshake (.error e)
        (reads ++ .wrote (successFrame state spec loginStart sessionId) :: reads')
  | transfer {r : Except ConnError Unit} {reads reads' sent : List StreamEvent}
      {spec : ProtocolSpec} {loginStart : LoginStart} {resolvedTarget : LineTarget}
      {sessionId : Uuid} {acknowledgement : Packet} (hreads : ReadsOnly reads)
      (gate : LoginGate peer state location handshake reads spec loginStart resolvedTarget)
      (hreads' : ReadsOnly reads') (hframe : IsFrame (bytesRead reads') acknowledgement)
      (hid : acknowledgement.id = LOGIN_ACKNOWLEDGED_PACKET_ID)
      (hsent : Sends r (frame spec.configTransferPacketId
        (encodeTransfer resolvedTarget.host resolvedTarget.port)) sent) :
      LoginRun peer state location handshake r
        (reads ++ .wrote (successFrame state spec loginStart sessionId) :: (reads' ++ sent))

omit [Xdb] [StdParse] [StdCase] [StdHash] [StdDisplay] [Md5] in
lemma wp_send (id : Int32) (payload : List UInt8) (t : Conn) :
    (onClient (writePacket id payload)).wp Conn.handle Conn.shared (fun r t' =>
      ∃ sent, t'.client.history = t.client.history ++ sent ∧ Sends r (frame id payload) sent) t := by
  apply Prog.wp_mono (wp_onClient (wp_writePacket id payload t.client))
  rintro _ t' ⟨r, rfl, ⟨rfl, h⟩ | ⟨e, sent, rfl, hsent, h⟩⟩
  · exact ⟨_, h, Or.inl ⟨rfl, rfl⟩⟩
  · exact ⟨_, h, Or.inr ⟨e, sent, rfl, hsent, rfl⟩⟩

omit [Xdb] [StdParse] [StdCase] [StdHash] [StdDisplay] [Md5] in
lemma wp_requirePacket (maxFrameLength : ℕ) (message : String) (t : Conn) :
    (requirePacket maxFrameLength message).wp Conn.handle Conn.shared (fun r t' =>
      ∃ reads, t'.client.history = t.client.history ++ reads ∧ ReadsOnly reads ∧
        ∀ packet, r = .ok packet → IsFrame (bytesRead reads) packet) t := by
  refine Prog.wp_seq (wp_onClient (wp_readPacket maxFrameLength t.client)) ?_ ?_
  · rintro packet t' ⟨r, hr, reads, h⟩
    cases r with
    | error e => cases hr
    | ok packet =>
      cases hr
      cases packet with
      | none => exact ⟨reads, h.took.history, h.took.readsOnly, nofun⟩
      | some packet =>
        refine ⟨reads, h.took.history, h.took.readsOnly, fun packet' hpacket => ?_⟩
        cases hpacket
        exact h.of_packet _ rfl
  · rintro e t' ⟨r, -, reads, h⟩
    exact ⟨reads, h.took.history, h.took.readsOnly, nofun⟩

variable {peer : SocketAddr} {state : RuntimeState} {location : IpLocation}
  {handshake : Handshake}

/-- The login has come to its end as one of the runs. -/
def LoginEnds (peer : SocketAddr) (state : RuntimeState) (location : IpLocation)
    (handshake : Handshake) (before : List StreamEvent) (r : Except ConnError Unit) (t : Conn) :
    Prop :=
  ∃ events, t.client.history = before ++ events ∧ LoginRun peer state location handshake r events

lemma wp_disconnect {before reads : List StreamEvent} (hreads : ReadsOnly reads) (reason : String)
    {t : Conn} (ht : t.client.history = before ++ reads) :
    (sendLoginDisconnect reason).wp Conn.handle Conn.shared
      (LoginEnds peer state location handshake before) t := by
  apply Prog.wp_mono (wp_send _ _ t)
  rintro r t' ⟨sent, hhistory, hsent⟩
  exact ⟨reads ++ sent, by rw [hhistory, ht, List.append_assoc], .disconnect hreads hsent⟩

omit [Xdb] [StdParse] [StdCase] [StdHash] [StdDisplay] [Md5] in
lemma keeps_serve {ε α : Type} (o : ServerOp α) (history : List StreamEvent) :
    Prog.Keeps Conn.handle Conn.shared (fun t => t.client.history = history)
      (serve o : Prog ConnOp ε α) :=
  keeps_history (by simp [serve]) history

lemma wp_transferPlayer {before reads : List StreamEvent} {spec : ProtocolSpec}
    {loginStart : LoginStart} {line : String} {resolvedTarget : LineTarget}
    (hreads : ReadsOnly reads)
    (gate : LoginGate peer state location handshake reads spec loginStart resolvedTarget)
    {t : Conn} (ht : t.client.history = before ++ reads) :
    (transferPlayer state spec loginStart line resolvedTarget).wp Conn.handle Conn.shared
      (LoginEnds peer state location handshake before) t := by
  refine (keeps_serve _ _).seq ht (fun _ t₁ h₁ => ⟨reads, h₁, .nothing hreads⟩)
    fun sessionId t₁ h₁ => ?_
  refine Prog.wp_seq (wp_send _ _ t₁) ?_ ?_
  · rintro _ t₂ ⟨sent, h₂, ⟨-, rfl⟩ | ⟨_, _, hr, -⟩⟩
    · refine Prog.wp_seq (wp_requirePacket _ _ t₂) ?_ ?_
      · rintro acknowledgement t₃ ⟨reads', h₃, hreads', hframe⟩
        have hhistory : t₃.client.history = before ++
            (reads ++ .wrote (successFrame state spec loginStart sessionId) :: reads') := by
          rw [h₃, h₂, h₁]
          simp [successFrame]
        split
        · exact ⟨_, hhistory, .success hreads gate hreads'⟩
        · rename_i hid
          have hends : ∀ r t₄ sent, t₄.client.history = t₃.client.history ++ sent →
              Sends r (frame spec.configTransferPacketId
                (encodeTransfer resolvedTarget.host resolvedTarget.port)) sent →
              LoginEnds peer state location handshake before r t₄ := by
            intro r t₄ sent h₄ hsent
            have hhistory' : t₄.client.history = before ++ (reads ++
                .wrote (successFrame state spec loginStart sessionId) :: (reads' ++ sent)) := by
              rw [h₄, hhistory]
              simp
            exact ⟨_, hhistory', .transfer hreads gate hreads' (hframe _ rfl) (not_not.mp hid) hsent⟩
          refine Prog.wp_seq (wp_send _ _ t₃) ?_ fun e t₄ ⟨sent, h₄, hsent⟩ => hends _ t₄ sent h₄ hsent
          rintro _ t₄ ⟨sent, h₄, hsent⟩ t₅ h₅ c -
          exact hends _ _ sent (h₅.1.trans h₄) hsent
      · rintro e t₃ ⟨reads', h₃, hreads', -⟩
        refine ⟨reads ++ .wrote (successFrame state spec loginStart sessionId) :: reads', ?_,
          .success hreads gate hreads'⟩
        rw [h₃, h₂, h₁]
        simp [successFrame]
    · cases hr
  · rintro e t₂ ⟨sent, h₂, ⟨hr, -⟩ | ⟨_, sent, hr, hsent, rfl⟩⟩
    · cases hr
    · cases hr
      exact ⟨_, by rw [h₂, h₁, List.append_assoc], .successCut hreads gate hsent⟩

lemma wp_routePlayer {before reads : List StreamEvent} {spec : ProtocolSpec}
    {loginStart : LoginStart} (hreads : ReadsOnly reads)
    (hspec : protocolSpec handshake.protocolVersion = some spec)
    (hsupported : state.config.server.supportedProtocols = [] ∨
      handshake.protocolVersion ∈ state.config.server.supportedProtocols)
    (hstart : ∃ packet, IsFrame (bytesRead reads) packet ∧ parseLoginStart packet = .ok loginStart)
    (husername : validateUsername loginStart = .ok ())
    (hadmitted : state.security.check location = none)
    {t : Conn} (ht : t.client.history = before ++ reads) :
    (routePlayer peer state location handshake spec loginStart).wp Conn.handle Conn.shared
      (LoginEnds peer state location handshake before) t := by
  rw [routePlayer]
  rw [Prog.wp_bind]
  rintro t₁ h₁ c -
  have ht₁ : t₁.client.history = before ++ reads := h₁.1.trans ht
  simp only [Conn.step]
  generalize hselect : state.config.selectRouteWithHostContext location (some loginStart.username)
    (some handshake.host) state.security (StdDisplay.ipAddr peer.ip) t₁.counters = selected
  obtain panic | ⟨_ | ⟨line, target⟩, counters⟩ := selected
  · exact ⟨reads, ht₁, .nothing hreads⟩
  · exact wp_disconnect hreads _ ht₁
  · -- a route was selected
    refine Prog.wp_seq (R := fun r t' => t'.client.history = before ++ reads ∧
      ∀ result, r = .ok result → ∃ t t',
        (state.dns.resolveTarget target target.resolveSrv).Outcome Conn.handle Conn.shared t
          (.ok result) t') ?_ ?_ fun e t₂ h₂ => ⟨reads, h₂.1, .nothing hreads⟩
    · rw [Prog.wp_mapError]
      refine Prog.wp_mono (Prog.wp_and (keeps_history (all_resolveTarget (by simp) rfl (by simp) ..) _ _ ht₁)
        (Prog.wp_outcome _ _)) ?_
      rintro r t' ⟨h, hout⟩
      refine ⟨h, ?_⟩
      cases r with
      | error panic => simp
      | ok result =>
        intro result' hr
        cases hr
        exact ⟨_, _, hout⟩
    · rintro result t₂ ⟨h₂, hresolved⟩
      cases result with
      | error message =>
        exact (keeps_serve _ _).seq h₂ (fun _ t₃ h₃ => ⟨reads, h₃, .nothing hreads⟩)
          fun _ t₃ h₃ => wp_disconnect hreads _ h₃
      | ok resolvedTarget =>
        exact wp_transferPlayer hreads ⟨hspec, hsupported, hstart, husername, hadmitted, line, target,
          t₁.counters, counters, hselect, hresolved _ rfl⟩ h₂

/-- Whatever the client sends, a login writes nothing, a Login Disconnect, a Login Success, or a
Login Success and a Transfer, unless an I/O error cuts it short; the last two behind the checks. -/
theorem handleLogin_runs (peer : SocketAddr) (state : RuntimeState) (location : IpLocation)
    (handshake : Handshake) (t : Conn) :
    (handleLogin peer state location handshake).wp Conn.handle Conn.shared
      (LoginEnds peer state location handshake t.client.history) t := by
  have ht : t.client.history = t.client.history ++ [] := (List.append_nil _).symm
  rw [handleLogin]
  split
  next => exact wp_disconnect readsOnly_nil _ ht
  next spec hspec =>
    split
    next => exact wp_disconnect readsOnly_nil _ ht
    next hsupported =>
      refine Prog.wp_seq (wp_requirePacket _ _ t) ?_ ?_
      · rintro packet t₁ ⟨reads, h₁, hreads, hframe⟩
        rw [Prog.wp_bind, Prog.wp_ofExcept]
        cases hparse : parseLoginStart packet with
        | error e => exact ⟨reads, h₁, .nothing hreads⟩
        | ok loginStart =>
          simp only [Except.mapError]
          rw [admitPlayer]
          split
          next => exact wp_disconnect hreads _ h₁
          next husername =>
            split
            next =>
              exact (keeps_serve _ _).seq h₁ (fun _ t₂ h₂ => ⟨reads, h₂, .nothing hreads⟩)
                fun _ t₂ h₂ => wp_disconnect hreads _ h₂
            next hadmitted =>
              refine wp_routePlayer hreads hspec ?_ ⟨packet, hframe _ rfl, hparse⟩ husername
                hadmitted h₁
              simpa [or_iff_not_imp_left] using hsupported
      · rintro e t₁ ⟨reads, h₁, hreads, -⟩
        exact ⟨reads, h₁, .nothing hreads⟩

end Handler

end TransferGateway
