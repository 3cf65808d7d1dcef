import TransferGateway.Server.StatusSession

/-!
# What a handler does to others

Whatever its client, the backend, the DNS and the other handlers do, a handler does not panic, and
wherever it is dropped it has asked a backend nothing but a status query for its client.
-/

namespace TransferGateway

open Protocol Grammar

/-! ### Panics -/

/-- No execution ends with a panic. -/
abbrev CalmConn {α : Type} (p : ConnProg α) : Prop :=
  p.Raises Conn.handle Conn.shared fun e => e.isPanic = false

/-- No execution ends with a panic. -/
abbrev Calm {α : Type} (p : TaskProg α) : Prop :=
  p.Raises Task.handle Task.others fun e => e.isPanic = false

variable {α : Type}

lemma raises_readPacket (maxFrameLength : ℕ) :
    (readPacket maxFrameLength).Raises Stream.handle Stream.peer NoPanic := by
  intro s
  apply Prog.wp_mono (wp_readPacket maxFrameLength s)
  exact fun _ _ ⟨_, h⟩ => h.noPanic

lemma raises_writePacket (id : Int32) (payload : List UInt8) :
    (writePacket id payload).Raises Stream.handle Stream.peer NoPanic := by
  intro s
  apply Prog.wp_mono (wp_writePacket id payload s)
  rintro r s' (⟨rfl, -⟩ | ⟨e, sent, rfl, -⟩) e' he'
  · cases he'
  · cases he'
    simp [NoPanic]

lemma calm_onClient {p : StreamProg α} (hp : p.Raises Stream.handle Stream.peer NoPanic) :
    CalmConn (onClient p) :=
  .mapError (.lift _ Conn.client ConnChoice.stream (fun h => h) (fun _ => trivial)
    (fun _ _ _ => rfl) hp) fun _ => isPanic_protocol

lemma calm_onConn {p : ConnProg α} (hp : CalmConn p) : Calm (onConn p) :=
  .lift _ Task.conn id And.left (fun _ => trivial) (fun _ _ _ => rfl) hp

lemma calm_onBackend {p : StreamProg α} (hp : p.Raises Stream.handle Stream.peer NoPanic) :
    Calm (onBackend p) :=
  .mapError (.lift _ Task.backend ConnChoice.stream And.right (fun _ => trivial)
    (fun _ _ _ => rfl) hp) fun _ => isPanic_protocol

lemma calm_onSocket (o : SocketOp (Except IoError Unit)) : Calm (onSocket o) := by
  refine .bind (.perform _) fun r => .ofExcept fun e he => ?_
  cases r with
  | ok a => cases he
  | error e =>
    cases he
    rfl

lemma calm_resultOf {p : TaskProg α} (hp : Calm p) : Calm (resultOf p) := by
  intro t
  apply Prog.wp_mono (wp_resultOf (hp t) fun e t' h => h e rfl)
  rintro r t' ⟨r', rfl, -⟩ e he
  cases he

lemma calm_requirePacket (maxFrameLength : ℕ) (message : String) :
    CalmConn (requirePacket maxFrameLength message) := by
  refine .bind (calm_onClient (raises_readPacket maxFrameLength)) fun packet => ?_
  cases packet with
  | none => exact .fail rfl
  | some packet => exact .ret _

/-- What is parsed does not make the parser panic. -/
lemma noPanic_parse {reader : Reader α} (hreader : Fails reader NoPanic) {payload : List UInt8}
    {e : ProtocolError} (he : parse reader payload = .error e) : NoPanic e := by
  rintro panic rfl
  exact parse_ne_panic hreader payload panic he

lemma noPanic_parseHandshake {packet : Packet} {e : ProtocolError}
    (he : parseHandshake packet = .error e) : NoPanic e := by
  rw [parseHandshake_eq] at he
  split at he
  · exact noPanic_parse noPanic_readHandshake he
  · cases he
    simp [NoPanic]

lemma noPanic_parseLoginStart {packet : Packet} {e : ProtocolError}
    (he : parseLoginStart packet = .error e) : NoPanic e := by
  rw [parseLoginStart_eq] at he
  split at he
  · exact noPanic_parse noPanic_readLoginStart he
  · cases he
    simp [NoPanic]

lemma noPanic_readPing : Fails readPing NoPanic := by
  rw [readPing, readI64, bind_assoc]
  refine (noPanic_readBytes 8).bind (recognizes_readBytes 8) fun bytes _ _ => ?_
  rw [pure_bind]
  exact noPanic_expectEnd _

/-- Its error is one of the protocol, and no panic. -/
lemma raises_protocol {S : Type → Type} {C σ : Type} {h : Handler S C σ} {E : Env C σ}
    {x : Except ProtocolError α} (hx : ∀ e, x = .error e → NoPanic e) :
    (Prog.ofExcept (x.mapError ConnError.protocol) : Prog S ConnError α).Raises h E
      fun e => e.isPanic = false := by
  refine .ofExcept fun e he => ?_
  cases x with
  | ok a => cases he
  | error e' =>
    cases he
    exact isPanic_protocol (hx e' rfl)

section Handler

variable [Xdb] [StdParse] [StdCase] [StdHash] [StdDisplay] {state : RuntimeState}

omit [StdParse] [StdDisplay] in
/-- The selection of a route does not panic. -/
lemma RuntimeState.HasLoaded.selects [Toml.Parse] [UrlParse] (hloaded : state.HasLoaded)
    (location : IpLocation) (username host : Option String) (clientIp : String)
    (counters : Counters) :
    ∃ selected, state.config.selectRouteWithHostContext location username host state.security
      clientIp counters = .ok selected := by
  obtain ⟨config, configPath, hloaded, hconfig⟩ := hloaded
  rw [hconfig]
  exact hloaded.selectRoute_ok location username host state.security clientIp counters

variable [Md5] {peer : SocketAddr} {location : IpLocation} {handshake : Handshake}

omit [StdParse] [StdCase] [StdHash] [StdDisplay] in
lemma calm_transferPlayer (spec : ProtocolSpec) (loginStart : LoginStart) (line : String)
    (resolvedTarget : LineTarget) :
    CalmConn (transferPlayer state spec loginStart line resolvedTarget) := by
  refine .bind (.perform _) fun sessionId => ?_
  refine .bind (calm_onClient (raises_writePacket _ _)) fun _ => ?_
  refine .bind (calm_requirePacket _ _) fun acknowledgement => ?_
  split
  · exact .fail rfl
  · exact .bind (calm_onClient (raises_writePacket _ _)) fun _ => .perform _

omit [Xdb] [StdParse] [StdCase] [StdHash] [StdDisplay] [Md5] in
lemma calm_sendLoginDisconnect (reason : String) : CalmConn (sendLoginDisconnect reason) :=
  calm_onClient (raises_writePacket _ _)

lemma calm_routePlayer [Toml.Parse] [UrlParse] (hloaded : state.HasLoaded) (spec : ProtocolSpec)
    (loginStart : LoginStart) :
    CalmConn (routePlayer peer state location handshake spec loginStart) := by
  intro t
  rw [routePlayer, Prog.wp_bind]
  intro t₁ _ c _
  obtain ⟨⟨selected, counters⟩, hselect⟩ := hloaded.selects location (some loginStart.username)
    (some handshake.host) (StdDisplay.ipAddr peer.ip) t₁.counters
  simp only [Conn.step, hselect]
  cases selected with
  | none => exact calm_sendLoginDisconnect _ _
  | some route =>
    obtain ⟨line, target⟩ := route
    refine Prog.Raises.bind (.mapError (R := fun _ => False) (.of_throws (throws_resolveTarget ..))
      fun _ => False.elim) (fun resolved => ?_) _
    cases resolved with
    | error message => exact .bind (.perform _) fun _ => calm_sendLoginDisconnect _
    | ok resolved => exact calm_transferPlayer _ _ _ _

lemma calm_handleLogin [Toml.Parse] [UrlParse] (hloaded : state.HasLoaded) :
    CalmConn (handleLogin peer state location handshake) := by
  rw [handleLogin]
  split
  · exact calm_sendLoginDisconnect _
  split
  · exact calm_sendLoginDisconnect _
  refine .bind (calm_requirePacket _ _) fun packet =>
    .bind (raises_protocol fun e => noPanic_parseLoginStart) fun loginStart => ?_
  rw [admitPlayer]
  split
  · exact calm_sendLoginDisconnect _
  split
  · exact .bind (.perform _) fun _ => calm_sendLoginDisconnect _
  · exact calm_routePlayer hloaded _ _

omit [StdCase] [StdDisplay] [Md5] [StdHash] [StdParse] in
lemma calm_answerPing (hasBackend : Bool) : Calm (answerPing state hasBackend) := by
  refine .bind (calm_onConn (calm_requirePacket _ _)) fun ping => ?_
  split
  · exact .fail rfl
  refine .bind (raises_protocol fun e => noPanic_parse noPanic_readPing) fun value => ?_
  refine .bind (calm_onConn (calm_onClient (raises_writePacket _ _))) fun _ => ?_
  split
  · refine .bind (calm_resultOf ?_) fun result => ?_
    · refine .bind (calm_onBackend (raises_writePacket _ _)) fun _ => ?_
      refine .bind (calm_onBackend (raises_readPacket _)) fun pong => ?_
      cases pong with
      | none => exact .fail rfl
      | some pong =>
        dsimp only
        split
        · exact .fail rfl
        · exact .ret _
    · cases result with
      | ok u => exact .ret _
      | error e => exact calm_onConn (.perform _)
  · exact .ret _

omit [Md5] in
lemma calm_handleStatus [Toml.Parse] [UrlParse] (hloaded : state.HasLoaded) :
    Calm (handleStatus peer state location handshake) := by
  refine .bind (calm_onConn (calm_requirePacket _ _)) fun request => ?_
  split
  · exact .fail rfl
  split
  · exact calm_onConn (.perform _)
  refine .bind (fun t => ?_) fun answer => .bind (calm_onConn (calm_onClient
    (raises_writePacket _ _))) fun _ => calm_answerPing _
  apply Prog.wp_mono (wp_statusPayload hloaded t)
  rintro r t' ⟨answer, rfl, -⟩ e he
  cases he

/-- Whatever the client and the backend send, whatever the DNS answers and wherever an operation
fails, a handler of a configuration that was loaded does not panic. -/
theorem handleConnection_calm [Toml.Parse] [UrlParse] (hloaded : state.HasLoaded) :
    Calm (handleConnection peer state) := by
  refine .bind (calm_onSocket _) fun _ => ?_
  refine .bind (calm_onConn (calm_requirePacket _ _)) fun packet => ?_
  refine .bind (raises_protocol fun e => noPanic_parseHandshake) fun handshake => ?_
  refine .bind (calm_onConn ?_) fun location => ?_
  · rw [lookupLocation]
    split
    · exact .ret _
    · exact .bind (.perform _) fun _ => .ret _
  cases handshake.nextState with
  | status => exact .bind (calm_handleStatus hloaded) fun _ => calm_onSocket _
  | login => exact .bind (calm_onConn (calm_handleLogin hloaded)) fun _ => calm_onSocket _
  | transfer => exact .bind (calm_onConn (calm_handleLogin hloaded)) fun _ => calm_onSocket _

end Handler

/-! ### What a backend is asked -/

section Handler

variable [Xdb] [StdParse] [StdCase] [StdHash] [StdDisplay]

/-- The packets of a status query. -/
def queryOf (handshake : Handshake) (target : LineTarget) : List Packet :=
  [⟨HANDSHAKE_PACKET_ID,
      encodeHandshake handshake.protocolVersion target.host target.port 1⟩, ⟨0, []⟩]

/-- A route was selected for a query, and its target resolved. -/
def QueryTarget (peer : SocketAddr) (state : RuntimeState) (handshake : Handshake)
    (resolved : LineTarget) : Prop :=
  ∃ line target counters counters',
    state.config.selectRouteWithHostContext (locationOf peer state) none (some handshake.host)
      state.security (StdDisplay.ipAddr peer.ip) counters = .ok (some (line, target), counters') ∧
    ∃ t t', (state.dns.resolveTarget target target.resolveSrv).Outcome Conn.handle Conn.shared t
      (.ok (.ok resolved)) t'

/-- What a backend has been asked by the time that a client has this history. -/
inductive Asked (peer : SocketAddr) (state : RuntimeState) (before history : List StreamEvent) :
    List UInt8 → Prop where
  | nothing : Asked peer state before history []
  | query {handshake : Handshake} {reads : List StreamEvent} {resolved : LineTarget}
      {asked : List UInt8} (queried : Queried state (locationOf peer state) handshake reads)
      (target : QueryTarget peer state handshake resolved) (came : before ++ reads <+: history)
      (h : asked <+: frames (queryOf handshake resolved)) : Asked peer state before history asked
  /-- Behind the query the client's own ping, once the client has its pong. -/
  | ping {handshake : Handshake} {reads reads' : List StreamEvent} {resolved : LineTarget}
      {payload ping asked : List UInt8}
      (queried : Queried state (locationOf peer state) handshake reads)
      (target : QueryTarget peer state handshake resolved) (readsOnly : ReadsOnly reads')
      (frame_ping : IsFrame (bytesRead reads') ⟨1, ping⟩) (length : ping.length = 8)
      (came : before ++ reads ++ .wrote (frame 0 payload) :: (reads' ++ [.wrote (frame 1 ping)]) <+:
        history)
      (h : asked <+: frames (queryOf handshake resolved ++ [⟨1, ping⟩])) :
      Asked peer state before history asked

variable {peer : SocketAddr} {state : RuntimeState} {handshake : Handshake}
  {before : List StreamEvent}

lemma Asked.mono {history history' : List StreamEvent} {asked : List UInt8}
    (h : Asked peer state before history asked) (hhistory : history <+: history') :
    Asked peer state before history' asked := by
  cases h with
  | nothing => exact .nothing
  | query queried target came h => exact .query queried target (came.trans hhistory) h
  | ping queried target readsOnly frame_ping length came h =>
    exact .ping queried target readsOnly frame_ping length (came.trans hhistory) h

/-- What the backend of a task has been asked. -/
def AskedBy (peer : SocketAddr) (state : RuntimeState) (before : List StreamEvent) (t : Task) :
    Prop :=
  Asked peer state before t.conn.client.history (bytesWritten t.backend.history)

/-- The operation writes nothing to a backend. -/
def AsksNothing : (β : Type) → TaskOp β → Prop
  | _, .inr (.inl (.writeAll _)) => False
  | _, _ => True

lemma AskedBy.arrives {t t' : Task} (h : AskedBy peer state before t)
    (ht : Task.others.interferes t t') : AskedBy peer state before t' := by
  rwa [AskedBy, ht.1.1, ht.2.1]

/-- The history of the client, and what the backend has been asked. -/
def Task.StandsAt (history : List StreamEvent) (asked : List UInt8) (t : Task) : Prop :=
  t.conn.client.history = history ∧ bytesWritten t.backend.history = asked

/-- The operation leaves the client alone, and what the backend has been asked. -/
def StandsStill : (β : Type) → TaskOp β → Prop
  | _, .inl (.inl _) | _, .inr (.inl (.writeAll _)) | _, .inr (.inr (.connect _)) => False
  | _, _ => True

omit [Xdb] [StdParse] [StdCase] [StdHash] [StdDisplay] in
lemma StandsStill.step {β : Type} {o : TaskOp β} (ho : StandsStill β o) (c : ConnChoice)
    {history : List StreamEvent} {asked : List UInt8} {t : Task} (h : t.StandsAt history asked) :
    (t.step o c).2.StandsAt history asked := by
  rcases o with (o | o) | o | o
  · exact ho.elim
  · cases o with
    | selectRoute select =>
      simp only [Task.step, Conn.step]
      split <;> exact h
    | _ => exact h
  · cases o with
    | writeAll bytes => exact ho.elim
    | _ => exact ⟨h.1, (Stream.bytesWritten_step rfl _ _).trans h.2⟩
  · cases o with
    | connect address => exact ho.elim
    | _ =>
      simp only [Task.step]
      split <;> exact h

lemma AsksNothing.askedBy {β : Type} {o : TaskOp β} (ho : AsksNothing β o) (c : ConnChoice)
    {t : Task} (h : AskedBy peer state before t) : AskedBy peer state before (t.step o c).2 := by
  have hstill : StandsStill β o → AskedBy peer state before (t.step o c).2 := by
    intro hstill
    obtain ⟨hhistory, hwritten⟩ := hstill.step c ⟨rfl, rfl⟩
    rwa [AskedBy, hhistory, hwritten]
  rcases o with o | o | o
  · exact h.mono (t.conn.step_history o c)
  · cases o with
    | writeAll bytes => exact ho.elim
    | _ => exact hstill trivial
  · cases o with
    | connect address =>
      simp only [Task.step]
      split
      · exact h
      · exact .nothing
    | _ => exact hstill trivial

/-- A part of a handler that writes nothing to a backend. -/
lemma along_asksNothing {α : Type} {p : TaskProg α} (hp : p.All AsksNothing) {t : Task}
    {Q : Except ConnError α → Task → Prop} (hQ : p.wp Task.handle Task.others Q t)
    (ht : AskedBy peer state before t) :
    p.along Task.handle Task.others (AskedBy peer state before)
      (fun r t' => AskedBy peer state before t' ∧ Q r t') t :=
  Prog.along_mono (Prog.along_and (Prog.along_of_all hp (fun h ht => ht.arrives h)
    (fun _ ho c _ _ ht => ho.askedBy c ht) ht) (Prog.along_true hQ)) (fun _ h => h.1) fun _ _ h => h

omit [Xdb] [StdParse] [StdCase] [StdHash] [StdDisplay] in
lemma along_writePacket (id : Int32) (payload : List UInt8) {written : List UInt8} {s : Stream}
    (hs : bytesWritten s.history = written) :
    (writePacket id payload).along Stream.handle Stream.peer
      (fun s' => ∃ sent, sent <+: frame id payload ∧ bytesWritten s'.history = written ++ sent)
      (fun r s' => r = .ok () → bytesWritten s'.history = written ++ frame id payload) s := by
  refine ⟨⟨[], List.nil_prefix, by rw [hs, List.append_nil]⟩, ?_⟩
  rintro s₁ ⟨h₁, -⟩ c -
  have hwrote : ∀ bytes, bytesWritten (s₁.send bytes).history = written ++ bytes := by
    intro bytes
    rw [Stream.send, bytesWritten_append, h₁, hs]
    simp [bytesWritten]
  cases hfault : c.fault with
  | some e =>
    simp only [Stream.step, hfault]
    exact ⟨⟨_, List.take_prefix _ _, hwrote _⟩, fun hr => by cases hr⟩
  | none =>
    simp only [Stream.step, hfault]
    refine ⟨⟨_, List.prefix_rfl, hwrote _⟩, ?_⟩
    rintro s₂ ⟨h₂, -⟩ c' -
    have hwrote' : bytesWritten s₂.history = written ++ frame id payload := by
      rw [h₂]
      exact hwrote _
    cases hfault' : c'.fault with
    | some e =>
      simp only [Stream.step, hfault']
      exact ⟨⟨_, List.prefix_rfl, hwrote'⟩, fun _ => hwrote'⟩
    | none =>
      simp only [Stream.step, hfault']
      exact ⟨⟨_, List.prefix_rfl, hwrote'⟩, fun _ => hwrote'⟩

omit [Xdb] [StdParse] [StdCase] [StdHash] [StdDisplay] in
lemma Task.StandsAt.interferes {history : List StreamEvent} {asked : List UInt8} {t t' : Task}
    (h : t.StandsAt history asked) (ht : Task.others.interferes t t') :
    t'.StandsAt history asked :=
  ⟨ht.1.1.trans h.1, by rw [ht.2.1, h.2]⟩

lemma along_standsStill {α : Type} {p : TaskProg α} (hp : p.All StandsStill)
    {history : List StreamEvent} {asked : List UInt8} {t : Task} (ht : t.StandsAt history asked)
    (h : Asked peer state before history asked) :
    p.along Task.handle Task.others (AskedBy peer state before)
      (fun _ t' => t'.StandsAt history asked) t := by
  refine Prog.along_mono (Prog.along_of_all hp (fun hs ht => ht.interferes hs)
    (fun _ ho c _ _ ht => ho.step c ht) ht) (fun t' ht' => ?_) fun _ _ h => h
  rwa [AskedBy, ht'.1, ht'.2]

/-- A packet is written to the backend, whole or in part. -/
lemma along_ask (id : Int32) (payload : List UInt8) {history : List StreamEvent}
    {asked : List UInt8} {t : Task} (ht : t.StandsAt history asked)
    (hasks : ∀ sent, sent <+: frame id payload → Asked peer state before history (asked ++ sent)) :
    (onBackend (writePacket id payload)).along Task.handle Task.others (AskedBy peer state before)
      (fun r t' => r = .ok () → t'.StandsAt history (asked ++ frame id payload)) t := by
  have hclient := Prog.along_of_all (h := Task.handle) (E := Task.others) (P := OffClient)
    (I := fun t' => t'.conn.client.history = history) (s := t)
    (all_onBackend (fun _ => trivial) (writePacket id payload)) Task.others_history
    (fun o ho c _ s hs => by rw [ho.step_client]; exact hs) ht.1
  have hwrite : (onBackend (writePacket id payload)).along Task.handle Task.others
      (fun t' => ∃ sent, sent <+: frame id payload ∧
        bytesWritten t'.backend.history = asked ++ sent)
      (fun r t' => r = .ok () → bytesWritten t'.backend.history = asked ++ frame id payload) t := by
    refine Prog.along_mapError (Prog.along_mono (Prog.along_lift _ Task.backend ConnChoice.stream
      And.right (fun _ => trivial) (fun _ _ _ => rfl) (along_writePacket id payload ht.2))
      (fun _ h => h) fun r t' h hr => ?_)
    cases r with
    | ok u => exact h rfl
    | error e => cases hr
  refine Prog.along_mono (Prog.along_and hclient hwrite) ?_ fun _ _ h hr => ⟨h.1, h.2 hr⟩
  rintro t' ⟨hclient', sent, hsent, hwritten⟩
  rw [AskedBy, hclient', hwritten]
  exact hasks sent hsent

omit [Xdb] [StdParse] [StdCase] [StdHash] [StdDisplay] in
lemma all_onBackend_of {α : Type} {P : (β : Type) → TaskOp β → Prop} {p : StreamProg α}
    (hp : p.All fun β o => P β (.inr (.inl o))) : (onBackend p).All P :=
  (Prog.all_mapError ..).mpr (hp.lift fun _ h => h)

/-- An operation on a socket that does not fail is on a backend that has been asked nothing yet. -/
lemma along_connect (address : String) {history : List StreamEvent} {asked : List UInt8} {t : Task}
    (ht : t.StandsAt history asked) (h : Asked peer state before history asked) :
    (onSocket (.connect address)).along Task.handle Task.others (AskedBy peer state before)
      (fun r t' => r = .ok () → t'.StandsAt history []) t := by
  have hasked : AskedBy peer state before t := by rwa [AskedBy, ht.1, ht.2]
  refine Prog.along_mono (along_asksNothing (all_onSocket trivial) (wp_onSocket
    (Q := fun r t' => r = .ok () → t'.StandsAt history []) (fun t₁ c ht₁ hok _ => ?_)
    fun _ _ hr => by cases hr) hasked) (fun _ h => h) fun _ _ h => h.2
  cases hfault : c.stream.fault with
  | none =>
    simp only [Task.step, hfault]
    exact ⟨ht₁.1.1.trans ht.1, rfl⟩
  | some e => simp [Task.step, hfault] at hok

lemma along_proxyStatusResponse {reads : List StreamEvent} {line : String} {target : LineTarget}
    (queried : Queried state (locationOf peer state) handshake reads)
    (hselects : ∃ counters counters', state.config.selectRouteWithHostContext
      (locationOf peer state) none (some handshake.host) state.security
      (StdDisplay.ipAddr peer.ip) counters = .ok (some (line, target), counters'))
    (maxFrameLength : ℕ) {asked : List UInt8} {t : Task}
    (ht : t.StandsAt (before ++ reads) asked) (h : Asked peer state before (before ++ reads) asked) :
    (proxyStatusResponse handshake.protocolVersion target state.dns maxFrameLength).along
      Task.handle Task.others (AskedBy peer state before) (fun r t' => ∀ response,
        r = .ok response → ∃ resolved, QueryTarget peer state handshake resolved ∧
          t'.StandsAt (before ++ reads) (frames (queryOf handshake resolved))) t := by
  rw [proxyStatusResponse]
  have hresolve : ((state.dns.resolveTarget target target.resolveSrv).mapError .panic).wp
      Conn.handle Conn.shared (fun (r : Except ConnError _) _ => ∀ resolved,
        r = .ok (.ok resolved) → QueryTarget peer state handshake resolved) t.conn := by
    rw [Prog.wp_mapError]
    apply Prog.wp_mono (Prog.wp_outcome _ _)
    intro r t' hout resolved hr
    cases r with
    | error panic => cases hr
    | ok resolved' =>
      cases hr
      obtain ⟨counters, counters', hselects⟩ := hselects
      exact ⟨line, target, counters, counters', hselects, _, _, hout⟩
  refine Prog.along_seq (Prog.along_mono (Prog.along_and (along_standsStill
    (all_onConn ((Prog.all_mapError ..).mpr (all_resolveTarget (fun _ _ => trivial) trivial
      (fun _ _ => trivial) ..))) ht h) (Prog.along_true (wp_onConn hresolve))) (fun _ h => h.1) fun _ _ h => h)
    ?_ fun _ _ _ _ hr => by cases hr
  rintro resolved t₁ ⟨h₁, hresolved⟩
  have hasked₁ : AskedBy peer state before t₁ := by rwa [AskedBy, h₁.1, h₁.2]
  cases resolved with
  | error message => exact ⟨hasked₁, fun _ hr => by cases hr⟩
  | ok resolved =>
    have htarget := hresolved resolved rfl
    have hframes : frames (queryOf handshake resolved) = [] ++ frame HANDSHAKE_PACKET_ID
        (encodeHandshake handshake.protocolVersion resolved.host resolved.port 1) ++ frame 0 [] := by
      simp [frames, queryOf]
    have hquery : ∀ {asked}, asked <+: frames (queryOf handshake resolved) →
        Asked peer state before (before ++ reads) asked :=
      fun h => .query queried htarget List.prefix_rfl h
    refine Prog.along_seq (along_connect _ h₁ h) (fun _ t₂ h₂ => ?_) fun _ _ _ _ hr => by cases hr
    refine Prog.along_seq (along_standsStill (all_onSocket (o := .setNodelay) trivial) (h₂ rfl)
      .nothing)
      (fun _ t₃ h₃ => ?_) fun _ _ _ _ hr => by cases hr
    refine Prog.along_seq (along_ask _ _ h₃ fun sent hsent => ?_) (fun _ t₄ h₄ => ?_)
      fun _ _ _ _ hr => by cases hr
    · rw [List.nil_append]
      exact hquery (hframes ▸ hsent.trans (List.prefix_append _ _))
    refine Prog.along_seq (along_ask _ _ (h₄ rfl) fun sent hsent => ?_) (fun _ t₅ h₅ => ?_)
      fun _ _ _ _ hr => by cases hr
    · exact hquery (hframes ▸ (List.prefix_append_right_inj _).mpr hsent)
    have hwhole : t₅.StandsAt (before ++ reads) (frames (queryOf handshake resolved)) :=
      hframes ▸ h₅ rfl
    have hread : (onBackend (readPacket maxFrameLength)).All StandsStill :=
      all_onBackend_of (all_readPacket trivial (fun _ => trivial) _)
    refine Prog.along_seq (along_standsStill hread hwhole (hquery List.prefix_rfl))
      (fun response t₆ h₆ => ?_) fun _ _ _ _ hr => by cases hr
    have hasked₆ : AskedBy peer state before t₆ := by
      rw [AskedBy, h₆.1, h₆.2]
      exact hquery List.prefix_rfl
    cases response with
    | none => exact ⟨hasked₆, fun _ hr => by cases hr⟩
    | some packet =>
      dsimp only
      split
      · exact ⟨hasked₆, fun _ hr => by cases hr⟩
      · exact ⟨hasked₆, fun _ _ => ⟨resolved, htarget, h₆⟩⟩

omit [Xdb] [StdParse] [StdCase] [StdHash] [StdDisplay] in
lemma along_resultOf {α : Type} {p : TaskProg α} {I : Task → Prop}
    {R : Except ConnError α → Task → Prop} {t : Task}
    (hp : p.along Task.handle Task.others I R t) :
    (resultOf p).along Task.handle Task.others I
      (fun r t' => I t' ∧ ∀ r', r = .ok r' → R r' t') t := by
  refine Prog.along_seq (Prog.along_attempt (Q := fun r t' => I t' ∧ ∀ r', r = .ok r' → R r' t')
    (Prog.along_mono (Prog.along_self hp) (fun _ h => h) fun r t' h => ⟨h.1, fun r' hr => ?_⟩))
    (fun r t' h => ?_) fun e t' h => ⟨h.1, fun r' hr => by cases hr⟩
  · cases hr
    exact h.2
  · cases r with
    | ok a => exact ⟨h.1, h.1, fun r' hr => by cases hr; exact h.2 _ rfl⟩
    | error e =>
      dsimp only
      split
      · exact ⟨h.1, h.1, fun r' hr => by cases hr⟩
      · exact ⟨h.1, h.1, fun r' hr => by cases hr; exact h.2 _ rfl⟩

omit [Xdb] [StdParse] [StdCase] [StdHash] [StdDisplay] in
lemma wp_selectRoute (select : Counters → Except Panic (Option (String × LineTarget) × Counters))
    (t : Conn) :
    (serve (.selectRoute select) : ConnProg _).wp Conn.handle Conn.shared (fun r _ => ∀ selected,
      r = .ok (.ok selected) → ∃ counters counters', select counters = .ok (selected, counters')) t := by
  intro t₁ _ c _ selected hr
  simp only [Conn.step] at hr
  cases hselect : select t₁.counters with
  | ok selected' =>
    rw [hselect] at hr
    cases hr
    exact ⟨_, _, hselect⟩
  | error panic =>
    rw [hselect] at hr
    cases hr

omit [Xdb] [StdParse] [StdCase] [StdHash] [StdDisplay] in
lemma standsStill_serve {α : Type} (o : ServerOp α) : (onConn (serve o)).All StandsStill :=
  all_onConn ((Prog.all_perform _).mpr trivial)

/-- There is a payload of the backend only when the whole query was written to it. -/
lemma along_statusPayload {reads : List StreamEvent}
    (queried : Queried state (locationOf peer state) handshake reads) {t : Task}
    (ht : t.StandsAt (before ++ reads) []) :
    (statusPayload peer state (locationOf peer state) handshake).along Task.handle Task.others
      (AskedBy peer state before) (fun r t' => AskedBy peer state before t' ∧ ∀ payload,
        r = .ok (true, payload) → ∃ resolved, QueryTarget peer state handshake resolved ∧
          t'.StandsAt (before ++ reads) (frames (queryOf handshake resolved))) t := by
  have hasked : ∀ {t'}, t'.StandsAt (before ++ reads) [] → AskedBy peer state before t' := by
    intro t' ht'
    rw [AskedBy, ht'.2]
    exact .nothing
  rw [statusPayload]
  refine Prog.along_seq (Prog.along_mono (Prog.along_and (along_standsStill
    (standsStill_serve _) ht .nothing)
    (Prog.along_true (wp_onConn (wp_selectRoute _ _)))) (fun _ h => h.1) fun _ _ h => h)
    (fun selected t₁ h => ?_) fun _ _ h => ⟨hasked h.1, fun _ hr => by cases hr⟩
  obtain ⟨h₁, hselects⟩ := h
  obtain panic | ⟨_ | ⟨line, target⟩⟩ := selected
  · exact ⟨hasked h₁, hasked h₁, fun _ hr => by cases hr⟩
  · exact ⟨hasked h₁, hasked h₁, fun _ hr => by cases hr⟩
  refine Prog.along_seq (along_resultOf (along_proxyStatusResponse queried (hselects _ rfl) _ h₁
    .nothing)) (fun response t₂ h₂ => ?_) fun _ _ h => ⟨h.1, fun _ hr => by cases hr⟩
  obtain ⟨hasked₂, hresponse⟩ := h₂
  cases response with
  | error error =>
    refine Prog.along_seq (along_asksNothing (Q := fun _ _ => True)
      (all_onConn ((Prog.all_perform _).mpr trivial)) (Prog.wp_always (fun _ _ => trivial) _ _)
      hasked₂) (fun _ t₃ h₃ => ⟨h₃.1, h₃.1, fun _ hr => by cases hr⟩)
      fun _ _ h => ⟨h.1, fun _ hr => by cases hr⟩
  | ok response =>
    obtain ⟨resolved, htarget, hwhole⟩ := hresponse _ rfl _ rfl
    refine Prog.along_seq (along_standsStill (standsStill_serve _) hwhole
      (.query queried htarget List.prefix_rfl List.prefix_rfl)) (fun _ t₃ h₃ => ?_) fun _ t₃ h₃ => ?_
    · have hasked₃ : AskedBy peer state before t₃ := by
        rw [AskedBy, h₃.1, h₃.2]
        exact .query queried htarget List.prefix_rfl List.prefix_rfl
      exact ⟨hasked₃, hasked₃, fun _ _ => ⟨resolved, htarget, h₃⟩⟩
    · refine ⟨?_, fun _ hr => by cases hr⟩
      rw [AskedBy, h₃.1, h₃.2]
      exact .query queried htarget List.prefix_rfl List.prefix_rfl

/-- A part of a handler on its client's side. -/
lemma along_onConn {α : Type} {p : ConnProg α} {Q : Except ConnError α → Conn → Prop} {t : Task}
    {asked : List UInt8} (ht : bytesWritten t.backend.history = asked)
    (hasked : AskedBy peer state before t) (hp : p.wp Conn.handle Conn.shared Q t.conn) :
    (onConn p).along Task.handle Task.others (AskedBy peer state before) (fun r t' =>
      AskedBy peer state before t' ∧ Q r t'.conn ∧ bytesWritten t'.backend.history = asked) t := by
  have hbackend : Prog.Keeps Task.handle Task.others
      (fun t' => bytesWritten t'.backend.history = asked) (onConn p) :=
    .of_all (P := fun _ o => o.isLeft = true) (all_onConn ((Prog.all_true p).mono fun _ _ => rfl))
      (fun h hs => by rw [h.2.1]; exact hs) fun o ho c _ s hs => by
        rcases o with o | o
        · exact hs
        · cases ho
  exact along_asksNothing (all_onConn ((Prog.all_true p).mono fun _ _ => trivial))
    (Prog.wp_and (wp_onConn hp) (hbackend t ht)) hasked

/-- The client's ping is passed on. -/
lemma along_completeBackendStatusPing {history : List StreamEvent} {query ping : List UInt8}
    (maxFrameLength : ℕ) {t : Task} (ht : t.StandsAt history query)
    (hasks : ∀ sent, sent <+: frame 1 ping → Asked peer state before history (query ++ sent)) :
    (completeBackendStatusPing ping maxFrameLength).along Task.handle Task.others
      (AskedBy peer state before) (fun _ _ => True) t := by
  refine Prog.along_seq (along_ask 1 ping ht hasks) (fun _ t₁ h₁ => ?_) fun _ _ _ => trivial
  have hwhole := hasks _ List.prefix_rfl
  refine Prog.along_seq (along_standsStill (all_onBackend_of
    (all_readPacket trivial (fun _ => trivial) _)) (h₁ rfl) hwhole) (fun pong t₂ h₂ => ?_)
    fun _ _ _ => trivial
  have hasked₂ : AskedBy peer state before t₂ := by
    rw [AskedBy, h₂.1, h₂.2]
    exact hwhole
  cases pong with
  | none => exact ⟨hasked₂, trivial⟩
  | some pong =>
    dsimp only
    split
    · exact ⟨hasked₂, trivial⟩
    · exact ⟨hasked₂, trivial⟩

/-- Behind a whole query the client's own ping. -/
lemma along_answerPing {reads : List StreamEvent} {payload : List UInt8} {resolved : LineTarget}
    (queried : Queried state (locationOf peer state) handshake reads)
    (target : QueryTarget peer state handshake resolved) {t : Task}
    (ht : t.StandsAt (before ++ reads ++ [.wrote (frame 0 payload)])
      (frames (queryOf handshake resolved))) :
    (answerPing state true).along Task.handle Task.others (AskedBy peer state before)
      (fun _ t' => AskedBy peer state before t') t := by
  have hasked₀ : AskedBy peer state before t := by
    rw [AskedBy, ht.1, ht.2]
    exact .query queried target (List.prefix_append _ _) List.prefix_rfl
  rw [answerPing]
  refine Prog.along_seq (along_onConn ht.2 hasked₀ (wp_requirePacket _ _ _)) ?_ fun _ _ h => h.1
  rintro ping t₁ ⟨hasked₁, ⟨reads', h₁, hreads', hframe⟩, hwritten₁⟩
  split
  · exact ⟨hasked₁, hasked₁⟩
  next hid =>
    cases hparse : parse readPing ping.payload with
    | error e => exact ⟨hasked₁, hasked₁⟩
    | ok value =>
      obtain ⟨hlength, rfl⟩ := readPing_eq_ok.mp hparse
      have hping : IsFrame (bytesRead reads') ⟨1, ping.payload⟩ := by
        rw [← not_not.mp hid]
        exact hframe _ rfl
      rw [show ∀ value : Int64, (Except.ok value : Except ProtocolError Int64).mapError
        ConnError.protocol = .ok value from fun _ => rfl, Prog.ofExcept_ok, pure_bind,
        toBeBytesI64_foldl hlength]
      refine Prog.along_seq (along_onConn hwritten₁ hasked₁
        (wp_onClient (wp_writePacket 1 ping.payload _))) ?_ fun _ _ h => h.1
      rintro _ t₂ ⟨hasked₂, ⟨r, hr, h₂⟩, hwritten₂⟩
      rw [if_pos rfl]
      refine Prog.along_seq (along_resultOf (along_completeBackendStatusPing _ ⟨rfl, hwritten₂⟩
        fun sent hsent => ?_)) ?_ fun _ _ h => h.1
      · have hhistory : t₂.conn.client.history = before ++ reads ++ .wrote (frame 0 payload) ::
            (reads' ++ [.wrote (frame 1 ping.payload)]) := by
          obtain ⟨-, h₂⟩ | ⟨e, -, rfl, -⟩ := h₂
          · rw [h₂, h₁, ht.1]
            simp
          · cases hr
        have hframes : frames (queryOf handshake resolved ++ [⟨1, ping.payload⟩]) =
            frames (queryOf handshake resolved) ++ frame 1 ping.payload := by
          simp [frames]
        exact .ping queried target hreads' hping hlength (by rw [hhistory])
          (hframes ▸ (List.prefix_append_right_inj _).mpr hsent)
      · rintro result t₃ ⟨hasked₃, -⟩
        cases result with
        | ok u => exact ⟨hasked₃, hasked₃⟩
        | error e =>
          exact Prog.along_mono (along_asksNothing (Q := fun _ _ => True)
            (all_onConn ((Prog.all_perform _).mpr trivial)) (Prog.wp_always (fun _ _ => trivial) _ _)
            hasked₃) (fun _ h => h) fun _ _ h => h.1

omit [Xdb] [StdParse] [StdCase] [StdHash] [StdDisplay] in
lemma asksNothing_onConn {α : Type} (p : ConnProg α) : (onConn p).All AsksNothing :=
  all_onConn ((Prog.all_true p).mono fun _ _ => trivial)

omit [StdParse] [StdCase] [StdHash] [StdDisplay] in
/-- Where no backend has answered, none is sent the ping. -/
lemma asksNothing_answerPing (state : RuntimeState) : (answerPing state false).All AsksNothing := by
  refine .bind (asksNothing_onConn _) fun ping => ?_
  split
  · trivial
  refine .bind (by simp) fun value => .bind (asksNothing_onConn _) fun _ => ?_
  rw [if_neg (by decide)]
  trivial

/-- From the payload on. -/
lemma along_answerStatus {reads : List StreamEvent}
    (queried : Queried state (locationOf peer state) handshake reads) {answer : Bool × List UInt8}
    {t : Task} (ht : AskedBy peer state before t)
    (hbackend : answer.1 = true → ∃ resolved, QueryTarget peer state handshake resolved ∧
      t.StandsAt (before ++ reads) (frames (queryOf handshake resolved))) :
    (answerStatus state answer).along Task.handle Task.others (AskedBy peer state before)
      (fun _ t' => AskedBy peer state before t') t := by
  obtain ⟨_ | _, payload⟩ := answer
  · have hall : (answerStatus state (false, payload)).All AsksNothing :=
      .bind (asksNothing_onConn _) fun _ => .bind (asksNothing_answerPing state) fun _ =>
        all_onSocket trivial
    exact Prog.along_mono (along_asksNothing (Q := fun _ _ => True) hall
      (Prog.wp_always (fun _ _ => trivial) _ _) ht) (fun _ h => h) fun _ _ h => h.1
  · obtain ⟨resolved, target, h⟩ := hbackend rfl
    rw [answerStatus]
    refine Prog.along_seq (along_onConn h.2 ht (wp_onClient (wp_writePacket 0 payload _))) ?_
      fun _ _ h => h.1
    rintro _ t₁ ⟨-, ⟨r, hr, h₁⟩, hwritten₁⟩
    have hstands : t₁.StandsAt (before ++ reads ++ [.wrote (frame 0 payload)])
        (frames (queryOf handshake resolved)) := by
      refine ⟨?_, hwritten₁⟩
      obtain ⟨-, h₁⟩ | ⟨e, -, rfl, -⟩ := h₁
      · rw [h₁, h.1]
      · cases hr
    refine Prog.along_seq (along_answerPing queried target hstands) (fun _ t₂ h₂ => ?_)
      fun _ _ h => h
    exact Prog.along_mono (along_asksNothing (Q := fun _ _ => True) (all_onSocket trivial)
      (Prog.wp_always (fun _ _ => trivial) _ _) h₂) (fun _ h => h) fun _ _ h => h.1

omit [StdParse] [StdHash] in
/-- A query is made from where its client is. -/
lemma returns_readVisitor (peer : SocketAddr) (state : RuntimeState) :
    (readVisitor peer state).Returns fun visitor => ∀ location handshake,
      visitor = .query location handshake → location = locationOf peer state := by
  have hlookup : (lookupLocation peer state).Returns fun location =>
      location = locationOf peer state := by
    rw [lookupLocation, locationOf]
    cases state.ip2region.lookup peer.ip StdDisplay.ipAddr with
    | ok location => exact rfl
    | error e => exact Prog.returns_bind fun _ => rfl
  refine Prog.returns_bind fun _ => Prog.returns_bind fun packet => Prog.returns_bind fun handshake =>
    Prog.Returns.bind (Prog.Returns.lift hlookup) ?_
  rintro location rfl
  cases handshake.nextState with
  | status =>
    refine Prog.returns_bind fun request => ?_
    split
    · trivial
    split
    · exact fun _ _ h => by cases h
    · exact fun _ _ h => by cases h; rfl
  | login => exact fun _ _ h => by cases h
  | transfer => exact fun _ _ h => by cases h

omit [StdParse] [StdHash] in
/-- Nothing is asked before the query has been read. -/
lemma all_readVisitor (peer : SocketAddr) (state : RuntimeState) :
    (readVisitor peer state).All fun β o => o.isLeft = true ∨ StandsStill β o := by
  have hconn : ∀ {α : Type} (p : ConnProg α),
      (onConn p).All fun β o => o.isLeft = true ∨ StandsStill β o :=
    fun p => all_onConn ((Prog.all_true p).mono fun _ _ => .inl rfl)
  refine .bind (all_onSocket (.inr trivial)) fun _ => .bind (hconn _) fun packet =>
    .bind (by simp) fun handshake => .bind (hconn _) fun location => ?_
  cases handshake.nextState with
  | status =>
    refine .bind (hconn _) fun request => ?_
    split
    · trivial
    split <;> trivial
  | login => trivial
  | transfer => trivial

variable [Md5]

/-- Wherever a handler is dropped, whatever its client and the backend have sent by then, a backend
has been asked at most for the status, for a client that is not blocked and asked for it itself, and
behind that for the client's own ping. A login never reaches a backend. -/
theorem backend_asked {t t' : Task} {rest : TaskProg Unit}
    (hfresh : bytesWritten t.backend.history = [])
    (hrun : Prog.Reaches Task.handle Task.others (handleConnection peer state) t rest t') :
    Asked peer state t.conn.client.history t'.conn.client.history
      (bytesWritten t'.backend.history) := by
  have hnothing : ∀ {t' : Task}, bytesWritten t'.backend.history = [] →
      AskedBy peer state t.conn.client.history t' := by
    intro t' ht'
    rw [AskedBy, ht']
    exact .nothing
  refine hrun.along (I := AskedBy peer state t.conn.client.history) (Q := fun _ _ => True) ?_
  rw [handleConnection_eq]
  have hread := Prog.along_of_all (h := Task.handle) (E := Task.others)
    (I := fun t' => bytesWritten t'.backend.history = []) (all_readVisitor peer state)
    (fun h ht => by rw [h.2.1]; exact ht) (fun o ho c _ s hs => by
      rcases ho with ho | ho
      · rcases o with o | o
        · exact hs
        · cases ho
      · exact (ho.step c ⟨rfl, hs⟩).2) hfresh
  refine Prog.along_seq (Prog.along_mono (Prog.along_and hread (Prog.along_true (Prog.wp_and
    (wp_readVisitor peer state t) ((returns_readVisitor peer state).wp t))))
    (fun _ h => hnothing h.1) fun _ _ h => h) ?_ fun _ _ _ => trivial
  rintro visitor t₁ ⟨h₁, hvisitor, hlocation⟩
  cases visitor with
  | query location handshake =>
    obtain ⟨reads, hhistory, queried⟩ := hvisitor location handshake rfl
    obtain rfl := hlocation location handshake rfl
    refine Prog.along_seq (along_statusPayload queried ⟨hhistory, h₁⟩) (fun answer t₂ h₂ => ?_)
      fun _ _ _ => trivial
    refine Prog.along_mono (along_answerStatus queried h₂.1 fun hanswer => ?_) (fun _ h => h)
      fun _ _ _ => trivial
    obtain ⟨hasBackend, payload⟩ := answer
    cases hanswer
    exact h₂.2 payload rfl
  | blocked reason =>
    have hall : (serveVisitor peer state (.blocked reason)).All AsksNothing :=
      .bind (asksNothing_onConn _) fun _ => all_onSocket trivial
    exact Prog.along_mono (along_asksNothing (Q := fun _ _ => True) hall
      (Prog.wp_always (fun _ _ => trivial) _ _) (hnothing h₁)) (fun _ h => h) fun _ _ _ => trivial
  | player location handshake =>
    have hall : (serveVisitor peer state (.player location handshake)).All AsksNothing :=
      .bind (asksNothing_onConn _) fun _ => all_onSocket trivial
    exact Prog.along_mono (along_asksNothing (Q := fun _ _ => True) hall
      (Prog.wp_always (fun _ _ => trivial) _ _) (hnothing h₁)) (fun _ h => h) fun _ _ _ => trivial

end Handler

/-! ### The backend of the cluster -/

section Cluster

attribute [local instance] noXdb dottedParse asciiCase noHash noDisplay noMd5 httpsUrl clusterParse

theorem handleConnection_calm_cluster : Calm (handleConnection clusterPeer loadedCluster) :=
  handleConnection_calm loadedCluster_hasLoaded

/-- The backend is asked while the client waits for its response. -/
theorem backend_asked_cluster : ∃ rest t,
    Prog.Reaches Task.handle Task.others (handleConnection clusterPeer loadedCluster) clusterClient
      rest t ∧
    Asked clusterPeer loadedCluster [] t.conn.client.history (bytesWritten t.backend.history) ∧
    bytesWritten t.backend.history ≠ [] := by
  have hrun := Prog.reaches_advance (h := Task.handle) (E := Task.others) 13
    (handleConnection clusterPeer loadedCluster) (m := failsAt none)
    (fun _ => ⟨Task.others_refl, trivial⟩) clusterClient
  exact ⟨_, _, hrun, backend_asked rfl hrun, by decide +kernel⟩

end Cluster

end TransferGateway
