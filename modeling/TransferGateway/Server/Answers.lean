import TransferGateway.Dns.Shares
import TransferGateway.Lib.Steps
import TransferGateway.Server.Interleaving

/-!
# Answers to status queries

A status query is answered by the backend that is selected, or by the gateway where that backend
gives no usable response. One deadline limits the whole connection: a task that waits when it expires
is dropped, and the wait for the backend comes before the answer.
-/

namespace TransferGateway

open Protocol

/-! ### Tasks among others -/

/-- The task may wait for this operation, and be dropped there. The client's socket takes what is
written at once. -/
def mayWait {β : Type} : TaskOp β → Bool
  | .inl (.inl .readU8) | .inl (.inl (.readExact _)) => true
  | .inl (.inl (.writeAll _)) | .inl (.inl .flush) => false
  | .inl (.inr (.srvLookup _ _)) => true
  | .inl (.inr _) => false
  | .inr (.inl _) => true
  | .inr (.inr (.connect _)) | .inr (.inr .shutdown) => true
  | .inr (.inr .setNodelay) => false

def writesToClient {β : Type} : TaskOp β → Bool
  | .inl (.inl (.writeAll _)) | .inl (.inl .flush) => true
  | _ => false

namespace Task

/-- The client and the backend send, and the other handlers move the counters. -/
def others : Env ConnChoice Task where
  interferes t t' := t.conn.client.Arrives t'.conn.client ∧ t.backend.Arrives t'.backend
  admits _ := True

lemma others_refl (t : Task) : others.interferes t t :=
  ⟨⟨rfl, [], (List.append_nil _).symm⟩, rfl, [], (List.append_nil _).symm⟩

/-- The client's socket stays writable. -/
def writable : Handler TaskOp ConnChoice Task := fun _ o c s =>
  s.step o (if writesToClient o then { c with stream := { c.stream with fault := none } } else c)

end Task

/-- What holds whatever fails holds while the client's socket is writable. -/
lemma wp_writable {α : Type} {p : TaskProg α} {Q : Except ConnError α → Task → Prop} {t : Task}
    (hp : p.wp Task.handle Task.others Q t) : p.wp Task.writable Task.others Q t :=
  Prog.wp_of_restricts (h := Task.handle) (fun _ _ _ _ => ⟨_, trivial, rfl⟩) hp

lemma wp_onConn {α : Type} {p : ConnProg α} {Q : Except ConnError α → Conn → Prop} {t : Task}
    (hp : p.wp Conn.handle Conn.shared Q t.conn) :
    (onConn p).wp Task.handle Task.others (fun r t' => Q r t'.conn) t :=
  Prog.wp_lift _ Task.conn id And.left (fun _ => trivial) (fun _ _ _ => rfl) hp

lemma wp_readClient (maxFrameLength : ℕ) (message : String) (t : Task) :
    (onConn (requirePacket maxFrameLength message)).wp Task.handle Task.others
      (Prog.onOk fun packet t' => ∃ reads, t'.conn.client.history = t.conn.client.history ++ reads ∧
        ReadsOnly reads ∧ IsFrame (bytesRead reads) packet) t := by
  apply Prog.wp_mono (wp_onConn (wp_requirePacket maxFrameLength message t.conn))
  rintro r t' ⟨reads, h, hreads, hframe⟩
  cases r with
  | error e => trivial
  | ok packet => exact ⟨reads, h, hreads, hframe packet rfl⟩

lemma wp_onBackend {α : Type} {p : StreamProg α} {Q : Except ProtocolError α → Stream → Prop}
    {t : Task} (hp : p.wp Stream.handle Stream.peer Q t.backend) :
    (onBackend p).wp Task.handle Task.others
      (fun r t' => ∃ r', r = r'.mapError .protocol ∧ Q r' t'.backend) t := by
  rw [onBackend, Prog.wp_mapError]
  refine Prog.wp_mono (Prog.wp_lift _ Task.backend ConnChoice.stream And.right (fun _ => trivial)
    (fun _ _ _ => rfl) hp) fun r t' h => ⟨r, rfl, h⟩

lemma wp_resultOf {α : Type} {p : TaskProg α} {R : Except ConnError α → Task → Prop} {t : Task}
    (hp : p.wp Task.handle Task.others R t)
    (hpanic : ∀ e t', R (.error e) t' → e.isPanic = false) :
    (resultOf p).wp Task.handle Task.others (fun r t' => ∃ r', r = .ok r' ∧ R r' t') t := by
  rw [resultOf, Prog.wp_bind, Prog.wp_attempt]
  apply Prog.wp_mono hp
  intro r t' h
  cases r with
  | ok a => exact ⟨_, rfl, h⟩
  | error e =>
    simp only [hpanic e t' h, Bool.false_eq_true, if_false]
    exact ⟨_, rfl, h⟩

lemma isPanic_protocol {e : ProtocolError} (h : NoPanic e) :
    (ConnError.protocol e).isPanic = false := by
  cases e with
  | panic panic => exact absurd rfl (h panic)
  | _ => rfl

/-! ### The backend's response -/

/-- The selection among the records does not fail. -/
lemma throws_resolveTarget [StdParse] (dns : MinecraftDnsResolver) (target : LineTarget)
    (resolveSrv : Bool) : (dns.resolveTarget target resolveSrv).Throws fun _ => False := by
  rw [MinecraftDnsResolver.resolveTarget]
  split
  · trivial
  split
  · trivial
  · trivial
  refine .bind (Prog.throws_perform _) fun r => ?_
  cases r with
  | error error => exact .bind (Prog.throws_perform _) fun _ => trivial
  | ok answers =>
    dsimp only
    split
    · split <;> trivial
    next hne =>
      refine .bind (Prog.throws_perform _) fun sequence => ?_
      obtain ⟨record, -, hrecord⟩ := SrvTarget.selectSrvTarget_mem
        (fun h => hne (List.isEmpty_iff.mpr h)) sequence
      rw [hrecord]
      exact .bind (Prog.throws_perform _) fun _ => trivial

/-- The bytes that were read from the backend begin with a whole frame of the response. -/
def Delivered (maxFrameLength : ℕ) (payload : List UInt8) (backend : Stream) : Prop :=
  ∃ bytes, bytes <+: bytesRead backend.history ∧
    bytes.length ≤ MAX_VARINT_BYTES + maxFrameLength ∧ IsFrame bytes ⟨0, payload⟩

lemma Delivered.append {maxFrameLength : ℕ} {payload : List UInt8} {s s' : Stream}
    (h : Delivered maxFrameLength payload s) {events : List StreamEvent}
    (hs : s'.history = s.history ++ events) : Delivered maxFrameLength payload s' := by
  obtain ⟨bytes, hprefix, hlength, hframe⟩ := h
  rw [Delivered, hs, bytesRead_append]
  exact ⟨bytes, hprefix.trans (List.prefix_append _ _), hlength, hframe⟩

lemma Delivered.arrives {maxFrameLength : ℕ} {payload : List UInt8} {s s' : Stream}
    (h : Delivered maxFrameLength payload s) (hs : s.Arrives s') :
    Delivered maxFrameLength payload s' := by
  rwa [Delivered, hs.1]

/-- An operation on a socket, which may fail. -/
lemma wp_onSocket {o : SocketOp (Except IoError Unit)} {t : Task}
    {Q : Except ConnError Unit → Task → Prop}
    (hok : ∀ t₁ c, Task.others.interferes t t₁ → (t₁.step (.inr (.inr o)) c).1 = .ok () →
      Q (.ok ()) (t₁.step (.inr (.inr o)) c).2)
    (herror : ∀ message t', Q (.error (.other message)) t') :
    (onSocket o).wp Task.handle Task.others Q t := by
  rw [onSocket, Prog.wp_bind]
  intro t₁ ht c _
  cases hr : (t₁.step (.inr (.inr o)) c).1 with
  | error e => exact herror _ _
  | ok u => exact hok t₁ c ht hr

lemma Task.step_setNodelay (t : Task) (c : ConnChoice) :
    (t.step (.inr (.inr .setNodelay)) c).2 = t := by
  cases hfault : c.stream.fault <;> simp [step, hfault]

/-- Nothing has been read from the backend yet, or the attempt has failed. -/
def Unread : Except ConnError Unit → Task → Prop
  | .ok _, t => bytesRead t.backend.history = []
  | .error e, _ => e.isPanic = false

lemma wp_connect (address : String) (t : Task) :
    (onSocket (.connect address)).wp Task.handle Task.others Unread t := by
  refine wp_onSocket (fun t₁ c _ hok => ?_) fun _ _ => rfl
  cases hfault : c.stream.fault with
  | none => simp [Task.step, hfault, Unread]
  | some e => simp [Task.step, hfault] at hok

lemma wp_setNodelay {t : Task} (ht : bytesRead t.backend.history = []) :
    (onSocket .setNodelay).wp Task.handle Task.others Unread t := by
  refine wp_onSocket (fun t₁ c ht₁ _ => ?_) fun _ _ => rfl
  rw [Unread, t₁.step_setNodelay, ht₁.2.1]
  exact ht

lemma wp_writeBackend (id : Int32) (payload : List UInt8) {t : Task}
    (ht : bytesRead t.backend.history = []) :
    (onBackend (writePacket id payload)).wp Task.handle Task.others Unread t := by
  apply Prog.wp_mono (wp_onBackend (wp_writePacket id payload t.backend))
  rintro r t' ⟨r, rfl, ⟨rfl, h⟩ | ⟨e, sent, rfl, -, -⟩⟩
  · change bytesRead t'.backend.history = []
    rw [h, bytesRead_append, ht]
    rfl
  · rfl

/-- The first packet of the backend is what the bytes read from it begin with. -/
lemma wp_readBackend (maxFrameLength : ℕ) {t : Task} (ht : bytesRead t.backend.history = []) :
    (onBackend (readPacket maxFrameLength)).wp Task.handle Task.others (fun r t' => match r with
      | .ok response => ∀ packet ∈ response, packet.id = 0 →
        Delivered maxFrameLength packet.payload t'.backend
      | .error e => e.isPanic = false) t := by
  apply Prog.wp_mono (wp_onBackend (wp_readPacket maxFrameLength t.backend))
  rintro r t' ⟨r, rfl, reads, hread⟩
  cases r with
  | error e => exact isPanic_protocol (hread.noPanic e rfl)
  | ok response =>
    rintro ⟨_, payload⟩ hresponse rfl
    refine ⟨bytesRead reads, ?_, hread.length_le, hread.of_packet _ (congrArg _ hresponse)⟩
    rw [hread.took.history, bytesRead_append, ht, List.nil_append]

/-- A payload comes from the backend, and a failure is no panic. -/
lemma wp_proxyStatusResponse [StdParse] (protocolVersion : Int32) (target : LineTarget)
    (dns : MinecraftDnsResolver) (maxFrameLength : ℕ) (t : Task) :
    (proxyStatusResponse protocolVersion target dns maxFrameLength).wp Task.handle Task.others
      (fun r t' => match r with
        | .ok (payload, _) => Delivered maxFrameLength payload t'.backend
        | .error e => e.isPanic = false) t := by
  rw [proxyStatusResponse]
  refine Prog.wp_seq (R := fun r _ => ∀ e, r = .error e → False) ?_ (fun resolved t₁ _ => ?_)
    fun e t₁ h₁ => (h₁ e rfl).elim
  · exact Prog.Throws.wp (Prog.Throws.lift (Prog.Throws.mapError (throws_resolveTarget ..))) t
  cases resolved with
  | error message => rfl
  | ok target =>
    refine Prog.wp_seq (wp_connect _ t₁) (fun _ t₂ h₂ => ?_) fun e t₂ h₂ => h₂
    refine Prog.wp_seq (wp_setNodelay h₂) (fun _ t₃ h₃ => ?_) fun e t₃ h₃ => h₃
    refine Prog.wp_seq (wp_writeBackend _ _ h₃) (fun _ t₄ h₄ => ?_) fun e t₄ h₄ => h₄
    refine Prog.wp_seq (wp_writeBackend _ _ h₄) (fun _ t₅ h₅ => ?_) fun e t₅ h₅ => h₅
    refine Prog.wp_seq (wp_readBackend maxFrameLength h₅) (fun response t₆ h₆ => ?_)
      fun e t₆ h₆ => h₆
    cases response with
    | none => rfl
    | some packet =>
      dsimp only
      split
      · rfl
      next hid => exact h₆ packet rfl (not_not.mp hid)

/-! ### The operations before and behind the answer -/

lemma Task.others_history {before : List StreamEvent} {t t' : Task}
    (h : Task.others.interferes t t') (ht : t.conn.client.history = before) :
    t'.conn.client.history = before :=
  h.1.1.trans ht

/-- The operation leaves the client alone. -/
def OffClient : (β : Type) → TaskOp β → Prop
  | _, .inl (.inl _) => False
  | _, _ => True

lemma OffClient.client_eq {β : Type} {o : TaskOp β} (ho : OffClient β o) (c : ConnChoice)
    (t : Task) : (Task.writable β o c t).2.conn.client = t.conn.client := by
  rcases o with (o | o) | o | o
  · exact ho.elim
  · cases o <;> simp only [Task.writable, Task.step, Conn.step]
    split <;> rfl
  · rfl
  · cases o <;> simp only [Task.writable, Task.step] <;> split <;> rfl

/-- To the client only pongs are written, and the backend stays the same. -/
def AfterAnswer : (β : Type) → TaskOp β → Prop
  | _, .inl (.inl (.writeAll bytes)) => ∃ value, bytes = frame 1 value
  | _, .inr (.inr (.connect _)) => False
  | _, _ => True

/-- Pongs are written to the client, and other packets are read. -/
lemma AfterAnswer.client_history {β : Type} {o : TaskOp β} (ho : AfterAnswer β o) (c : ConnChoice)
    (t : Task) : ∃ events,
      (Task.writable β o c t).2.conn.client.history = t.conn.client.history ++ events ∧
      ∀ e ∈ events, (∃ bytes, e = .read bytes) ∨ ∃ value, e = .wrote (frame 1 value) := by
  have hsame : ∃ events, t.conn.client.history = t.conn.client.history ++ events ∧
      ∀ e ∈ events, (∃ bytes, e = .read bytes) ∨ ∃ value, e = .wrote (frame 1 value) :=
    ⟨[], (List.append_nil _).symm, by simp⟩
  rcases o with (o | o) | o | o
  · cases o with
    | readU8 =>
      simp only [Task.writable, Task.step, Conn.step, Stream.step]
      split
      · exact hsame
      · exact hsame
      · exact ⟨_, rfl, by simp⟩
    | readExact length =>
      simp only [Task.writable, Task.step, Conn.step, Stream.step]
      repeat' split
      all_goals exact ⟨_, rfl, by simp⟩
    | writeAll bytes =>
      obtain ⟨value, rfl⟩ := ho
      exact ⟨_, rfl, by simp⟩
    | flush => exact hsame
  · rwa [OffClient.client_eq (o := .inl (.inr o)) trivial]
  · exact hsame
  · rwa [OffClient.client_eq (o := .inr (.inr o)) trivial]

/-- The socket of the backend stays the same. -/
lemma AfterAnswer.backend_history {β : Type} {o : TaskOp β} (ho : AfterAnswer β o) (c : ConnChoice)
    (t : Task) : ∃ events,
      (Task.writable β o c t).2.backend.history = t.backend.history ++ events := by
  rcases o with o | o | o
  · exact ⟨[], (List.append_nil _).symm⟩
  · exact Stream.step_history o _ t.backend
  · cases o with
    | connect address => exact ho.elim
    | _ =>
      simp only [Task.writable, Task.step]
      split <;> exact ⟨[], (List.append_nil _).symm⟩

section Handler

variable [Xdb] {state : RuntimeState}

/-! ### From the answer on -/

/-- The end of a connection that has its answer. -/
def answerStatus (state : RuntimeState) (answer : Bool × List UInt8) : TaskProg Unit := do
  onConn (onClient (writePacket 0 answer.2))
  answerPing state answer.1
  onSocket .shutdown

/-- `answerStatus`, from the first write on. -/
lemma answerStatus_eq (state : RuntimeState) (answer : Bool × List UInt8) :
    answerStatus state answer = .call (.inl (.inl (.writeAll (frame 0 answer.2)))) fun r =>
      onConn (onClient (.ofExcept (r.mapError .io) >>= fun _ => io .flush)) >>= fun _ =>
        answerPing state answer.1 >>= fun _ => onSocket .shutdown := rfl

lemma all_answerPing_afterAnswer (hasBackend : Bool) :
    (answerPing state hasBackend).All AfterAnswer := by
  refine .bind (all_onConn (all_requirePacket trivial (fun _ => trivial) ..)) fun ping => ?_
  split
  · trivial
  refine .bind (by simp) fun value =>
    .bind (all_onConn (all_onClient_of (all_writePacket ⟨_, rfl⟩ trivial))) fun _ => ?_
  split
  · refine .bind (all_resultOf (all_completeBackendStatusPing (fun _ => trivial) ..)) fun result => ?_
    cases result with
    | error e => exact all_onConn ((Prog.all_perform _).mpr trivial)
    | ok _ => trivial
  · trivial

/-- One status response has been written, the gateway's own unless the backend delivered it, and
after it nothing but pongs. -/
structure AnsweredWith (state : RuntimeState) (payload : List UInt8) (before : List StreamEvent)
    (t : Task) : Prop where
  written : ∃ later, t.conn.client.history = before ++ .wrote (frame 0 payload) :: later ∧
    ∀ e ∈ later, (∃ bytes, e = .read bytes) ∨ ∃ value, e = .wrote (frame 1 value)
  payload : payload = localStatusPayload state ∨
    Delivered state.config.server.maxFrameLength payload t.backend

def Answered (state : RuntimeState) (before : List StreamEvent) (t : Task) : Prop :=
  ∃ payload, AnsweredWith state payload before t

/-- Nothing that follows the answer undoes it. -/
lemma AfterAnswer.keeps {β : Type} {o : TaskOp β} (ho : AfterAnswer β o) (c : ConnChoice)
    {payload : List UInt8} {before : List StreamEvent} {t : Task}
    (h : AnsweredWith state payload before t) :
    AnsweredWith state payload before (Task.writable β o c t).2 := by
  obtain ⟨events, hevents, hkinds⟩ := ho.client_history c t
  obtain ⟨events', hevents'⟩ := ho.backend_history c t
  obtain ⟨later, hlater, hkinds'⟩ := h.written
  refine ⟨⟨later ++ events, by rw [hevents, hlater]; simp, fun e he => ?_⟩,
    h.payload.imp_right fun h => h.append hevents'⟩
  exact (List.mem_append.mp he).elim (hkinds' e) (hkinds e)

/-- From the payload on a stopped task has answered. -/
lemma reaches_answerStatus {answer : Bool × List UInt8} {rest : TaskProg Unit} {t t' : Task}
    (hpayload : answer.2 = localStatusPayload state ∨
      Delivered state.config.server.maxFrameLength answer.2 t.backend)
    (hstopped : rest.Stopped fun _ o => mayWait o = true)
    (h : Prog.Reaches Task.writable Task.others (answerStatus state answer) t rest t') :
    AnsweredWith state answer.2 t.conn.client.history t' := by
  rw [answerStatus_eq] at h
  cases h with
  | here => cases hstopped
  | @call _ _ _ _ t₁ _ c _ ht _ hnext =>
    have hwritten : AnsweredWith state answer.2 t.conn.client.history
        (Task.writable _ (.inl (.inl (.writeAll (frame 0 answer.2)))) c t₁).2 := by
      refine ⟨⟨[], ?_, by simp⟩, hpayload.imp_right fun h => h.arrives ht.2⟩
      rw [← ht.1.1]
      rfl
    refine (hnext.invariant (P := AfterAnswer)
      (I := AnsweredWith state answer.2 t.conn.client.history) ?_ (fun hs h => ?_)
      (fun o ho c _ s h => ho.keeps c h) hwritten).1
    · exact .bind (all_onConn (all_onClient_of (.bind (by simp) fun _ =>
        .bind ((Prog.all_perform _).mpr trivial) fun _ => by simp))) fun _ =>
        .bind (all_answerPing_afterAnswer _) fun _ => all_onSocket trivial
    · refine ⟨?_, h.payload.imp_right fun h => h.arrives hs.2⟩
      rw [hs.1.1]
      exact h.written

/-! ### The parts of a connection -/

variable [StdCase] [StdDisplay]

/-- What a connection turns out to be when its first packets are read. -/
inductive Visitor where
  | query (location : IpLocation) (handshake : Handshake)
  | blocked (reason : BlockReason)
  | player (location : IpLocation) (handshake : Handshake)

/-- A connection up to the check of a status query. -/
def readVisitor (peer : SocketAddr) (state : RuntimeState) : TaskProg Visitor := do
  onSocket .setNodelay
  let handshakePacket ← onConn (requirePacket state.config.server.maxFrameLength
    "client closed before handshake")
  let handshake ← .ofExcept ((parseHandshake handshakePacket).mapError .protocol)
  let location ← onConn (lookupLocation peer state)
  match handshake.nextState with
  | .status => do
    let request ← onConn (requirePacket state.config.server.maxFrameLength
      "client closed before status request")
    if request.id ≠ 0 then
      .fail (.other s!"unexpected status request packet id {request.id.toInt}")
    else match state.security.check location with
      | some reason => return .blocked reason
      | none => return .query location handshake
  | .login | .transfer => return .player location handshake

/-- The frames of a status handshake and a status request of a client that is not blocked. -/
structure Queried (state : RuntimeState) (location : IpLocation) (handshake : Handshake)
    (reads : List StreamEvent) : Prop where
  readsOnly : ReadsOnly reads
  frames : ∃ packet request bytes bytes', bytesRead reads = bytes ++ bytes' ∧
    IsFrame bytes packet ∧ parseHandshake packet = .ok handshake ∧
    IsFrame bytes' request ∧ request.id = 0
  status : handshake.nextState = .status
  unblocked : state.security.check location = none

lemma wp_readVisitor (peer : SocketAddr) (state : RuntimeState) (t : Task) :
    (readVisitor peer state).wp Task.handle Task.others (Prog.onOk fun visitor t' =>
      ∀ location handshake, visitor = .query location handshake → ∃ reads,
        t'.conn.client.history = t.conn.client.history ++ reads ∧
        Queried state location handshake reads) t := by
  refine Prog.wp_seq_onOk (R := fun _ t' => t'.conn.client.history = t.conn.client.history) ?_
    fun _ t₁ h₁ => ?_
  · refine wp_onSocket (fun t₁ c ht _ => ?_) fun _ _ => trivial
    change (t₁.step (.inr (.inr .setNodelay)) c).2.conn.client.history = _
    rw [t₁.step_setNodelay, ht.1.1]
  apply Prog.wp_seq_onOk (wp_readClient _ _ t₁)
  intro packet t₂ h₂
  obtain ⟨reads, h₂, hreads, hframe⟩ := h₂
  rw [Prog.wp_bind, Prog.wp_ofExcept]
  cases hparse : parseHandshake packet with
  | error e => trivial
  | ok handshake =>
    refine Prog.wp_seq_onOk (R := fun _ t' => t'.conn.client.history = t₂.conn.client.history) ?_
      fun location t₃ h₃ => ?_
    · apply Prog.wp_mono (wp_onConn (keeps_history (all_lookupLocation (fun _ _ => rfl) ..) _ _ rfl))
      intro r t' h
      cases r with
      | error e => trivial
      | ok location => exact h
    cases hstate : handshake.nextState with
    | status =>
      apply Prog.wp_seq_onOk (wp_readClient _ _ t₃)
      intro request t₄ h₄
      obtain ⟨reads', h₄, hreads', hframe'⟩ := h₄
      split
      · trivial
      next hid =>
        cases hcheck : state.security.check location with
        | some reason => exact fun _ _ hvisitor => by cases hvisitor
        | none =>
          intro location' handshake' hvisitor
          cases hvisitor
          refine ⟨reads ++ reads', by rw [h₄, h₃, h₂, h₁, List.append_assoc],
            hreads.append hreads', ?_, hstate, hcheck⟩
          exact ⟨packet, request, _, _, bytesRead_append _ _, hframe, hparse, hframe', not_not.mp hid⟩
    | login => exact fun _ _ hvisitor => by cases hvisitor
    | transfer => exact fun _ _ hvisitor => by cases hvisitor

/-! ### Up to the answer -/

variable [StdParse] [StdHash] {peer : SocketAddr} {location : IpLocation} {handshake : Handshake}

lemma all_statusPayload_offClient :
    (statusPayload peer state location handshake).All OffClient := by
  refine .bind (all_onConn ((Prog.all_perform _).mpr trivial)) fun selected => ?_
  obtain panic | ⟨_ | ⟨line, target⟩⟩ := selected
  · trivial
  · trivial
  refine .bind (all_resultOf (all_proxyStatusResponse (fun _ _ => trivial) trivial
    (fun _ _ => trivial) (fun _ => trivial) (fun _ => trivial) ..)) fun response => ?_
  cases response with
  | error e => exact .bind (all_onConn ((Prog.all_perform _).mpr trivial)) fun _ => trivial
  | ok response => exact .bind (all_onConn ((Prog.all_perform _).mpr trivial)) fun _ => trivial

/-- Up to the payload nothing is written to the client. -/
lemma reaches_statusPayload {p : TaskProg (Bool × List UInt8)} {t t' : Task}
    (h : Prog.Reaches Task.writable Task.others (statusPayload peer state location handshake) t p
      t') : t'.conn.client.history = t.conn.client.history := by
  refine (h.invariant (I := fun s => s.conn.client.history = t.conn.client.history)
    all_statusPayload_offClient Task.others_history (fun o ho c _ s hs => ?_) rfl).1
  rw [ho.client_eq]
  exact hs

/-- There is a payload in the end, the gateway's own unless the backend delivered it. -/
lemma wp_statusPayload [Toml.Parse] [UrlParse] (hloaded : state.HasLoaded) (t : Task) :
    (statusPayload peer state location handshake).wp Task.handle Task.others (fun r t' =>
      ∃ answer, r = .ok answer ∧ (answer.2 = localStatusPayload state ∨
        Delivered state.config.server.maxFrameLength answer.2 t'.backend)) t := by
  obtain ⟨config, configPath, hloaded, hconfig⟩ := hloaded
  rw [statusPayload, Prog.wp_bind]
  intro t₁ ht c _
  obtain ⟨⟨selected, counters⟩, hselect⟩ := hloaded.selectRoute_ok location none
    (some handshake.host) state.security (StdDisplay.ipAddr peer.ip) t₁.conn.counters
  have hselect : state.config.selectRouteWithHostContext location none (some handshake.host)
      state.security (StdDisplay.ipAddr peer.ip) t₁.conn.counters = .ok (selected, counters) := by
    rw [hconfig]
    exact hselect
  simp only [Task.step, Conn.step, hselect]
  cases selected with
  | none => exact ⟨_, rfl, .inl rfl⟩
  | some route =>
    obtain ⟨line, target⟩ := route
    refine Prog.wp_seq (wp_resultOf (wp_proxyStatusResponse handshake.protocolVersion target
      state.dns state.config.server.maxFrameLength _) fun e t' h => h) ?_ ?_
    · rintro response t₂ ⟨r, hr, h₂⟩
      cases hr
      cases response with
      | ok response =>
        obtain ⟨payload, resolved⟩ := response
        rw [Prog.wp_bind]
        intro t₃ ht₃ c₃ _
        exact ⟨_, rfl, .inr (h₂.arrives ht₃.2)⟩
      | error e => exact fun t₃ _ c₃ _ => ⟨_, rfl, .inl rfl⟩
    · rintro e t₂ ⟨r, hr, -⟩
      cases hr

/-- The deadline expires while the backend is waited for. -/
def Expired (peer : SocketAddr) (state : RuntimeState) (location : IpLocation)
    (handshake : Handshake) (t : Task) (rest : TaskProg Unit) (t' : Task) : Prop :=
  ∃ p, Prog.Reaches Task.writable Task.others (statusPayload peer state location handshake) t p t' ∧
    p.Waits (fun _ o => mayWait o = true) ∧ rest = p >>= answerStatus state

variable [Md5]

def serveVisitor (peer : SocketAddr) (state : RuntimeState) : Visitor → TaskProg Unit
  | .query location handshake => statusPayload peer state location handshake >>= answerStatus state
  | .blocked reason => do
    onConn (logSecurityBlock peer reason state.language)
    onSocket .shutdown
  | .player location handshake => do
    onConn (handleLogin peer state location handshake)
    onSocket .shutdown

/-- A connection is read and then served. -/
lemma handleConnection_eq (peer : SocketAddr) (state : RuntimeState) :
    handleConnection peer state = readVisitor peer state >>= serveVisitor peer state := by
  simp only [handleConnection, readVisitor, bind_assoc]
  refine bind_congr fun _ => bind_congr fun handshakePacket => bind_congr fun handshake =>
    bind_congr fun location => ?_
  cases handshake.nextState with
  | status =>
    simp only [handleStatus, bind_assoc]
    apply bind_congr
    intro request
    split
    · rfl
    · cases state.security.check location with
      | some reason => rfl
      | none =>
        simp only [serveVisitor, bind_assoc, pure_bind]
        rfl
  | login => rfl
  | transfer => rfl

/-- A client that is not blocked and whose status handshake and request have been read gets exactly
one status response, the gateway's own unless the backend has delivered one, if and only if the
deadline does not expire while the backend is waited for. -/
theorem query_answered_iff [Toml.Parse] [UrlParse] (hloaded : state.HasLoaded) {t₀ t₁ t₂ : Task}
    {rest : TaskProg Unit}
    (hread : (readVisitor peer state).Outcome Task.writable Task.others t₀
      (.ok (.query location handshake)) t₁)
    (hrun : Prog.Reaches Task.writable Task.others
      (serveVisitor peer state (.query location handshake)) t₁ rest t₂)
    (hstopped : rest.Stopped fun _ o => mayWait o = true) :
    Prog.Reaches Task.writable Task.others (handleConnection peer state) t₀ rest t₂ ∧
    (∃ reads, t₁.conn.client.history = t₀.conn.client.history ++ reads ∧
      Queried state location handshake reads) ∧
    (Answered state t₁.conn.client.history t₂ ↔
      ¬Expired peer state location handshake t₁ rest t₂) := by
  refine ⟨?_, ?_, ?_, fun hexpired => ?_⟩
  · rw [handleConnection_eq]
    exact ((Prog.outcome_iff_reaches.mp hread).bind _).trans hrun
  · exact Prog.wp_iff_outcome.mp (wp_writable (wp_readVisitor peer state t₀)) _ _ hread _ _ rfl
  · rintro ⟨payload, ⟨later, hwritten, -⟩, -⟩ ⟨p, hp, -, -⟩
    rw [reaches_statusPayload hp] at hwritten
    simpa using congrArg List.length hwritten
  rcases hrun.of_bind with ⟨p, hp, rfl⟩ | ⟨answer, s, hout, hrest⟩
  · -- the payload is still to come
    rcases hstopped.bind with hwaits | ⟨e, rfl⟩ | ⟨answer, rfl, hanswer⟩
    · exact absurd ⟨p, hp, hwaits, rfl⟩ hexpired
    · obtain ⟨_, hok, -⟩ := hp.wp (wp_writable (wp_statusPayload hloaded t₁))
      cases hok
    · rw [answerStatus_eq] at hanswer
      cases hanswer
  · obtain ⟨answer', hok, hpayload⟩ :=
      Prog.wp_iff_outcome.mp (wp_writable (wp_statusPayload hloaded t₁)) _ _ hout
    cases hok
    have hanswered := reaches_answerStatus hpayload hstopped hrest
    rw [reaches_statusPayload (Prog.outcome_iff_reaches.mp hout)] at hanswered
    exact ⟨_, hanswered⟩

end Handler

/-! ### A silent backend -/

section Cluster

attribute [local instance] noXdb dottedParse asciiCase noHash noDisplay noMd5 httpsUrl clusterParse

def clusterPeer : SocketAddr := ⟨.v4 1, 1⟩

/-- The client has sent its status handshake and its request. -/
def clusterClient : Task where
  conn := ⟨⟨handshakeFrame 1 ++ frame 0 [], []⟩, fun _ => 0, 0, []⟩
  backend := ⟨[], []⟩

/-- Nothing fails but this operation. -/
def failsAt (index : Option ℕ) (n : ℕ) : Prog.Move ConnChoice Task where
  interfere := id
  choice := ⟨if some n = index then ⟨some ⟨.other, "connection refused"⟩, 0⟩ else .calm, .ok [],
    Vector.replicate 16 0⟩

private lemma failsAt_admitted (index : Option ℕ) (n : ℕ) :
    (∀ s, Task.others.interferes s ((failsAt index n).interfere s)) ∧
      Task.others.admits (failsAt index n).choice :=
  ⟨Task.others_refl, trivial⟩

/-- The query is read, and behind it the task may be stopped after `n` operations. -/
private lemma cluster_stops (index : Option ℕ) (n : ℕ) (P : Task → Task → Bool)
    (h : (match (readVisitor clusterPeer loadedCluster).run Task.writable (failsAt none)
        clusterClient with
      | (.ok (.query location handshake), t) =>
        let r := Prog.advance Task.writable n
          (serveVisitor clusterPeer loadedCluster (.query location handshake)) (failsAt index) t
        decide (r.1.Stopped fun _ o => mayWait o = true) && P t r.2
      | _ => false) = true) :
    ∃ location handshake t₁ rest t₂,
      (readVisitor clusterPeer loadedCluster).Outcome Task.writable Task.others clusterClient
        (.ok (.query location handshake)) t₁ ∧
      Prog.Reaches Task.writable Task.others
        (serveVisitor clusterPeer loadedCluster (.query location handshake)) t₁ rest t₂ ∧
      (rest.Stopped fun _ o => mayWait o = true) ∧ P t₁ t₂ = true := by
  have hout := Prog.outcome_run (h := Task.writable) (readVisitor clusterPeer loadedCluster)
    (failsAt_admitted none) clusterClient
  split at h
  next location handshake t heq =>
    rw [heq] at hout
    obtain ⟨hstopped, hP⟩ := (Bool.and_eq_true _ _).mp h
    exact ⟨location, handshake, t, _, _, hout,
      Prog.reaches_advance n _ (failsAt_admitted index) t, of_decide_eq_true hstopped, hP⟩
  next => cases h

/-- The backend refuses the connection, and the client gets the gateway's own status. -/
theorem query_answered_iff_refused : ∃ location handshake t₁ rest t₂,
    Prog.Reaches Task.writable Task.others (handleConnection clusterPeer loadedCluster)
      clusterClient rest t₂ ∧
    (∃ reads, t₁.conn.client.history = clusterClient.conn.client.history ++ reads ∧
      Queried loadedCluster location handshake reads) ∧
    (Answered loadedCluster t₁.conn.client.history t₂ ↔
      ¬Expired clusterPeer loadedCluster location handshake t₁ rest t₂) ∧
    t₂.conn.client.history = t₁.conn.client.history ++
      [.wrote (frame 0 (localStatusPayload loadedCluster))] := by
  obtain ⟨location, handshake, t₁, rest, t₂, hread, hrun, hstopped, hhistory⟩ :=
    cluster_stops (some 1) 5 (fun t t' => decide (t'.conn.client.history =
      t.conn.client.history ++ [.wrote (frame 0 (localStatusPayload loadedCluster))]))
      (by decide +kernel)
  obtain ⟨hconnection, hreads, hiff⟩ :=
    query_answered_iff loadedCluster_hasLoaded hread hrun hstopped
  exact ⟨location, handshake, t₁, rest, t₂, hconnection, hreads, hiff, of_decide_eq_true hhistory⟩

/-- The backend takes the query and sends nothing. When the deadline expires the client has no
response. -/
theorem query_not_answered : ¬∀ (peer : SocketAddr) (state : RuntimeState) (location : IpLocation)
    (handshake : Handshake) (t₀ t₁ t₂ : Task) (rest : TaskProg Unit), state.HasLoaded →
    (readVisitor peer state).Outcome Task.writable Task.others t₀
      (.ok (.query location handshake)) t₁ →
    Prog.Reaches Task.writable Task.others
      (serveVisitor peer state (.query location handshake)) t₁ rest t₂ →
    (rest.Stopped fun _ o => mayWait o = true) → Answered state t₁.conn.client.history t₂ := by
  intro hall
  obtain ⟨location, handshake, t₁, rest, t₂, hread, hrun, hstopped, hhistory⟩ :=
    cluster_stops none 7 (fun t t' => decide (t'.conn.client.history = t.conn.client.history))
      (by decide +kernel)
  obtain ⟨payload, ⟨later, hwritten, -⟩, -⟩ := hall _ _ _ _ _ _ _ _ loadedCluster_hasLoaded hread
    hrun hstopped
  rw [of_decide_eq_true hhistory] at hwritten
  simpa using congrArg List.length hwritten

end Cluster

end TransferGateway
