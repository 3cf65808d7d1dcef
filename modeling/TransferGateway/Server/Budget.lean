import Mathlib.Algebra.Order.Pi
import TransferGateway.Lib.Budget
import TransferGateway.Server.Interleaving

/-!
# What a connection may use

Whatever a client and a backend send, a handler reads a few frames of a bounded length, writes a few
packets, and selects once. So do all connections together, for each that was accepted.
-/

namespace TransferGateway

open Protocol

/-! ### Resources -/

inductive Resource where
  | clientBytes
  | backendBytes
  | clientWrites
  | backendWrites
  | selections
  | sequence
  | logLines
  deriving DecidableEq

/-- So much of one resource, and nothing of the others. -/
def uses (resource : Resource) (n : ℕ) : Resource → ℕ :=
  fun r => if r = resource then n else 0

section Costs

variable (bytes writes : Resource)

/-- What an operation on a stream uses, at the most. -/
def StreamOp.cost : (β : Type) → StreamOp β → Resource → ℕ
  | _, .readU8           => uses bytes 1
  | _, .readExact length => uses bytes length
  | _, .writeAll _       => uses writes 1
  | _, .flush            => 0

end Costs

def ServerOp.cost : (β : Type) → ServerOp β → Resource → ℕ
  | _, .selectRoute _ => uses .selections 1
  | _, .srvLookup _ _ => 0
  | _, .fetchAdd      => uses .sequence 1
  | _, .newUuid       => 0
  | _, .log _ _       => uses .logLines 1

def connCost (β : Type) : ConnOp β → Resource → ℕ
  | .inl o => o.cost .clientBytes .clientWrites
  | .inr o => o.cost

def taskCost (β : Type) : TaskOp β → Resource → ℕ
  | .inl o        => connCost β o
  | .inr (.inl o) => o.cost .backendBytes .backendWrites
  | .inr (.inr _) => 0

/-- The number of pieces that were written. -/
def writesIn (events : List StreamEvent) : ℕ :=
  events.countP fun
    | .read _ => false
    | .wrote _ => true

/-- What a connection has used of its own. -/
def Sockets.used (s : Sockets) : Resource → ℕ
  | .clientBytes   => (bytesRead s.client.history).length
  | .backendBytes  => (bytesRead s.backend.history).length
  | .clientWrites  => writesIn s.client.history
  | .backendWrites => writesIn s.backend.history
  | _ => 0

/-- What was used of what the connections share. -/
def Shared.spent (s : Shared) : Resource → ℕ
  | .selections => s.selections.length
  | .sequence   => s.sequence.toNat
  | .logLines   => s.log.length
  | _ => 0

lemma uses_add (resource : Resource) (m n : ℕ) :
    uses resource (m + n) = uses resource m + uses resource n := by
  funext r
  by_cases h : r = resource
  · simp [uses, h]
  · simp [uses, h]

lemma uses_mono (resource : Resource) {m n : ℕ} (h : m ≤ n) :
    uses resource m ≤ uses resource n := by
  intro r
  by_cases hr : r = resource
  · simpa [uses, hr] using h
  · simp [uses, hr]

/-! ### Bills -/

/-- How much of everything a part of a handler uses; bytes are counted by frames. -/
structure Bill where
  clientFrames : ℕ := 0
  backendFrames : ℕ := 0
  clientWrites : ℕ := 0
  backendWrites : ℕ := 0
  selections : ℕ := 0
  sequence : ℕ := 0
  logLines : ℕ := 0

namespace Bill

/-- A frame is its length, of five bytes at most, and its content. -/
def total (bill : Bill) (maxFrameLength : ℕ) : Resource → ℕ
  | .clientBytes   => bill.clientFrames * (MAX_VARINT_BYTES + maxFrameLength)
  | .backendBytes  => bill.backendFrames * (MAX_VARINT_BYTES + maxFrameLength)
  | .clientWrites  => bill.clientWrites
  | .backendWrites => bill.backendWrites
  | .selections    => bill.selections
  | .sequence      => bill.sequence
  | .logLines      => bill.logLines

lemma total_mono (bill : Bill) {m n : ℕ} (h : m ≤ n) : bill.total m ≤ bill.total n := by
  have hframe := Nat.add_le_add_left h MAX_VARINT_BYTES
  intro resource
  cases resource with
  | clientBytes => exact Nat.mul_le_mul_left _ hframe
  | backendBytes => exact Nat.mul_le_mul_left _ hframe
  | _ => exact le_rfl

/-- The bill of two parts is no more than that of the whole. -/
def Covers (whole first rest : Bill) : Prop :=
  first.clientFrames + rest.clientFrames ≤ whole.clientFrames ∧
    first.backendFrames + rest.backendFrames ≤ whole.backendFrames ∧
    first.clientWrites + rest.clientWrites ≤ whole.clientWrites ∧
    first.backendWrites + rest.backendWrites ≤ whole.backendWrites ∧
    first.selections + rest.selections ≤ whole.selections ∧
    first.sequence + rest.sequence ≤ whole.sequence ∧
    first.logLines + rest.logLines ≤ whole.logLines

instance (whole first rest : Bill) : Decidable (whole.Covers first rest) :=
  inferInstanceAs (Decidable (_ ∧ _))

lemma Covers.total_le {whole first rest : Bill} (h : whole.Covers first rest) (maxFrameLength : ℕ) :
    first.total maxFrameLength + rest.total maxFrameLength ≤ whole.total maxFrameLength := by
  obtain ⟨hclient, hbackend, hwrites, hbackendWrites, hselections, hsequence, hlog⟩ := h
  intro resource
  cases resource with
  | clientBytes => exact (add_mul ..).symm.trans_le (Nat.mul_le_mul_right _ hclient)
  | backendBytes => exact (add_mul ..).symm.trans_le (Nat.mul_le_mul_right _ hbackend)
  | clientWrites => exact hwrites
  | backendWrites => exact hbackendWrites
  | selections => exact hselections
  | sequence => exact hsequence
  | logLines => exact hlog

end Bill

section Affords

variable {S : Type → Type} {ε α β : Type} {cost : (β : Type) → S β → Resource → ℕ}
  {maxFrameLength : ℕ}

lemma affords_seq {p : Prog S ε α} {f : α → Prog S ε β} {first : Bill} (rest : Bill) {whole : Bill}
    (hp : p.Affords cost (first.total maxFrameLength))
    (hf : ∀ a, (f a).Affords cost (rest.total maxFrameLength)) (h : whole.Covers first rest) :
    (p >>= f).Affords cost (whole.total maxFrameLength) :=
  (hp.bind hf).mono (h.total_le maxFrameLength)

lemma affords_within {p : Prog S ε α} {first whole : Bill}
    (hp : p.Affords cost (first.total maxFrameLength)) (h : whole.Covers first {}) :
    p.Affords cost (whole.total maxFrameLength) :=
  hp.mono (le_self_add.trans (h.total_le maxFrameLength))

/-- Behind the first part nothing is used. -/
lemma affords_seq_free {p : Prog S ε α} {f : α → Prog S ε β} {bill : Bill}
    (hp : p.Affords cost (bill.total maxFrameLength))
    (hf : ∀ a, (f a).Affords cost (Bill.total {} maxFrameLength)) :
    (p >>= f).Affords cost (bill.total maxFrameLength) :=
  affords_seq {} hp hf ⟨le_rfl, le_rfl, le_rfl, le_rfl, le_rfl, le_rfl, le_rfl⟩

lemma affords_readPacket (bytes writes : Resource) :
    (readPacket maxFrameLength).Affords (StreamOp.cost bytes writes)
      (uses bytes (MAX_VARINT_BYTES + maxFrameLength)) := by
  have hgroups : ∀ allowEof n index result,
      (readVarintAsyncGroups allowEof n index result).Affords (StreamOp.cost bytes writes)
        (uses bytes n) := by
    intro allowEof n
    induction n with
    | zero => exact fun _ _ => trivial
    | succ n ih =>
      intro index result
      have hbyte : StreamOp.cost bytes writes _ .readU8 + uses bytes n ≤ uses bytes (n + 1) := by
        rw [add_comm n, uses_add]
        rfl
      refine Prog.affords_perform_bind hbyte fun r => ?_
      cases r with
      | error e =>
        dsimp only
        split <;> trivial
      | ok byte =>
        refine Prog.affords_ofExcept_bind fun result => ?_
        split
        · trivial
        · exact ih _ _
  rw [uses_add]
  refine .bind (hgroups ..) fun length => ?_
  cases length with
  | none => trivial
  | some length =>
    dsimp only
    split_ifs with hnegative hlarge
    · trivial
    · trivial
    · -- the content is no longer than the bound
      have hread : uses bytes length.toInt.toNat + 0 ≤ uses bytes maxFrameLength := by
        rw [add_zero]
        exact uses_mono bytes (not_lt.mp hlarge)
      refine Prog.affords_perform_bind hread fun r => Prog.affords_ofExcept_bind fun content => ?_
      exact Prog.affords_ofExcept_bind fun packet => trivial

lemma affords_writePacket (bytes writes : Resource) (id : Int32) (payload : List UInt8) :
    (writePacket id payload).Affords (StreamOp.cost bytes writes) (uses writes 1) := by
  refine Prog.affords_perform_bind (add_zero _).le fun r => Prog.affords_ofExcept_bind fun _ => ?_
  exact Prog.affords_perform_bind (add_zero _).le fun r => Prog.affords_ofExcept _

end Affords

/-! ### Handlers -/

section Handlers

variable {ε α : Type} {maxFrameLength : ℕ}

lemma affords_onClient {p : StreamProg α} {budget : Resource → ℕ}
    (hp : p.Affords (StreamOp.cost .clientBytes .clientWrites) budget) :
    (onClient p).Affords connCost budget := by
  refine Prog.Affords.mapError (hp.lift fun o => ?_) _
  exact le_refl (connCost _ (.inl o))

lemma affords_onConn {p : ConnProg α} {budget : Resource → ℕ} (hp : p.Affords connCost budget) :
    (onConn p).Affords taskCost budget := by
  refine hp.lift fun o => ?_
  exact le_refl (taskCost _ (.inl o))

lemma affords_onBackend {p : StreamProg α} {budget : Resource → ℕ}
    (hp : p.Affords (StreamOp.cost .backendBytes .backendWrites) budget) :
    (onBackend p).Affords taskCost budget := by
  refine Prog.Affords.mapError (hp.lift fun o => ?_) _
  exact le_refl (taskCost _ (.inr (.inl o)))

lemma affords_onSocket (o : SocketOp (Except IoError Unit)) :
    (onSocket o).Affords taskCost (Bill.total {} maxFrameLength) :=
  Prog.affords_perform_bind (zero_add _).le fun _ => Prog.affords_ofExcept _

lemma affords_log (level : Level) (message : String) :
    (serve (.log level message) : Prog ConnOp ε Unit).Affords connCost
      (Bill.total { logLines := 1 } maxFrameLength) := by
  refine Prog.affords_perform fun resource => ?_
  cases resource <;> simp [connCost, ServerOp.cost, uses, Bill.total]

lemma affords_readClient :
    (onClient (readPacket maxFrameLength)).Affords connCost
      (Bill.total { clientFrames := 1 } maxFrameLength) := by
  refine (affords_onClient (affords_readPacket ..)).mono fun resource => ?_
  cases resource <;> simp [uses, Bill.total]

lemma affords_writeClient (id : Int32) (payload : List UInt8) :
    (onClient (writePacket id payload)).Affords connCost
      (Bill.total { clientWrites := 1 } maxFrameLength) := by
  refine (affords_onClient (affords_writePacket ..)).mono fun resource => ?_
  cases resource <;> simp [uses, Bill.total]

lemma affords_readBackend :
    (onBackend (readPacket maxFrameLength)).Affords taskCost
      (Bill.total { backendFrames := 1 } maxFrameLength) := by
  refine (affords_onBackend (affords_readPacket ..)).mono fun resource => ?_
  cases resource <;> simp [uses, Bill.total]

lemma affords_writeBackend (id : Int32) (payload : List UInt8) :
    (onBackend (writePacket id payload)).Affords taskCost
      (Bill.total { backendWrites := 1 } maxFrameLength) := by
  refine (affords_onBackend (affords_writePacket ..)).mono fun resource => ?_
  cases resource <;> simp [uses, Bill.total]

lemma affords_requirePacket (message : String) :
    (requirePacket maxFrameLength message).Affords connCost
      (Bill.total { clientFrames := 1 } maxFrameLength) := by
  refine affords_seq {} affords_readClient (fun packet => ?_) (by decide)
  cases packet <;> trivial

lemma affords_selectRoute
    (select : Counters → Except Panic (Option (String × LineTarget) × Counters)) :
    (serve (.selectRoute select) : ConnProg _).Affords connCost
      (Bill.total { selections := 1 } maxFrameLength) := by
  refine Prog.affords_perform fun resource => ?_
  cases resource <;> simp [connCost, ServerOp.cost, uses, Bill.total]

lemma affords_resolveTarget [StdParse] (dns : MinecraftDnsResolver) (target : LineTarget)
    (resolveSrv : Bool) : (dns.resolveTarget target resolveSrv).Affords connCost
      (Bill.total { sequence := 1, logLines := 1 } maxFrameLength) := by
  have hfetch : (serve .fetchAdd : Prog ConnOp Panic UInt64).Affords connCost
      (Bill.total { sequence := 1 } maxFrameLength) := by
    refine Prog.affords_perform fun resource => ?_
    cases resource <;> simp [connCost, ServerOp.cost, uses, Bill.total]
  rw [MinecraftDnsResolver.resolveTarget]
  split
  · trivial
  · split
    · trivial
    · trivial
    · refine Prog.affords_perform_bind (zero_add _).le fun answers => ?_
      cases answers with
      | error e =>
        exact affords_seq {} (affords_log ..) (fun _ => trivial) (by decide)
      | ok answers =>
        dsimp only
        split_ifs
        · trivial
        · trivial
        · refine affords_seq { logLines := 1 } hfetch (fun sequence => ?_) (by decide)
          split
          · trivial
          · exact affords_seq_free (affords_log ..) fun _ => trivial

lemma affords_resultOf {p : TaskProg α} {budget : Resource → ℕ} (hp : p.Affords taskCost budget) :
    (resultOf p).Affords taskCost budget := by
  rw [← add_zero budget]
  refine hp.attempt.bind fun r => ?_
  cases r with
  | error e =>
    dsimp only
    split <;> trivial
  | ok a => trivial

variable [Xdb] [StdParse] [StdCase] [StdHash] [StdDisplay] [Md5] {state : RuntimeState}

/-- What a login uses behind its Login Start. -/
def loginBill : Bill where
  clientFrames := 1
  clientWrites := 2
  selections := 1
  sequence := 1
  logLines := 2

/-- What a status query uses up to its response. -/
def responseBill : Bill where
  backendFrames := 1
  backendWrites := 2
  selections := 1
  sequence := 1
  logLines := 2

/-- What a status query uses behind its response. -/
def pingBill : Bill where
  clientFrames := 1
  backendFrames := 1
  clientWrites := 1
  backendWrites := 1
  logLines := 1

/-- What a connection uses behind its handshake. -/
def sessionBill : Bill where
  clientFrames := 2
  backendFrames := 2
  clientWrites := 2
  backendWrites := 3
  selections := 1
  sequence := 1
  logLines := 3

omit [StdParse] [StdCase] [StdHash] [StdDisplay] in
lemma affords_transferPlayer (spec : ProtocolSpec) (loginStart : LoginStart) (line : String)
    (target : LineTarget) : (transferPlayer state spec loginStart line target).Affords connCost
      (Bill.total { clientFrames := 1, clientWrites := 2, logLines := 1 }
        state.config.server.maxFrameLength) := by
  refine Prog.affords_perform_bind (zero_add _).le fun sessionId => ?_
  refine affords_seq { clientFrames := 1, clientWrites := 1, logLines := 1 }
    (affords_writeClient ..) (fun _ => ?_) (by decide)
  refine affords_seq { clientWrites := 1, logLines := 1 } (affords_requirePacket _)
    (fun acknowledgement => ?_) (by decide)
  split
  · trivial
  · exact affords_seq { logLines := 1 } (affords_writeClient ..) (fun _ => affords_log ..)
      (by decide)

lemma affords_routePlayer (peer : SocketAddr) (location : IpLocation) (handshake : Handshake)
    (spec : ProtocolSpec) (loginStart : LoginStart) :
    (routePlayer peer state location handshake spec loginStart).Affords connCost
      (loginBill.total state.config.server.maxFrameLength) := by
  refine affords_seq { clientFrames := 1, clientWrites := 2, sequence := 1, logLines := 2 }
    (affords_selectRoute _) (fun selected => ?_) (by decide)
  obtain panic | _ | ⟨line, target⟩ := selected
  · trivial
  · exact affords_within (affords_writeClient ..) (by decide)
  · refine affords_seq { clientFrames := 1, clientWrites := 2, logLines := 1 }
      ((affords_resolveTarget ..).mapError _) (fun resolved => ?_) (by decide)
    cases resolved with
    | error message =>
      exact affords_seq { clientWrites := 1 } (affords_log ..) (fun _ => affords_writeClient ..)
        (by decide)
    | ok resolved => exact affords_transferPlayer ..

lemma affords_handleLogin (peer : SocketAddr) (location : IpLocation) (handshake : Handshake) :
    (handleLogin peer state location handshake).Affords connCost
      (sessionBill.total state.config.server.maxFrameLength) := by
  have hdisconnect : ∀ reason, (sendLoginDisconnect reason).Affords connCost
      (Bill.total { clientWrites := 1 } state.config.server.maxFrameLength) :=
    fun reason => affords_writeClient ..
  rw [handleLogin]
  split
  · exact affords_within (hdisconnect _) (by decide)
  · split
    · exact affords_within (hdisconnect _) (by decide)
    · refine affords_seq loginBill (affords_requirePacket _)
        (fun packet => Prog.affords_ofExcept_bind fun loginStart => ?_) (by decide)
      rw [admitPlayer]
      split
      · exact affords_within (hdisconnect _) (by decide)
      · split
        · exact affords_seq { clientWrites := 1 } (affords_log ..) (fun _ => hdisconnect _)
            (by decide)
        · exact affords_routePlayer ..

omit [Xdb] [StdCase] [StdHash] [StdDisplay] [Md5] in
lemma affords_proxyStatusResponse (protocolVersion : Int32) (target : LineTarget)
    (dns : MinecraftDnsResolver) :
    (proxyStatusResponse protocolVersion target dns maxFrameLength).Affords taskCost
      (Bill.total { backendFrames := 1, backendWrites := 2, sequence := 1, logLines := 1 }
        maxFrameLength) := by
  refine affords_seq { backendFrames := 1, backendWrites := 2 }
    (affords_onConn ((affords_resolveTarget ..).mapError _)) (fun resolved => ?_) (by decide)
  cases resolved with
  | error message => trivial
  | ok resolved =>
    refine affords_seq { backendFrames := 1, backendWrites := 2 } (affords_onSocket _)
      (fun _ => ?_) (by decide)
    refine affords_seq { backendFrames := 1, backendWrites := 2 } (affords_onSocket _)
      (fun _ => ?_) (by decide)
    refine affords_seq { backendFrames := 1, backendWrites := 1 } (affords_writeBackend ..)
      (fun _ => ?_) (by decide)
    refine affords_seq { backendFrames := 1 } (affords_writeBackend ..) (fun _ => ?_) (by decide)
    refine affords_seq {} affords_readBackend (fun response => ?_) (by decide)
    cases response with
    | none => trivial
    | some response =>
      dsimp only
      split <;> trivial

omit [Xdb] [StdParse] [StdCase] [StdHash] [StdDisplay] [Md5] in
lemma affords_completeBackendStatusPing (payload : List UInt8) :
    (completeBackendStatusPing payload maxFrameLength).Affords taskCost
      (Bill.total { backendFrames := 1, backendWrites := 1 } maxFrameLength) := by
  refine affords_seq { backendFrames := 1 } (affords_writeBackend ..) (fun _ => ?_) (by decide)
  refine affords_seq {} affords_readBackend (fun pong => ?_) (by decide)
  cases pong with
  | none => trivial
  | some pong =>
    dsimp only
    split <;> trivial

omit [Md5] in
lemma affords_statusPayload (peer : SocketAddr) (location : IpLocation) (handshake : Handshake) :
    (statusPayload peer state location handshake).Affords taskCost
      (responseBill.total state.config.server.maxFrameLength) := by
  refine affords_seq { backendFrames := 1, backendWrites := 2, sequence := 1, logLines := 2 }
    (affords_onConn (affords_selectRoute _)) (fun selected => ?_) (by decide)
  obtain panic | _ | ⟨line, target⟩ := selected
  · trivial
  · trivial
  · refine affords_seq { logLines := 1 } (affords_resultOf (affords_proxyStatusResponse ..))
      (fun response => ?_) (by decide)
    cases response with
    | error error => exact affords_seq_free (affords_onConn (affords_log ..)) fun _ => trivial
    | ok response => exact affords_seq_free (affords_onConn (affords_log ..)) fun _ => trivial

omit [StdParse] [StdCase] [StdHash] [StdDisplay] [Md5] in
lemma affords_answerPing (hasBackend : Bool) :
    (answerPing state hasBackend).Affords taskCost
      (pingBill.total state.config.server.maxFrameLength) := by
  refine affords_seq { backendFrames := 1, clientWrites := 1, backendWrites := 1, logLines := 1 }
    (affords_onConn (affords_requirePacket _)) (fun ping => ?_) (by decide)
  split
  · trivial
  · refine Prog.affords_ofExcept_bind fun value => ?_
    refine affords_seq { backendFrames := 1, backendWrites := 1, logLines := 1 }
      (affords_onConn (affords_writeClient ..)) (fun _ => ?_) (by decide)
    split
    · refine affords_seq { logLines := 1 } (affords_resultOf (affords_completeBackendStatusPing _))
        (fun r => ?_) (by decide)
      cases r with
      | error error => exact affords_onConn (affords_log ..)
      | ok _ => trivial
    · trivial

omit [Md5] in
lemma affords_handleStatus (peer : SocketAddr) (location : IpLocation) (handshake : Handshake) :
    (handleStatus peer state location handshake).Affords taskCost
      (sessionBill.total state.config.server.maxFrameLength) := by
  refine affords_seq { sessionBill with clientFrames := 1 }
    (affords_onConn (affords_requirePacket _)) (fun request => ?_) (by decide)
  split
  · trivial
  · split
    · exact affords_within (affords_onConn (affords_log ..)) (by decide)
    · refine affords_seq { pingBill with clientWrites := 2 } (affords_statusPayload ..)
        (fun answer => ?_) (by decide)
      exact affords_seq pingBill (affords_onConn (affords_writeClient ..))
        (fun _ => affords_answerPing _) (by decide)

/-- What a connection may use, whatever it comes to. -/
def connectionBill : Bill where
  clientFrames := 3
  backendFrames := 2
  clientWrites := 2
  backendWrites := 3
  selections := 1
  sequence := 1
  logLines := 4

lemma affords_handleConnection (peer : SocketAddr) :
    (handleConnection peer state).Affords taskCost
      (connectionBill.total state.config.server.maxFrameLength) := by
  have hlookup : (lookupLocation peer state).Affords connCost
      (Bill.total { logLines := 1 } state.config.server.maxFrameLength) := by
    rw [lookupLocation]
    split
    · trivial
    · exact affords_seq_free (affords_log ..) fun _ => trivial
  refine affords_seq connectionBill (affords_onSocket _) (fun _ => ?_) (by decide)
  refine affords_seq { sessionBill with logLines := 4 } (affords_onConn (affords_requirePacket _))
    (fun packet => Prog.affords_ofExcept_bind fun handshake => ?_) (by decide)
  refine affords_seq sessionBill (affords_onConn hlookup) (fun location => ?_) (by decide)
  have hlogin : (onConn (handleLogin peer state location handshake)).Affords taskCost
      (sessionBill.total state.config.server.maxFrameLength) :=
    affords_onConn (affords_handleLogin ..)
  cases handshake.nextState with
  | status => exact affords_seq_free (affords_handleStatus ..) fun _ => affords_onSocket _
  | login => exact affords_seq_free hlogin fun _ => affords_onSocket _
  | transfer => exact affords_seq_free hlogin fun _ => affords_onSocket _

end Handlers

/-! ### All connections -/

section Steps

/-- An operation on a stream uses no more than its cost. -/
lemma Stream.step_used {β : Type} (o : StreamOp β) (c : StreamChoice) (s : Stream)
    (bytes writes : Resource) :
    (bytesRead (s.step o c).2.history).length ≤
        (bytesRead s.history).length + StreamOp.cost bytes writes β o bytes ∧
      writesIn (s.step o c).2.history ≤
        writesIn s.history + StreamOp.cost bytes writes β o writes := by
  have hread : ∀ n, (bytesRead (s.consume n).history).length ≤ (bytesRead s.history).length + n ∧
      writesIn (s.consume n).history = writesIn s.history := by
    intro n
    simp [consume, bytesRead, writesIn, List.flatMap_append]
  have hwrote : ∀ sent, bytesRead (s.send sent).history = bytesRead s.history ∧
      writesIn (s.send sent).history = writesIn s.history + 1 := by
    intro sent
    simp [send, bytesRead, writesIn, List.flatMap_append]
  have hself : ∀ resource n, uses resource n resource = n := fun _ _ => if_pos rfl
  cases o with
  | readU8 =>
    simp only [StreamOp.cost, hself, step]
    split
    · exact ⟨Nat.le_add_right .., Nat.le_add_right ..⟩
    · exact ⟨Nat.le_add_right .., Nat.le_add_right ..⟩
    · exact ⟨(hread 1).1, (hread 1).2.trans_le (Nat.le_add_right ..)⟩
  | readExact length =>
    -- at most that many bytes are consumed, whether or not they suffice
    have hconsume : ∀ n ≤ length, _ := fun n hn =>
      And.intro ((hread n).1.trans (Nat.add_le_add_left hn _))
        ((hread n).2.trans_le (Nat.le_add_right _ (uses bytes length writes)))
    simp only [StreamOp.cost, hself, step]
    split
    · exact hconsume _ (Nat.min_le_right ..)
    · split_ifs with henough
      · exact hconsume _ le_rfl
      · exact hconsume _ (not_le.mp henough).le
  | writeAll sent =>
    simp only [StreamOp.cost, hself, step]
    split
    · exact ⟨(congrArg List.length (hwrote _).1).trans_le (Nat.le_add_right ..), (hwrote _).2.le⟩
    · exact ⟨(congrArg List.length (hwrote _).1).trans_le (Nat.le_add_right ..), (hwrote _).2.le⟩
  | flush =>
    simp only [step]
    split
    · exact ⟨Nat.le_add_right .., Nat.le_add_right ..⟩
    · exact ⟨Nat.le_add_right .., Nat.le_add_right ..⟩

/-- An operation of a handler uses no more than its cost of the sockets. -/
lemma Shared.handle_used {β : Type} (o : TaskOp β) (c : ConnChoice) (own : Sockets) (s : Shared) :
    (Shared.handle β o c (own, s)).2.1.used ≤ own.used + taskCost β o := by
  intro resource
  obtain (o | o) | o | o := o
  · have hstep := own.client.step_used o c.stream .clientBytes .clientWrites
    cases resource with
    | clientBytes => exact hstep.1
    | clientWrites => exact hstep.2
    | _ => exact Nat.le_add_right ..
  · have hsame : (Shared.handle _ (.inl (.inr o)) c (own, s)).2.1 = own := by
      cases o with
      | selectRoute select =>
        simp only [handle, Task.step, Conn.step]
        split <;> rfl
      | _ => rfl
    rw [hsame]
    exact Nat.le_add_right ..
  · have hstep := own.backend.step_used o c.stream .backendBytes .backendWrites
    cases resource with
    | backendBytes => exact hstep.1
    | backendWrites => exact hstep.2
    | _ => exact Nat.le_add_right ..
  · -- a new connection to a backend has used nothing yet
    have hfresh : (Shared.handle _ (.inr (.inr o)) c (own, s)).2.1 = own ∨
        (Shared.handle _ (.inr (.inr o)) c (own, s)).2.1 = { own with backend := ⟨[], []⟩ } := by
      cases o <;> cases hfault : c.stream.fault <;> simp [handle, Task.step, hfault]
    obtain hsame | hfresh := hfresh
    · rw [hsame]
      exact Nat.le_add_right ..
    · rw [hfresh]
      cases resource with
      | backendBytes | backendWrites => exact Nat.zero_le _
      | _ => exact Nat.le_add_right ..

/-- And of what is shared. -/
lemma Shared.handle_spent {β : Type} (o : TaskOp β) (c : ConnChoice) (own : Sockets) (s : Shared) :
    (Shared.handle β o c (own, s)).2.2.spent ≤ s.spent + taskCost β o := by
  intro resource
  obtain (o | o) | o | o := o
  · cases resource <;> simp [handle, spent, Task.step, Conn.step, selectedBy]
  · cases o with
    | selectRoute select =>
      cases hselect : select s.counters <;> cases resource <;>
        simp [handle, spent, Task.step, Conn.step, selectedBy, taskCost, connCost, ServerOp.cost, uses,
          hselect]
    | fetchAdd =>
      cases resource with
      | sequence =>
        change (s.sequence + 1).toNat ≤ s.sequence.toNat + 1
        rw [UInt64.toNat_add]
        exact Nat.mod_le ..
      | _ => simp [handle, spent, Task.step, Conn.step, selectedBy]
    | _ =>
      cases resource <;> simp [handle, spent, Task.step, Conn.step, selectedBy, taskCost, connCost,
        ServerOp.cost, uses]
  · cases resource <;> simp [handle, spent, Task.step, selectedBy]
  · have hsame : (Shared.handle _ (.inr (.inr o)) c (own, s)).2.2 = s := by
      cases o <;> cases hfault : c.stream.fault <;> simp [handle, Task.step, hfault, selectedBy]
    rw [hsame]
    exact Nat.le_add_right ..

end Steps

section Running

variable [Xdb] [StdParse] [StdCase] [StdHash] [StdDisplay] [Md5] {maxFrameLength : ℕ}
  {history : List (Connections × ConnectionsEvent)} {s : Connections}

/-- The runs of connections under any states that may be published, with a bound on the frames. -/
abbrev Connections.BoundedRun (maxFrameLength : ℕ) :
    List (Connections × ConnectionsEvent) → Connections → Prop :=
  Pool.Run (Thread.step Shared.handle Sockets.receive) (fun t => ∃ state peer,
    state.config.server.maxFrameLength ≤ maxFrameLength ∧ t = .new state peer) .start

/-- However many clients there are, whatever they and the backends send, and whatever is published in
between: each connection reads at most three frames of its client and two of its backend, and writes
at most two and three packets; and there are no more selections and no more numbers for SRV records
than connections, and the handlers write no more than four log lines for each. The task around a
handler, which is not part of this, logs at most one more. -/
theorem Connections.BoundedRun.frugal (h : Connections.BoundedRun maxFrameLength history s) :
    (∀ t ∈ s.parties,
      (bytesRead t.own.client.history).length ≤ 3 * (MAX_VARINT_BYTES + maxFrameLength) ∧
      (bytesRead t.own.backend.history).length ≤ 2 * (MAX_VARINT_BYTES + maxFrameLength) ∧
      writesIn t.own.client.history ≤ 2 ∧ writesIn t.own.backend.history ≤ 3) ∧
    s.shared.selections.length ≤ s.parties.length ∧
    s.shared.sequence.toNat ≤ s.parties.length ∧
    s.shared.log.length ≤ 4 * s.parties.length := by
  have hbound : ∀ t : Connection, (∃ state peer,
      state.config.server.maxFrameLength ≤ maxFrameLength ∧ t = .new state peer) →
      t.left.Affords taskCost (connectionBill.total maxFrameLength) ∧ t.own.used = 0 := by
    rintro _ ⟨state, peer, hlength, rfl⟩
    refine ⟨(affords_handleConnection peer).mono (connectionBill.total_mono hlength), ?_⟩
    funext resource
    cases resource <;> rfl
  have hreceive : ∀ r (own : Sockets), (own.receive r).used ≤ own.used := by
    intro r own
    cases r <;> exact le_rfl
  obtain ⟨hown, hshared⟩ := Thread.spent_le Sockets.used Shared.spent h hbound hreceive
    fun o c own s => ⟨Shared.handle_used o c own s, Shared.handle_spent o c own s⟩
  have hall : ∀ resource, s.shared.spent resource ≤
      s.parties.length * connectionBill.total maxFrameLength resource := by
    intro resource
    have hstart : Shared.start.spent resource = 0 := by
      cases resource <;> rfl
    refine (hshared resource).trans_eq ?_
    rw [Pi.add_apply, hstart, add_zero, Pi.smul_apply, smul_eq_mul]
  refine ⟨fun t ht => ?_, ?_, ?_, ?_⟩
  · have hused := hown t ht
    exact ⟨hused .clientBytes, hused .backendBytes, hused .clientWrites, hused .backendWrites⟩
  · exact (hall .selections).trans_eq (Nat.mul_one _)
  · exact (hall .sequence).trans_eq (Nat.mul_one _)
  · exact (hall .logLines).trans_eq (Nat.mul_comm _ _)

end Running

section Cluster

attribute [local instance] noXdb dottedParse asciiCase noHash noDisplay noMd5 httpsUrl

/-- Two clients query the status and log in, one after the other. -/
theorem Connections.BoundedRun.frugal_cluster : ∃ history s,
    Connections.BoundedRun 2097152 history s ∧ s.parties.length = 4 ∧
      s.shared.selections.length = 4 ∧ s.shared.sequence.toNat ≤ 4 ∧ s.shared.log.length ≤ 16 := by
  obtain ⟨history, s, hrun, -, hdone, hselections, -⟩ := clusterState_run
  have hbounded : Connections.BoundedRun 2097152 history s := by
    refine hrun.mono ?_
    rintro _ ⟨peer, rfl⟩
    exact ⟨clusterState, peer, by decide, rfl⟩
  have hlength : s.parties.length = 4 := by
    rw [← List.length_map Thread.isDone, hdone]
    rfl
  obtain ⟨-, -, hsequence, hlog⟩ := hbounded.frugal
  rw [hlength] at hsequence hlog
  exact ⟨history, s, hbounded, hlength, hselections, hsequence, hlog⟩

end Cluster

end TransferGateway
