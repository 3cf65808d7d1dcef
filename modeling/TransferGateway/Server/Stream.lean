import TransferGateway.Lib.Prog
import TransferGateway.Protocol.Words

/-!
# Packets on a stream

A buffered stream delivers the bytes of the other side, which arrive at any moment until it closes.
The server reads and writes whole packets.
-/

namespace TransferGateway

/-! ### Operations -/

/-- What the server does with a `BufStream<TcpStream>`. -/
inductive StreamOp : Type → Type where
  | readU8 : StreamOp (Except IoError UInt8)
  | readExact (length : ℕ) : StreamOp (Except IoError (List UInt8))
  | writeAll (bytes : List UInt8) : StreamOp (Except IoError Unit)
  | flush : StreamOp (Except IoError Unit)

/-- Bytes taken from the stream, or given to it. -/
inductive StreamEvent where
  | read (bytes : List UInt8)
  | wrote (bytes : List UInt8)
  deriving DecidableEq

/-- What has arrived and was not read, and what was read and written so far. -/
structure Stream where
  input : List UInt8
  history : List StreamEvent
  deriving DecidableEq

/-- The operation fails, after `size` of its bytes. -/
structure StreamChoice where
  fault : Option IoError
  size : ℕ

def StreamChoice.calm : StreamChoice := ⟨none, 0⟩

def earlyEof : IoError := ⟨.unexpectedEof, "early eof"⟩

namespace Stream

def consume (s : Stream) (length : ℕ) : Stream :=
  ⟨s.input.drop length, s.history ++ [.read (s.input.take length)]⟩

def send (s : Stream) (bytes : List UInt8) : Stream :=
  { s with history := s.history ++ [.wrote bytes] }

/-- What has not arrived when the stream is read will not arrive any more. -/
def step {β : Type} (o : StreamOp β) (c : StreamChoice) (s : Stream) : β × Stream :=
  match o with
  | .readU8 =>
    match c.fault, s.input with
    | some e, _ => (.error e, s)
    | none, [] => (.error earlyEof, s)
    | none, byte :: _ => (.ok byte, s.consume 1)
  | .readExact length =>
    match c.fault with
    | some e => (.error e, s.consume (min c.size length))
    | none =>
      if length ≤ s.input.length then (.ok (s.input.take length), s.consume length)
      else (.error earlyEof, s.consume s.input.length)
  | .writeAll bytes =>
    match c.fault with
    | some e => (.error e, s.send (bytes.take c.size))
    | none => (.ok (), s.send bytes)
  | .flush =>
    match c.fault with
    | some e => (.error e, s)
    | none => (.ok (), s)

abbrev handle : Handler StreamOp StreamChoice Stream := fun _ o c s => s.step o c

lemma step_history {β : Type} (o : StreamOp β) (c : StreamChoice) (s : Stream) :
    ∃ events, (s.step o c).2.history = s.history ++ events := by
  cases o <;> simp only [step] <;> (repeat' split) <;>
    first
    | exact ⟨[], (List.append_nil _).symm⟩
    | exact ⟨_, rfl⟩

/-- More bytes arrive. -/
def Arrives (s s' : Stream) : Prop :=
  s'.history = s.history ∧ ∃ more, s'.input = s.input ++ more

/-- The other side, and any fault. -/
def peer : Env StreamChoice Stream where
  interferes := Arrives
  admits _ := True

end Stream

/-! ### Packets -/

namespace Protocol

abbrev StreamProg := Prog StreamOp ProtocolError

/-- Issue an operation; `?` turns its error into a `ProtocolError`. -/
def io {α : Type} (o : StreamOp (Except IoError α)) : StreamProg α :=
  Prog.perform o >>= fun r => .ofExcept (r.mapError .io)

/-- The error of `read_varint_async` for a failed read. -/
def varintError (e : IoError) : ProtocolError :=
  if e.kind = .unexpectedEof then .unexpectedEof else .io e

/-- The loop of `read_varint_async` from `index` on, with `n` turns left. -/
def readVarintAsyncGroups (allowEof : Bool) : (n index : ℕ) → UInt32 → StreamProg (Option Int32)
  | 0, _, _ => .fail .varIntTooLong
  | n + 1, index, result => do
    match ← Prog.perform .readU8 with
    | .error e =>
      if allowEof && index = 0 && e.kind = .unexpectedEof then return none
      else .fail (varintError e)
    | .ok byte =>
      let result ← .ofExcept (orPanic (orGroup result byte index))
      if byte &&& 0x80 = 0 then return some result.toInt32
      else readVarintAsyncGroups allowEof n (index + 1) result

def readVarintAsync (allowEof : Bool) : StreamProg (Option Int32) :=
  readVarintAsyncGroups allowEof MAX_VARINT_BYTES 0 0

/-- `None` where the other side has closed. -/
def readPacket (maxFrameLength : ℕ) : StreamProg (Option Packet) := do
  match ← readVarintAsync true with
  | none => return none
  | some length =>
    if length < 0 then .fail .negativePacketLength
    else if length.toInt.toNat > maxFrameLength then
      .fail (.packetTooLarge length.toInt.toNat maxFrameLength)
    else do
      let bytes ← io (.readExact length.toInt.toNat)
      let packet ← .ofExcept (parseFrame bytes)
      return some packet

def writePacket (id : Int32) (payload : List UInt8) : StreamProg Unit := do
  io (.writeAll (frame id payload))
  io .flush

section All

variable {P : (β : Type) → StreamOp β → Prop}

lemma all_readPacket (hbyte : P _ .readU8) (hexact : ∀ length, P _ (.readExact length))
    (maxFrameLength : ℕ) : (readPacket maxFrameLength).All P := by
  have hgroups : ∀ allowEof n index result, (readVarintAsyncGroups allowEof n index result).All P := by
    intro allowEof n
    induction n with
    | zero => exact fun _ _ => trivial
    | succ n ih =>
      intro index result
      refine .bind ((Prog.all_perform _).mpr hbyte) fun r => ?_
      cases r with
      | error e =>
        dsimp only
        split <;> trivial
      | ok byte =>
        refine .bind (by simp) fun result => ?_
        split
        · trivial
        · exact ih _ _
  refine .bind (hgroups ..) fun length => ?_
  cases length with
  | none => trivial
  | some length =>
    dsimp only
    split_ifs
    · trivial
    · trivial
    · exact .bind (.bind ((Prog.all_perform _).mpr (hexact _)) fun _ => by simp) fun _ =>
        .bind (by simp) fun _ => trivial

lemma all_writePacket {id : Int32} {payload : List UInt8} (hwrite : P _ (.writeAll (frame id payload)))
    (hflush : P _ .flush) : (writePacket id payload).All P :=
  .bind (.bind ((Prog.all_perform _).mpr hwrite) fun _ => by simp) fun _ =>
    .bind ((Prog.all_perform _).mpr hflush) fun _ => by simp

end All

/-! ### What is read and written -/

/-- Nothing was written. -/
def ReadsOnly (events : List StreamEvent) : Prop :=
  ∀ e ∈ events, ∃ bytes, e = .read bytes

/-- The bytes that were read. -/
def bytesRead (events : List StreamEvent) : List UInt8 :=
  events.flatMap fun
    | .read bytes => bytes
    | .wrote _ => []

/-- A whole frame of the packet: its length as a VarInt, and that many bytes. -/
def IsFrame (bytes : List UInt8) (packet : Packet) : Prop :=
  ∃ header body length, bytes = header ++ body ∧
    readVarint (.new header) = .ok (length, ⟨header, header.length⟩) ∧
    length.toInt = body.length ∧ parseFrame body = .ok packet

lemma readsOnly_nil : ReadsOnly [] := nofun

lemma readsOnly_read (bytes : List UInt8) : ReadsOnly [.read bytes] :=
  List.forall_mem_singleton.mpr ⟨bytes, rfl⟩

lemma ReadsOnly.append {xs ys : List StreamEvent} (hx : ReadsOnly xs) (hy : ReadsOnly ys) :
    ReadsOnly (xs ++ ys) :=
  fun e he => (List.mem_append.mp he).elim (hx e) (hy e)

@[simp] lemma bytesRead_nil : bytesRead [] = [] := rfl

@[simp] lemma bytesRead_append (xs ys : List StreamEvent) :
    bytesRead (xs ++ ys) = bytesRead xs ++ bytesRead ys :=
  List.flatMap_append

@[simp] lemma bytesRead_read (bytes : List UInt8) : bytesRead [.read bytes] = bytes := by
  simp [bytesRead]

/-- From `s` to `s'` the bytes of `reads` were taken, and nothing was written. -/
structure Took (s s' : Stream) (reads : List StreamEvent) : Prop where
  history : s'.history = s.history ++ reads
  readsOnly : ReadsOnly reads
  input : ∃ more, s.input ++ more = bytesRead reads ++ s'.input

namespace Took

lemma arrives {s s' : Stream} (h : Stream.Arrives s s') : Took s s' [] where
  history := by rw [h.1, List.append_nil]
  readsOnly := readsOnly_nil
  input := by
    obtain ⟨more, hmore⟩ := h.2
    exact ⟨more, hmore.symm⟩

lemma consume (s : Stream) (length : ℕ) :
    Took s (s.consume length) [.read (s.input.take length)] where
  history := rfl
  readsOnly := readsOnly_read _
  input := ⟨[], by simp [Stream.consume]⟩

lemma trans {s₁ s₂ s₃ : Stream} {xs ys : List StreamEvent} (h₁ : Took s₁ s₂ xs)
    (h₂ : Took s₂ s₃ ys) : Took s₁ s₃ (xs ++ ys) where
  history := by rw [h₂.history, h₁.history, List.append_assoc]
  readsOnly := h₁.readsOnly.append h₂.readsOnly
  input := by
    obtain ⟨more₁, hmore₁⟩ := h₁.input
    obtain ⟨more₂, hmore₂⟩ := h₂.input
    refine ⟨more₁ ++ more₂, ?_⟩
    rw [← List.append_assoc, hmore₁, List.append_assoc, hmore₂, bytesRead_append,
      List.append_assoc]

end Took

/-- One turn of the loop of `read_varint`. -/
lemma readVarintGroups_succ {n index : ℕ} {result result' : UInt32} {r : PacketReader}
    {byte : UInt8} (h : r.bytes[r.position]? = some byte)
    (hgroup : orGroup result byte index = .ok result') :
    readVarintGroups (n + 1) index result r =
      if byte &&& 0x80 = 0 then .ok (result'.toInt32, ⟨r.bytes, r.position + 1⟩)
      else readVarintGroups n (index + 1) result' ⟨r.bytes, r.position + 1⟩ := by
  simp only [readVarintGroups, readU8, h, hgroup, bind, StateT.bind, Except.bind]
  change (if byte &&& 0x80 = 0 then _ else _ : Reader Int32) _ = _
  split <;> rfl

/-- What `n` turns of the loop of `read_varint_async` do. A value is the one that the other reader
takes from the same bytes. -/
structure GroupsRead (n index : ℕ) (result : UInt32) (s : Stream)
    (r : Except ProtocolError (Option Int32)) (s' : Stream) (reads : List StreamEvent) : Prop where
  took : Took s s' reads
  length_le : (bytesRead reads).length ≤ n
  of_none : r = .ok none → index = 0 ∧ bytesRead reads = []
  noPanic : ∀ e, r = .error e → NoPanic e
  of_value : ∀ value, r = .ok (some value) → ∀ before,
    readVarintGroups n index result ⟨before ++ bytesRead reads, before.length⟩ =
      .ok (value, ⟨before ++ bytesRead reads, (before ++ bytesRead reads).length⟩)

lemma noPanic_varintError (e : IoError) : NoPanic (varintError e) := by
  intro panic
  rw [varintError]
  split <;> simp

lemma wp_readVarintAsyncGroups (allowEof : Bool) {n index : ℕ} (result : UInt32) (s : Stream)
    (hindex : index + n ≤ MAX_VARINT_BYTES) :
    (readVarintAsyncGroups allowEof n index result).wp Stream.handle Stream.peer
      (fun r s' => ∃ reads, GroupsRead n index result s r s' reads) s := by
  induction n generalizing index result s with
  | zero => exact ⟨[], .arrives ⟨rfl, [], by simp⟩, by simp, by simp, by simp [NoPanic], by simp⟩
  | succ n ih =>
    rw [readVarintAsyncGroups]
    simp only [Prog.wp_bind, Prog.wp_perform]
    intro s₁ h₁ c _
    have hfailed : ∀ e : IoError,
        (if allowEof && index = 0 && e.kind = .unexpectedEof then return none
          else .fail (varintError e) : StreamProg (Option Int32)).wp Stream.handle Stream.peer
          (fun r s' => ∃ reads, GroupsRead (n + 1) index result s r s' reads) s₁ := by
      intro e
      split
      next heof =>
        simp only [Bool.and_eq_true, decide_eq_true_eq] at heof
        exact ⟨[], .arrives h₁, by simp, fun _ => ⟨heof.1.2, rfl⟩, by simp, by simp⟩
      next =>
        refine ⟨[], .arrives h₁, by simp, by simp, ?_, by simp⟩
        intro e' he'
        cases he'
        exact noPanic_varintError e
    cases hfault : c.fault with
    | some e =>
      simp only [Stream.step, hfault]
      exact hfailed e
    | none =>
      cases hinput : s₁.input with
      | nil =>
        simp only [Stream.step, hfault, hinput]
        exact hfailed earlyEof
      | cons byte input =>
        obtain ⟨result', hgroup⟩ : ∃ result', orGroup result byte index = .ok result' :=
          ⟨_, orGroup_eq_ok (by omega) result byte⟩
        have htook : Took s (s₁.consume 1) [.read [byte]] := by
          have := (Took.arrives h₁).trans (Took.consume s₁ 1)
          rwa [hinput] at this
        simp only [Stream.step, hfault, hinput, hgroup, orPanic, Except.mapError, Prog.ofExcept_ok,
          pure_bind]
        split
        next hlast =>
          refine ⟨_, htook, by simp, by simp, by simp, ?_⟩
          intro value hvalue before
          cases hvalue
          rw [readVarintGroups_succ (by simp) hgroup, if_pos hlast]
          simp
        next hmore =>
          apply Prog.wp_mono (ih result' _ (by omega))
          rintro r s' ⟨reads, h⟩
          refine ⟨_, htook.trans h.took, ?_, ?_, h.noPanic, ?_⟩
          · have := h.length_le
            simp only [bytesRead_append, bytesRead_read, List.length_append, List.length_singleton]
            omega
          · intro hr
            have := (h.of_none hr).1
            omega
          · intro value hr before
            have hrest := h.of_value value hr (before ++ [byte])
            rw [readVarintGroups_succ (by simp [bytesRead]) hgroup, if_neg hmore]
            simpa [bytesRead] using hrest

lemma wp_readExact (length : ℕ) (s : Stream) :
    (io (.readExact length)).wp Stream.handle Stream.peer (fun r s' =>
      ∃ reads, Took s s' reads ∧ (bytesRead reads).length ≤ length ∧
        (∀ e, r = .error e → NoPanic e) ∧
        ∀ bytes, r = .ok bytes → bytes = bytesRead reads ∧ bytes.length = length) s := by
  simp only [io, Prog.wp_bind, Prog.wp_perform, Prog.wp_ofExcept]
  intro s₁ h₁ c _
  have htook : ∀ size, Took s (s₁.consume size) [.read (s₁.input.take size)] := fun size => by
    simpa using (Took.arrives h₁).trans (Took.consume s₁ size)
  cases hfault : c.fault with
  | some e =>
    simp only [Stream.step, hfault]
    refine ⟨_, htook _, ?_, by simp [Except.mapError, NoPanic], by simp [Except.mapError]⟩
    rw [bytesRead_read, List.length_take]
    omega
  | none =>
    simp only [Stream.step, hfault]
    split
    next hlength =>
      have htaken : (s₁.input.take length).length = length := List.length_take_of_le hlength
      refine ⟨_, htook _, by rw [bytesRead_read, htaken], by simp [Except.mapError], ?_⟩
      intro bytes hbytes
      cases hbytes
      exact ⟨(bytesRead_read _).symm, htaken⟩
    next hlength =>
      refine ⟨_, htook _, ?_, by simp [Except.mapError, NoPanic], by simp [Except.mapError]⟩
      rw [bytesRead_read, List.length_take]
      omega

/-- What one call of `read_packet` does: a packet came in a whole frame, and nothing was taken
where the other side had closed. -/
structure PacketRead (maxFrameLength : ℕ) (s : Stream) (r : Except ProtocolError (Option Packet))
    (s' : Stream) (reads : List StreamEvent) : Prop where
  took : Took s s' reads
  length_le : (bytesRead reads).length ≤ MAX_VARINT_BYTES + maxFrameLength
  noPanic : ∀ e, r = .error e → NoPanic e
  of_none : r = .ok none → bytesRead reads = []
  of_packet : ∀ packet, r = .ok (some packet) → IsFrame (bytesRead reads) packet

lemma wp_readPacket (maxFrameLength : ℕ) (s : Stream) :
    (readPacket maxFrameLength).wp Stream.handle Stream.peer
      (fun r s' => ∃ reads, PacketRead maxFrameLength s r s' reads) s := by
  refine Prog.wp_seq (wp_readVarintAsyncGroups true 0 s (Nat.zero_add MAX_VARINT_BYTES).le) ?_ ?_
  · rintro header s₁ ⟨reads, hheader⟩
    have hshort : (bytesRead reads).length ≤ MAX_VARINT_BYTES + maxFrameLength :=
      hheader.length_le.trans (Nat.le_add_right _ _)
    cases header with
    | none =>
      exact ⟨reads, hheader.took, hshort, by simp, fun _ => (hheader.of_none rfl).2, by simp⟩
    | some length =>
      dsimp only
      split_ifs with hnegative hlarge
      · exact ⟨reads, hheader.took, hshort, by simp [NoPanic], by simp, by simp⟩
      · exact ⟨reads, hheader.took, hshort, by simp [NoPanic], by simp, by simp⟩
      refine Prog.wp_seq (wp_readExact length.toInt.toNat s₁) ?_ ?_
      · rintro bytes s₂ ⟨reads', htook, hlength, -, hbytes⟩
        obtain ⟨rfl, hlength'⟩ := hbytes bytes rfl
        have hlong : (bytesRead (reads ++ reads')).length ≤ MAX_VARINT_BYTES + maxFrameLength := by
          have := hheader.length_le
          rw [bytesRead_append, List.length_append]
          omega
        rw [Prog.wp_bind, Prog.wp_ofExcept]
        cases hpacket : parseFrame (bytesRead reads') with
        | error e =>
          refine ⟨_, hheader.took.trans htook, hlong, ?_, by simp, by simp⟩
          intro e' he'
          cases he'
          exact noPanic_parseFrame hpacket
        | ok packet =>
          refine ⟨_, hheader.took.trans htook, hlong, by simp, by simp, ?_⟩
          intro packet' hpacket'
          cases hpacket'
          have hnonneg : 0 ≤ length.toInt := Int32.le_iff_toInt_le.mp (Int32.not_lt.mp hnegative)
          exact ⟨_, _, length, bytesRead_append _ _, hheader.of_value length rfl [], by omega,
            hpacket⟩
      · rintro e s₂ ⟨reads', htook, hlength, hnoPanic, -⟩
        refine ⟨_, hheader.took.trans htook, ?_, ?_, by simp, by simp⟩
        · have := hheader.length_le
          rw [bytesRead_append, List.length_append]
          omega
        · intro e' he'
          cases he'
          exact hnoPanic e rfl
  · rintro e s₁ ⟨reads, hheader⟩
    refine ⟨reads, hheader.took, hheader.length_le.trans (Nat.le_add_right _ _), ?_, by simp, by simp⟩
    intro e' he'
    cases he'
    exact hheader.noPanic e rfl

/-- A packet is written whole, or an I/O error cuts it short. -/
lemma wp_writePacket (id : Int32) (payload : List UInt8) (s : Stream) :
    (writePacket id payload).wp Stream.handle Stream.peer (fun r s' =>
      r = .ok () ∧ s'.history = s.history ++ [.wrote (frame id payload)] ∨
      ∃ e sent, r = .error (.io e) ∧ sent <+: frame id payload ∧
        s'.history = s.history ++ [.wrote sent]) s := by
  simp only [writePacket, io, Prog.wp_bind, Prog.wp_perform, Prog.wp_ofExcept]
  rintro ⟨input, history⟩ ⟨rfl, -⟩ c -
  cases hfault : c.fault with
  | some e =>
    simp only [Stream.step, hfault]
    exact Or.inr ⟨e, _, rfl, List.take_prefix _ _, rfl⟩
  | none =>
    simp only [Stream.step, hfault]
    rintro ⟨input', history'⟩ ⟨rfl, -⟩ c' -
    cases hfault' : c'.fault with
    | some e => exact Or.inr ⟨e, _, rfl, List.prefix_rfl, rfl⟩
    | none => exact Or.inl ⟨rfl, rfl⟩

end Protocol

end TransferGateway
