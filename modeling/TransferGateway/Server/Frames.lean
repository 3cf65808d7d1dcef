import TransferGateway.Config.Sections
import TransferGateway.Server.Stream

/-!
# Sequences of packets

What one side writes packet by packet the other side reads packet by packet.
-/

namespace TransferGateway

/-- The other side has sent all that it sends, and nothing fails. -/
def Stream.closed : Env StreamChoice Stream where
  interferes s s' := s' = s
  admits c := c.fault = none

namespace Protocol

/-- One `write_packet` after the other. -/
def writePackets : List Packet → StreamProg Unit
  | [] => return
  | packet :: packets => do
    writePacket packet.id packet.payload
    writePackets packets

/-- `n` times `read_packet`. -/
def readPackets (maxFrameLength : ℕ) : ℕ → StreamProg (List (Option Packet))
  | 0 => return []
  | n + 1 => do
    let packet ← readPacket maxFrameLength
    let packets ← readPackets maxFrameLength n
    return packet :: packets

/-- The bytes that were written. -/
def bytesWritten (events : List StreamEvent) : List UInt8 :=
  events.flatMap fun
    | .read _ => []
    | .wrote bytes => bytes

/-- The frames of packets, one after the other. -/
def frames (packets : List Packet) : List UInt8 :=
  packets.flatMap fun packet => frame packet.id packet.payload

/-! ### Writing -/

lemma wp_writePackets (packets : List Packet) (s : Stream) :
    (writePackets packets).wp Stream.handle Stream.closed (fun r s' =>
      r = .ok () ∧ bytesWritten s'.history = bytesWritten s.history ++ frames packets) s := by
  induction packets generalizing s with
  | nil => exact ⟨rfl, (List.append_nil _).symm⟩
  | cons packet packets ih =>
    simp only [writePackets, writePacket, io, Prog.wp_bind, Prog.wp_perform, Prog.wp_ofExcept]
    rintro _ rfl c hc
    simp only [Stream.step, show c.fault = none from hc]
    rintro _ rfl c' hc'
    simp only [show c'.fault = none from hc']
    apply Prog.wp_mono (ih _)
    rintro r s' ⟨hr, hwritten⟩
    refine ⟨hr, ?_⟩
    rw [hwritten]
    simp [bytesWritten, Stream.send, frames]

/-! ### Reading -/

/-- Without faults the loop takes from the input what `read_varint` takes from a slice. -/
lemma wp_readVarintAsyncGroups_closed (allowEof : Bool) {n index : ℕ} {result : UInt32}
    {before : List UInt8} {s : Stream} {value : Int32} {position : ℕ}
    (h : readVarintGroups n index result ⟨before ++ s.input, before.length⟩ =
      .ok (value, ⟨before ++ s.input, position⟩)) :
    (readVarintAsyncGroups allowEof n index result).wp Stream.handle Stream.closed (fun r s' =>
      r = .ok (some value) ∧ before.length ≤ position ∧
        s'.input = s.input.drop (position - before.length)) s := by
  induction n generalizing index result before s with
  | zero => cases h
  | succ n ih =>
    rw [readVarintAsyncGroups]
    simp only [Prog.wp_bind, Prog.wp_perform]
    intro s₁ hs c hc
    rw [show s₁ = s from hs]
    cases hinput : s.input with
    | nil =>
      rw [hinput, List.append_nil] at h
      simp [readVarintGroups, readU8, bind, StateT.bind, Except.bind] at h
    | cons byte input =>
      rw [hinput] at h
      have hbyte : (before ++ byte :: input)[before.length]? = some byte := by simp
      simp only [Stream.step, show c.fault = none from hc, hinput]
      cases hgroup : orGroup result byte index with
      | error panic =>
        simp only [readVarintGroups, readU8, hbyte, hgroup, bind, StateT.bind, Except.bind] at h
        cases h
      | ok result' =>
        rw [readVarintGroups_succ hbyte hgroup] at h
        simp only [orPanic, Except.mapError, Prog.ofExcept_ok, pure_bind]
        have hconsumed : (s.consume 1).input = input := by
          rw [Stream.consume, hinput]
          rfl
        split
        next hlast =>
          rw [if_pos hlast] at h
          cases h
          refine ⟨rfl, Nat.le_succ _, ?_⟩
          rw [hconsumed, Nat.add_sub_cancel_left]
          rfl
        next hmore =>
          rw [if_neg hmore] at h
          have hrest : readVarintGroups n (index + 1) result'
              ⟨(before ++ [byte]) ++ (s.consume 1).input, (before ++ [byte]).length⟩ =
                .ok (value, ⟨(before ++ [byte]) ++ (s.consume 1).input, position⟩) := by
            simpa [hconsumed] using h
          apply Prog.wp_mono (ih hrest)
          rintro r s' ⟨hr, hle, hinput'⟩
          simp only [List.length_append, List.length_singleton] at hle hinput'
          refine ⟨hr, by omega, ?_⟩
          obtain ⟨k, rfl⟩ := Nat.exists_eq_add_of_le hle
          rw [hinput', hconsumed, show before.length + 1 + k - before.length = k + 1 by omega,
            List.drop_succ_cons, Nat.add_sub_cancel_left]

/-- A VarInt that comes first is read, and what follows it is left. -/
lemma wp_readVarintAsync_closed {value : Int32} {w rest : List UInt8} (hw : IsVarint value w)
    {s : Stream} (hs : s.input = w ++ rest) :
    (readVarintAsync true).wp Stream.handle Stream.closed (fun r s' =>
      r = .ok (some value) ∧ s'.input = rest) s := by
  have h : readVarintGroups MAX_VARINT_BYTES 0 0 ⟨[] ++ s.input, ([] : List UInt8).length⟩ =
      .ok (value, ⟨[] ++ s.input, w.length⟩) := by
    have := recognizes_readVarint.eq_ok (valid_new (w ++ rest)) hw (List.prefix_append w rest)
    rw [List.nil_append, hs]
    rw [readVarint] at this
    simpa [Grammar.Input.skip, PacketReader.new] using this
  apply Prog.wp_mono (wp_readVarintAsyncGroups_closed true h)
  rintro r s' ⟨hr, -, hinput⟩
  refine ⟨hr, ?_⟩
  rw [hinput, hs]
  simp

/-- A frame that comes first is read as its packet, and what follows it is left. -/
lemma wp_readPacket_closed {maxFrameLength : ℕ} {packet : Packet} {rest : List UInt8}
    (hmax : maxFrameLength < 2 ^ 31)
    (hfits : (writeVarint packet.id ++ packet.payload).length ≤ maxFrameLength) {s : Stream}
    (hs : s.input = frame packet.id packet.payload ++ rest) :
    (readPacket maxFrameLength).wp Stream.handle Stream.closed (fun r s' =>
      r = .ok (some packet) ∧ s'.input = rest) s := by
  have hlength := toInt_ofNat_of_lt (hfits.trans_lt hmax)
  rw [frame, lengthVarint, List.append_assoc] at hs
  refine Prog.wp_seq (wp_readVarintAsync_closed (isVarint_writeVarint _) hs) ?_ ?_
  · rintro header s₁ ⟨hheader, hinput⟩
    cases hheader
    dsimp only
    have hnonneg : ¬Int32.ofNat (writeVarint packet.id ++ packet.payload).length < 0 := by
      rw [Int32.not_lt, Int32.le_iff_toInt_le, hlength]
      exact Int.natCast_nonneg _
    rw [if_neg hnonneg, hlength, Int.toNat_natCast, if_neg (Nat.not_lt.mpr hfits)]
    simp only [io, Prog.wp_bind, Prog.wp_perform, Prog.wp_ofExcept]
    intro s₂ hs₂ c hc
    rw [show s₂ = s₁ from hs₂]
    have hle : (writeVarint packet.id ++ packet.payload).length ≤ s₁.input.length := by
      rw [hinput]
      simp
    simp only [Stream.step, show c.fault = none from hc, if_pos hle, Stream.consume]
    rw [hinput, List.take_left, List.drop_left]
    simp only [Except.mapError, parseFrame_append (isVarint_writeVarint packet.id) packet.payload]
    exact ⟨rfl, rfl⟩
  · rintro e s₁ ⟨hr, -⟩
    cases hr

/-- Where nothing is left the other side has closed. -/
lemma wp_readPacket_eof (maxFrameLength : ℕ) {s : Stream} (hs : s.input = []) :
    (readPacket maxFrameLength).wp Stream.handle Stream.closed (fun r s' =>
      r = .ok none ∧ s'.input = []) s := by
  rw [readPacket, Prog.wp_bind]
  intro s₁ hs₁ c hc
  rw [show s₁ = s from hs₁]
  simp only [Stream.step, show c.fault = none from hc, hs]
  exact ⟨rfl, hs⟩

lemma wp_readPackets {maxFrameLength : ℕ} (hmax : maxFrameLength < 2 ^ 31) {packets : List Packet}
    (hfits : ∀ packet ∈ packets,
      (writeVarint packet.id ++ packet.payload).length ≤ maxFrameLength)
    {s : Stream} (hs : s.input = frames packets) :
    (readPackets maxFrameLength (packets.length + 1)).wp Stream.handle Stream.closed (fun r s' =>
      r = .ok (packets.map some ++ [none]) ∧ s'.input = []) s := by
  induction packets generalizing s with
  | nil =>
    refine Prog.wp_seq (wp_readPacket_eof maxFrameLength hs) ?_ ?_
    · rintro packet s' ⟨hpacket, hinput⟩
      cases hpacket
      exact ⟨rfl, hinput⟩
    · rintro e s' ⟨hr, -⟩
      cases hr
  | cons packet packets ih =>
    rw [List.forall_mem_cons] at hfits
    refine Prog.wp_seq (wp_readPacket_closed hmax hfits.1 hs) ?_ ?_
    · rintro _ s₁ ⟨hpacket, hinput⟩
      cases hpacket
      refine Prog.wp_seq (ih hfits.2 hinput) ?_ ?_
      · rintro _ s₂ ⟨hpackets, hinput'⟩
        cases hpackets
        exact ⟨rfl, hinput'⟩
      · rintro e s₂ ⟨hr, -⟩
        cases hr
    · rintro e s₁ ⟨hr, -⟩
      cases hr

end Protocol

/-! ### Main result -/

open Protocol

/-- An accepted frame length is a positive `i32`. -/
lemma ServerConfig.maxFrameLength_lt {server : ServerConfig} (h : server.validate = .ok ()) :
    server.maxFrameLength < 2 ^ 31 := by
  simp only [ServerConfig.validate, except_bind_eq_ok, bailIf_eq_ok, not_not] at h
  obtain ⟨-, -, -, -, -, -, -, h, -⟩ := h
  omega

/-- Packets within the accepted length are read as they were written, and then the end. Whatever
the other side sends, a call takes at most one frame, which it takes whole where it returns a
packet, and does not panic. -/
theorem packets_read_back {server : ServerConfig} (h : server.validate = .ok ()) :
    (∀ packets : List Packet, (∀ packet ∈ packets,
        (writeVarint packet.id ++ packet.payload).length ≤ server.maxFrameLength) →
      (writePackets packets).wp Stream.handle Stream.closed (fun r s => r = .ok () ∧
        (readPackets server.maxFrameLength (packets.length + 1)).wp Stream.handle Stream.closed
          (fun r s' => r = .ok (packets.map some ++ [none]) ∧ s'.input = [])
          ⟨bytesWritten s.history, []⟩) ⟨[], []⟩) ∧
    ∀ s, (readPacket server.maxFrameLength).wp Stream.handle Stream.peer
      (fun r s' => ∃ reads, PacketRead server.maxFrameLength s r s' reads) s := by
  constructor
  · intro packets hfits
    apply Prog.wp_mono (wp_writePackets packets _)
    rintro r s ⟨hr, hwritten⟩
    exact ⟨hr, wp_readPackets (ServerConfig.maxFrameLength_lt h) hfits hwritten⟩
  · exact wp_readPacket server.maxFrameLength

theorem packets_read_back_default :
    (∀ packets : List Packet, (∀ packet ∈ packets,
        (writeVarint packet.id ++ packet.payload).length ≤ ServerConfig.default.maxFrameLength) →
      (writePackets packets).wp Stream.handle Stream.closed (fun r s => r = .ok () ∧
        (readPackets ServerConfig.default.maxFrameLength (packets.length + 1)).wp Stream.handle
          Stream.closed (fun r s' => r = .ok (packets.map some ++ [none]) ∧ s'.input = [])
          ⟨bytesWritten s.history, []⟩) ⟨[], []⟩) ∧
    ∀ s, (readPacket ServerConfig.default.maxFrameLength).wp Stream.handle Stream.peer
      (fun r s' => ∃ reads, PacketRead ServerConfig.default.maxFrameLength s r s' reads) s :=
  packets_read_back (by decide)

end TransferGateway
