import TransferGateway.Protocol.Packets
import TransferGateway.Server.Stream

/-!
# VarInts on a stream and in a slice

A VarInt is read by two loops, one over a stream whose bytes are on their way and one over a slice
that is there. On the same bytes they do the same.
-/

namespace TransferGateway

open Protocol Grammar

/-! ### Bytes on their way -/

namespace Stream

/-- The stream carries these bytes and then ends. They arrive in any pieces; a read waits for one more
byte, and it does not fail. -/
def carrying (bytes : List UInt8) : Env StreamChoice Stream where
  interferes s s' := Arrives s s' ∧ bytesRead s'.history ++ s'.input <+: bytes ∧
    (s'.input = [] → bytesRead s'.history = bytes)
  admits c := c.fault = none

/-- What is read leaves the input. -/
lemma step_bytes {β : Type} (o : StreamOp β) (s : Stream) :
    bytesRead (s.step o .calm).2.history ++ (s.step o .calm).2.input =
      bytesRead s.history ++ s.input := by
  cases o with
  | readU8 =>
    cases hinput : s.input with
    | nil => simp [step, StreamChoice.calm, hinput]
    | cons byte input => simp [step, StreamChoice.calm, consume, hinput]
  | readExact length =>
    by_cases hlength : length ≤ s.input.length
    · simp [step, StreamChoice.calm, consume, hlength]
    · simp [step, StreamChoice.calm, consume, hlength]
  | writeAll bytes => simp [step, StreamChoice.calm, send, bytesRead]
  | flush => rfl

lemma exists_outcome_carrying {ε α : Type} (bytes : List UInt8) (p : Prog StreamOp ε α) :
    ∃ r s', p.Outcome handle (carrying bytes) ⟨[], []⟩ r s' := by
  refine Prog.exists_outcome (I := fun s => bytesRead s.history ++ s.input <+: bytes) ?_
    (c := .calm) rfl ?_ p List.nil_prefix
  · rintro s ⟨more, hmore⟩
    -- all that is missing arrives at once
    refine ⟨⟨s.input ++ more, s.history⟩, ⟨⟨rfl, more, rfl⟩, ?_, ?_⟩, ?_⟩
    · rw [← List.append_assoc, hmore]
    · intro hinput
      rw [List.append_eq_nil_iff] at hinput
      simpa [hinput.1, hinput.2] using hmore
    · rw [← List.append_assoc, hmore]
  · intro β o s hs
    rw [step_bytes]
    exact hs

end Stream

namespace Protocol

/-! ### On a stream -/

/-- The loop on a stream ended like the one in the slice, which was about to read behind `before`. -/
def Agrees (allowEof : Bool) (index : ℕ) (bytes before : List UInt8)
    (slice : Except ProtocolError (Int32 × PacketReader))
    (r : Except ProtocolError (Option Int32)) (s' : Stream) : Prop :=
  match slice with
  | .ok (value, reader) => r = .ok (some value) ∧ bytesRead s'.history = bytes.take reader.position
  | .error .unexpectedEof =>
    r = if allowEof ∧ index = 0 ∧ bytes = before then .ok none else .error .unexpectedEof
  | .error e => r = .error e

/-- Behind a byte the end of the input is an error in both. -/
lemma Agrees.of_succ {allowEof : Bool} {index : ℕ} {bytes before : List UInt8} {byte : UInt8}
    {slice : Except ProtocolError (Int32 × PacketReader)}
    {r : Except ProtocolError (Option Int32)} {s' : Stream} (hbytes : bytes ≠ before)
    (h : Agrees allowEof (index + 1) bytes (before ++ [byte]) slice r s') :
    Agrees allowEof index bytes before slice r s' := by
  obtain e | ⟨value, reader⟩ := slice
  · cases e <;> simpa [Agrees, hbytes] using h
  · exact h

lemma wp_readVarintAsyncGroups_carrying (allowEof : Bool) {n index : ℕ} {result : UInt32}
    {bytes before rest : List UInt8} {s : Stream} (hindex : index + n ≤ MAX_VARINT_BYTES)
    (hbytes : bytes = before ++ rest) (hread : bytesRead s.history = before) :
    (readVarintAsyncGroups allowEof n index result).wp Stream.handle (Stream.carrying bytes)
      (Agrees allowEof index bytes before
        (readVarintGroups n index result ⟨bytes, before.length⟩)) s := by
  induction n generalizing index result before rest s with
  | zero => rfl
  | succ n ih =>
    rw [readVarintAsyncGroups]
    simp only [Prog.wp_bind, Prog.wp_perform]
    rintro s₁ ⟨⟨hhistory, -⟩, hinitial, hend⟩ c hc
    rw [hhistory, hread] at hinitial hend
    cases hinput : s₁.input with
    | nil =>
      -- all bytes were read
      have hall := hend hinput
      have hslice : readVarintGroups (n + 1) index result ⟨bytes, before.length⟩ =
          .error .unexpectedEof := by
        simp [readVarintGroups, readU8, hall, bind, StateT.bind, Except.bind]
      simp only [Stream.step, show c.fault = none from hc, hinput, hslice]
      by_cases heof : allowEof = true ∧ index = 0
      · rw [if_pos (by simpa [earlyEof] using heof)]
        exact (if_pos ⟨heof.1, heof.2, hall.symm⟩).symm
      · rw [if_neg (by simpa [earlyEof] using heof)]
        exact (if_neg fun h => heof ⟨h.1, h.2.1⟩).symm
    | cons byte input =>
      rw [hinput] at hinitial
      obtain ⟨more, hmore⟩ := hinitial
      have hbyte : bytes[before.length]? = some byte := by simp [← hmore]
      have hne : bytes ≠ before := by simp [← hmore]
      obtain ⟨result', hgroup⟩ : ∃ result', orGroup result byte index = .ok result' :=
        ⟨_, orGroup_eq_ok (by omega) result byte⟩
      have hread' : bytesRead (s₁.consume 1).history = before ++ [byte] := by
        simp [Stream.consume, hhistory, hread, hinput]
      have htaken : bytes.take (before.length + 1) = before ++ [byte] := by
        simp [← hmore, List.take_append]
      rw [readVarintGroups_succ hbyte hgroup]
      simp only [Stream.step, show c.fault = none from hc, hinput, hgroup, orPanic,
        Except.mapError, Prog.ofExcept_ok, pure_bind]
      by_cases hlast : byte &&& 0x80 = 0
      · rw [if_pos hlast, if_pos hlast]
        refine ⟨rfl, ?_⟩
        exact hread'.trans htaken.symm
      · rw [if_neg hlast, if_neg hlast]
        have hindex' : index + 1 + n ≤ MAX_VARINT_BYTES := by omega
        have hbytes' : bytes = (before ++ [byte]) ++ (input ++ more) := by simp [← hmore]
        have hrest := @ih (index + 1) result' _ _ _ hindex' hbytes' hread'
        rw [List.length_append, List.length_singleton] at hrest
        exact Prog.wp_mono hrest fun r s' h => h.of_succ hne

/-! ### Both -/

/-- No VarInt that reads as the value is shorter than the one that is written. -/
lemma isShortest_writeVarint (value : Int32) : IsShortest value (writeVarint value) := by
  refine ⟨isVarint_writeVarint value, fun {w} h => ?_⟩
  by_contra hlt
  -- a shorter word has at most four groups, so no bit of it is lost
  have hlength : w.length ≤ 4 := by
    have := length_writeVarint_le value
    change _ ≤ 5 at this
    omega
  have hfits : Base128.value w < 2 ^ 32 := calc
    Base128.value w < 128 ^ w.length := Base128.value_lt w
    _ ≤ 128 ^ 4 := Nat.pow_le_pow_right (by decide) hlength
    _ < 2 ^ 32 := by decide
  have hvalue : Base128.value w = Base128.value (writeVarint value) := by
    rw [value_writeVarint, h.value_eq, Nat.mod_eq_of_lt hfits]
  obtain rfl | hlonger := (minimal_writeVarint value).eq_or_length_lt h.terminated hvalue
  · exact hlt le_rfl
  · exact hlt hlonger.le

/-- What the reader of a slice may do. -/
lemma readVarint_cases (bytes : List UInt8) :
    (∃ value w, IsVarint value w ∧ w <+: bytes ∧
      readVarint (.new bytes) = .ok (value, ⟨bytes, w.length⟩)) ∨
    readVarint (.new bytes) = .error .varIntTooLong ∨
    readVarint (.new bytes) = .error .unexpectedEof := by
  cases hslice : readVarint (.new bytes) with
  | ok r =>
    obtain ⟨value, reader⟩ := r
    obtain ⟨w, hw, hinitial, rfl⟩ :=
      (recognizes_readVarint _ (valid_new bytes) value reader).mp hslice
    exact Or.inl ⟨value, w, hw, hinitial, by simp [Input.skip, PacketReader.new]⟩
  | error e =>
    obtain rfl | rfl := tooLongOrShort_readVarint _ (valid_new bytes) _ hslice
    · exact Or.inr (Or.inl rfl)
    · exact Or.inr (Or.inr rfl)

lemma wp_readVarintAsync_carrying (bytes : List UInt8) (allowEof : Bool) :
    (readVarintAsync allowEof).wp Stream.handle (Stream.carrying bytes)
      (Agrees allowEof 0 bytes [] (readVarint (.new bytes))) ⟨[], []⟩ :=
  wp_readVarintAsyncGroups_carrying allowEof (by decide) (List.nil_append bytes).symm rfl

/-- A VarInt that comes first is read from the slice. -/
lemma readVarint_of_isVarint {value : Int32} {w : List UInt8} (h : IsVarint value w)
    (rest : List UInt8) :
    readVarint (.new (w ++ rest)) = .ok (value, ⟨w ++ rest, w.length⟩) := by
  have := recognizes_readVarint.eq_ok (valid_new (w ++ rest)) h (List.prefix_append w rest)
  simpa [Input.skip, PacketReader.new] using this

/-- The two readers end alike on every byte sequence, however the bytes arrive on the stream; and they
read every value back from its VarInt, than which none is shorter. -/
theorem varint_readers_agree :
    (∀ (bytes : List UInt8) (allowEof : Bool),
      (∃ r s', (readVarintAsync allowEof).Outcome Stream.handle (Stream.carrying bytes) ⟨[], []⟩
        r s') ∧
      (readVarintAsync allowEof).wp Stream.handle (Stream.carrying bytes) (fun r s' =>
        (∃ value reader, readVarint (.new bytes) = .ok (value, reader) ∧ r = .ok (some value) ∧
          bytesRead s'.history = bytes.take reader.position ∧
          (bytesRead s'.history).length = reader.position ∧
          1 ≤ reader.position ∧ reader.position ≤ 5) ∨
        (readVarint (.new bytes) = .error .varIntTooLong ∧ r = .error .varIntTooLong) ∨
        (readVarint (.new bytes) = .error .unexpectedEof ∧
          r = if allowEof ∧ bytes = [] then .ok none else .error .unexpectedEof)) ⟨[], []⟩) ∧
    ∀ (value : Int32),
      (∀ rest, readVarint (.new (writeVarint value ++ rest)) =
        .ok (value, ⟨writeVarint value ++ rest, (writeVarint value).length⟩)) ∧
      (∀ rest allowEof, (readVarintAsync allowEof).wp Stream.handle
        (Stream.carrying (writeVarint value ++ rest)) (fun r s' =>
          r = .ok (some value) ∧ bytesRead s'.history = writeVarint value) ⟨[], []⟩) ∧
      ∀ bytes reader, readVarint (.new bytes) = .ok (value, reader) →
        (writeVarint value).length ≤ reader.position := by
  constructor
  · intro bytes allowEof
    refine ⟨Stream.exists_outcome_carrying bytes _, ?_⟩
    apply Prog.wp_mono (wp_readVarintAsync_carrying bytes allowEof)
    intro r s' hagrees
    rcases readVarint_cases bytes with ⟨value, w, hw, hinitial, hslice⟩ | hslice | hslice
    · rw [hslice] at hagrees ⊢
      obtain ⟨hr, hread⟩ := hagrees
      refine Or.inl ⟨value, _, rfl, hr, hread, ?_, hw.terminated.length_pos, hw.length_le⟩
      rw [hread, List.length_take, Nat.min_eq_left hinitial.length_le]
    · rw [hslice] at hagrees ⊢
      exact Or.inr (Or.inl ⟨rfl, hagrees⟩)
    · rw [hslice] at hagrees ⊢
      exact Or.inr (Or.inr ⟨rfl, by simpa [Agrees] using hagrees⟩)
  · intro value
    have hwritten := readVarint_of_isVarint (isVarint_writeVarint value)
    refine ⟨hwritten, ?_, ?_⟩
    · intro rest allowEof
      apply Prog.wp_mono (wp_readVarintAsync_carrying _ allowEof)
      intro r s' hagrees
      rw [hwritten] at hagrees
      exact ⟨hagrees.1, hagrees.2.trans List.take_left⟩
    · intro bytes reader hread
      obtain ⟨w, hw, -, rfl⟩ := (recognizes_readVarint _ (valid_new bytes) value reader).mp hread
      simpa [Input.skip, PacketReader.new] using (isShortest_writeVarint value).length_le hw

end Protocol

end TransferGateway
