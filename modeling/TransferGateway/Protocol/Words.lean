import Mathlib.Data.Nat.Bitwise
import TransferGateway.Lib.Base128
import TransferGateway.Lib.Grammar
import TransferGateway.Protocol

/-!
# The words of the protocol

What spells a VarInt, a string, a UUID and a port, and that `PacketReader` recognizes these words
and never panics. What the writers write are such words.
-/

namespace TransferGateway

namespace Protocol

open Grammar

/-! ### Bits -/

lemma toNat_and_0x7F (b : UInt8) : (b &&& 0x7F).toNat = b.toNat % 128 := by
  rw [UInt8.toNat_and]
  exact Nat.and_two_pow_sub_one_eq_mod b.toNat 7

lemma and_0x80_eq_zero (b : UInt8) : b &&& 0x80 = 0 ↔ b.toNat < 128 := by
  have := b.toNat_lt
  rw [← UInt8.toNat_inj, UInt8.toNat_and]
  change b.toNat &&& 2 ^ 7 = 0 ↔ _
  rw [Nat.and_two_pow, Nat.testBit_eq_decide_div_mod_eq]
  simp
  omega

lemma toNat_low (v : UInt32) : (v &&& 0x7F).toNat = v.toNat % 128 := by
  rw [UInt32.toNat_and]
  exact Nat.and_two_pow_sub_one_eq_mod v.toNat 7

/-- The bits above the lowest seven. -/
lemma and_high (n : ℕ) (hn : n < 2 ^ 32) : n &&& (2 ^ 7 * (2 ^ 25 - 1)) = 2 ^ 7 * (n / 2 ^ 7) := by
  apply Nat.eq_of_testBit_eq
  intro i
  rw [Nat.testBit_and, Nat.testBit_two_pow_mul, Nat.testBit_two_pow_mul,
    Nat.testBit_two_pow_sub_one, Nat.testBit_div_two_pow]
  by_cases hi : 7 ≤ i
  · simp only [hi, decide_true, Bool.true_and, Nat.sub_add_cancel]
    by_cases h32 : i - 7 < 25
    · simp [h32]
    · have hpow : 2 ^ 32 ≤ 2 ^ i := Nat.pow_le_pow_right (by decide) (by omega)
      rw [Nat.testBit_lt_two_pow (hn.trans_le hpow), Bool.false_and]
  · simp [hi]

lemma and_high_eq_zero (v : UInt32) : v &&& ~~~0x7F = 0 ↔ v.toNat < 128 := by
  rw [← UInt32.toNat_inj, UInt32.toNat_and]
  change v.toNat &&& (2 ^ 7 * (2 ^ 25 - 1)) = 0 ↔ _
  rw [and_high _ v.toNat_lt]
  omega

lemma toNat_continued (v : UInt32) :
    ((v &&& 0x7F).toUInt8 ||| 0x80).toNat = v.toNat % 128 + 128 := by
  rw [UInt8.toNat_or, UInt32.toNat_toUInt8, toNat_low]
  change (v.toNat % 128 % 2 ^ 8) ||| 2 ^ 7 * 1 = _
  rw [Nat.or_comm, ← Nat.two_pow_add_eq_or_of_lt (by omega)]
  omega

lemma toUInt32_inj {m n : Int32} : m.toUInt32 = n.toUInt32 ↔ m = n := by
  cases m
  cases n
  simp

/-- Bits put above lower ones, in a word of 32 bits. -/
lemma or_mul_mod {k r : ℕ} (hk : k < 32) (hr : r < 2 ^ k) (x : ℕ) :
    r ||| (2 ^ k * x) % 2 ^ 32 = (r + 2 ^ k * x) % 2 ^ 32 := by
  have hsplit : 2 ^ 32 = 2 ^ k * 2 ^ (32 - k) := by
    rw [← Nat.pow_add, Nat.add_sub_cancel' hk.le]
  have hpos : 0 < 2 ^ k := Nat.two_pow_pos k
  rw [hsplit, Nat.mul_mod_mul_left, Nat.or_comm, ← Nat.two_pow_add_eq_or_of_lt hr, Nat.mod_mul,
    Nat.add_mul_mod_self_left, Nat.add_mul_div_left _ _ hpos, Nat.mod_eq_of_lt hr,
    Nat.div_eq_of_lt hr, Nat.zero_add, Nat.add_comm]

/-- The shift of a group is less than the width. -/
lemma orGroup_eq_ok {index : ℕ} (hindex : index < MAX_VARINT_BYTES) (result : UInt32)
    (byte : UInt8) :
    orGroup result byte index =
      .ok (result ||| (byte &&& 0x7F).toUInt32 <<< (index * 7).toUInt32) := by
  have hshift : index * 7 < 32 := by
    change index < 5 at hindex
    omega
  rw [orGroup, shiftLeft, if_pos hshift]
  rfl

/-- `orGroup` adds a group above the bits that are there; what does not fit in 32 bits is lost. -/
lemma orGroup_spec {result : UInt32} {index : ℕ} (byte : UInt8) (hindex : index < MAX_VARINT_BYTES)
    (hresult : result.toNat < 2 ^ (7 * index)) :
    ∃ result', orGroup result byte index = .ok result' ∧
      result'.toNat = (result.toNat + 2 ^ (7 * index) * (byte.toNat % 128)) % 2 ^ 32 ∧
      result'.toNat < 2 ^ (7 * (index + 1)) := by
  have hindex' : index < 5 := hindex
  have hcount : (index * 7).toUInt32.toNat % 32 = 7 * index := by
    simp
    omega
  have hvalue : (result ||| (byte &&& 0x7F).toUInt32 <<< (index * 7).toUInt32).toNat =
      (result.toNat + 2 ^ (7 * index) * (byte.toNat % 128)) % 2 ^ 32 := by
    rw [UInt32.toNat_or, UInt32.toNat_shiftLeft, UInt8.toNat_toUInt32, toNat_and_0x7F, hcount,
      Nat.shiftLeft_eq, Nat.mul_comm (byte.toNat % 128), or_mul_mod (by omega) hresult]
  refine ⟨_, orGroup_eq_ok hindex result byte, hvalue, ?_⟩
  have hgroup : byte.toNat % 128 ≤ 127 := by omega
  calc _ ≤ result.toNat + 2 ^ (7 * index) * (byte.toNat % 128) := hvalue ▸ Nat.mod_le _ _
    _ < 2 ^ (7 * index) + 2 ^ (7 * index) * 127 :=
      Nat.add_lt_add_of_lt_of_le hresult (Nat.mul_le_mul_left _ hgroup)
    _ = 2 ^ (7 * (index + 1)) := by rw [Nat.mul_add, Nat.pow_add]; omega

/-! ### Words -/

/-- A VarInt of at most five bytes. Of the bits in its groups the lowest 32 count. -/
structure IsVarint (value : Int32) (w : List UInt8) : Prop where
  terminated : Base128.Terminated w
  length_le : w.length ≤ MAX_VARINT_BYTES
  value_eq : value.toUInt32.toNat = Base128.value w % 2 ^ 32

/-- A VarInt that gives the number of bytes of a text, and these bytes. -/
structure IsString (maxBytes : ℕ) (text : String) (length : Int32) (header w : List UInt8) :
    Prop where
  isVarint : IsVarint length header
  length_eq : length.toInt = byteLen text
  length_le : byteLen text ≤ maxBytes
  eq : w = header ++ asBytes text

/-! ### Reading -/

instance : Input PacketReader UInt8 where
  rest r := r.bytes.drop r.position
  skip r n := { r with position := r.position + n }
  Valid r := r.position ≤ r.bytes.length
  rest_skip r n := List.drop_drop.symm
  skip_zero r := rfl
  skip_skip r m n := by rw [Nat.add_assoc]
  valid_skip {r n} h hn := by
    rw [List.length_drop] at hn
    exact Nat.add_le_of_le_sub' h hn

/-- Not a panic. -/
def NoPanic (e : ProtocolError) : Prop := ∀ panic, e ≠ .panic panic

lemma valid_new (bytes : List UInt8) : Input.Valid (PacketReader.new bytes) :=
  Nat.zero_le _

@[simp] lemma rest_new (bytes : List UInt8) : Input.rest (PacketReader.new bytes) = bytes := rfl

lemma recognizes_readU8 : Recognizes readU8 fun byte w => w = [byte] := by
  rintro ⟨bytes, position⟩ hvalid byte r'
  simp only [readU8, Input.rest, Input.skip, exists_eq_left, List.length_singleton]
  cases hbyte : bytes[position]? with
  | none =>
    have hdrop : bytes.drop position = [] := by
      rw [List.drop_eq_nil_iff]
      exact List.getElem?_eq_none_iff.mp hbyte
    simp [hdrop]
  | some byte' =>
    obtain ⟨hposition, rfl⟩ := List.getElem?_eq_some_iff.mp hbyte
    rw [List.drop_eq_getElem_cons hposition, List.cons_prefix_cons]
    simp only [Except.ok.injEq, Prod.mk.injEq, List.nil_prefix, and_true, eq_comm]

lemma recognizes_readBytes (length : ℕ) :
    Recognizes (readBytes length) fun bytes w => w = bytes ∧ bytes.length = length := by
  rintro ⟨bytes, position⟩ hvalid taken r'
  simp only [Input.Valid] at hvalid
  simp only [readBytes, Input.rest, Input.skip]
  constructor
  · intro h
    split at h
    next hle =>
      cases h
      have hlength : ((bytes.drop position).take length).length = length := by
        rw [List.length_take, List.length_drop]
        omega
      exact ⟨_, ⟨rfl, hlength⟩, List.take_prefix _ _, by rw [hlength]⟩
    next => cases h
  · rintro ⟨w, ⟨rfl, rfl⟩, hpre, rfl⟩
    have hle := hpre.length_le
    rw [List.length_drop] at hle
    rw [if_pos (by omega), ← List.prefix_iff_eq_take.mp hpre]

lemma recognizes_readVarintGroups {n index : ℕ} {result : UInt32}
    (hindex : index + n ≤ MAX_VARINT_BYTES) (hresult : result.toNat < 2 ^ (7 * index)) :
    Recognizes (readVarintGroups n index result) fun value w => Base128.Terminated w ∧
      w.length ≤ n ∧
      value.toUInt32.toNat = (result.toNat + 2 ^ (7 * index) * Base128.value w) % 2 ^ 32 := by
  induction n generalizing index result with
  | zero =>
    refine (Recognizes.throw _).congr fun value w => ?_
    simp only [false_iff, not_and]
    intro hw hlength
    exact absurd hw.length_pos (by omega)
  | succ n ih =>
    rw [readVarintGroups]
    -- the words behind a byte: none, or those of the rest of the loop
    let H (byte : UInt8) (value : Int32) (w : List UInt8) : Prop :=
      if byte.toNat < 128 then w = [] ∧
        value.toUInt32.toNat = (result.toNat + 2 ^ (7 * index) * (byte.toNat % 128)) % 2 ^ 32
      else Base128.Terminated w ∧ w.length ≤ n ∧ value.toUInt32.toNat =
        (result.toNat + 2 ^ (7 * index) * (byte.toNat % 128 + 128 * Base128.value w)) % 2 ^ 32
    refine (recognizes_readU8.bind (H := H) fun byte => ?_).congr fun value w => ?_
    · obtain ⟨result', hgroup, hvalue, hlt⟩ := orGroup_spec byte (by omega) hresult
      rw [hgroup]
      change Recognizes (liftM (Except.ok result') >>= _) _
      rw [liftM_ok_bind]
      by_cases hlast : byte.toNat < 128
      · rw [if_pos ((and_0x80_eq_zero byte).mpr hlast)]
        refine (Recognizes.pure _).congr fun value w => ?_
        simp only [H, if_pos hlast, empty, ← hvalue]
        rw [and_comm, UInt32.toNat_inj, ← toUInt32_inj]
        rfl
      · rw [if_neg (mt (and_0x80_eq_zero byte).mp hlast)]
        refine (ih (by omega) hlt).congr fun value w => ?_
        have hsum : (result'.toNat + 2 ^ (7 * (index + 1)) * Base128.value w) % 2 ^ 32 =
            (result.toNat + 2 ^ (7 * index) * (byte.toNat % 128 + 128 * Base128.value w)) % 2 ^ 32 := by
          have hpow : 2 ^ (7 * (index + 1)) = 2 ^ (7 * index) * 128 := by
            rw [Nat.mul_succ, Nat.pow_add]
          rw [hvalue, Nat.mod_add_mod, hpow, Nat.mul_add, Nat.add_assoc, Nat.mul_assoc]
        simp only [H, if_neg hlast, hsum]
    · constructor
      · rintro ⟨byte, _, v, rfl, hv, rfl⟩
        simp only [H] at hv
        split_ifs at hv with hlast
        · obtain ⟨rfl, hvalue⟩ := hv
          exact ⟨.last hlast, by simp, by simpa using hvalue⟩
        · obtain ⟨hterminated, hlength, hvalue⟩ := hv
          exact ⟨.cons (by omega) hterminated, by simpa using hlength, hvalue⟩
      · rintro ⟨hterminated, hlength, hvalue⟩
        cases hterminated with
        | @last byte hlast =>
          refine ⟨byte, _, [], rfl, ?_, rfl⟩
          simp only [H, if_pos hlast]
          exact ⟨trivial, by simpa using hvalue⟩
        | @cons byte w hmore hw =>
          refine ⟨byte, _, w, rfl, ?_, rfl⟩
          simp only [H, if_neg (Nat.not_lt.mpr hmore)]
          exact ⟨hw, by simpa using hlength, hvalue⟩

theorem recognizes_readVarint : Recognizes readVarint IsVarint := by
  have hloop := @recognizes_readVarintGroups MAX_VARINT_BYTES 0 0 (by decide) (by decide)
  apply hloop.congr
  intro value w
  simp only [UInt32.toNat_zero, Nat.mul_zero, Nat.pow_zero, Nat.one_mul, Nat.zero_add]
  exact ⟨fun ⟨h₁, h₂, h₃⟩ => ⟨h₁, h₂, h₃⟩, fun h => ⟨h.terminated, h.length_le, h.value_eq⟩⟩

/-- `read_string`, without its early returns. -/
lemma readString_eq (maxBytes : ℕ) : readString maxBytes = readVarint >>= fun length =>
    if length < 0 then throw (.invalidValue "negative string length")
    else if length.toInt.toNat > maxBytes then
      throw (.stringTooLong length.toInt.toNat maxBytes)
    else readBytes length.toInt.toNat >>= fun bytes => match fromUtf8 bytes with
      | some text => pure text
      | none => throw .invalidUtf8 := by
  rw [readString]
  congr

theorem recognizes_readString (maxBytes : ℕ) :
    Recognizes (readString maxBytes) fun text w => ∃ length header,
      IsString maxBytes text length header w := by
  rw [readString_eq]
  have htext : ∀ bytes, Recognizes (match fromUtf8 bytes with
      | some text => pure text
      | none => throw .invalidUtf8 : Reader String) fun text w => bytes = asBytes text ∧ w = [] := by
    intro bytes
    cases hbytes : fromUtf8 bytes with
    | none =>
      refine (Recognizes.throw _).congr fun text w => ?_
      rw [← fromUtf8_eq_some, hbytes]
      simp
    | some text =>
      refine (Recognizes.pure text).congr fun text' w => ?_
      rw [← fromUtf8_eq_some, hbytes, Option.some.injEq, empty, eq_comm]
  refine (recognizes_readVarint.bind fun length => Recognizes.guard <| Recognizes.guard <|
    (recognizes_readBytes _).bind htext).congr fun text w => ?_
  constructor
  · rintro ⟨length, header, _, hheader, ⟨hnonneg, hmax, _, _, _, ⟨rfl, hlength⟩, ⟨rfl, rfl⟩, rfl⟩, rfl⟩
    rw [Int32.not_lt, Int32.le_iff_toInt_le] at hnonneg
    rw [length_asBytes] at hlength
    have : (0 : Int32).toInt = 0 := rfl
    exact ⟨length, header, hheader, by omega, by omega, by simp⟩
  · rintro ⟨length, header, hheader, hlength, hmax, rfl⟩
    refine ⟨length, header, _, hheader, ⟨?_, ?_, asBytes text, _, [], ⟨rfl, ?_⟩, ⟨rfl, rfl⟩, rfl⟩, ?_⟩
    · rw [Int32.not_lt, Int32.le_iff_toInt_le, hlength]
      exact Int.natCast_nonneg _
    · omega
    · rw [length_asBytes]
      omega
    · simp

theorem recognizes_readUuid : Recognizes readUuid fun uuid w => w = uuid.toList := by
  refine ((recognizes_readBytes 16).bind fun bytes => Recognizes.ofExcept _).congr fun uuid w => ?_
  constructor
  · rintro ⟨bytes, _, _, ⟨rfl, hlength⟩, ⟨huuid, rfl⟩, rfl⟩
    rw [Uuid.ofSlice, dif_pos hlength] at huuid
    cases huuid
    simp
  · rintro rfl
    refine ⟨uuid.toList, _, [], ⟨rfl, by simp⟩, ⟨?_, rfl⟩, by simp⟩
    rw [Uuid.ofSlice, dif_pos (by simp)]
    rfl

lemma toNat_fromBeBytes (high low : UInt8) :
    (fromBeBytes high low).toNat = 2 ^ 8 * high.toNat + low.toNat := by
  have hhigh := high.toNat_lt
  have hlow := low.toNat_lt
  rw [fromBeBytes, UInt16.toNat_or, UInt16.toNat_shiftLeft, UInt8.toNat_toUInt16,
    UInt8.toNat_toUInt16, Nat.two_pow_add_eq_or_of_lt hlow]
  change high.toNat <<< 8 % 2 ^ 16 ||| low.toNat = _
  rw [Nat.shiftLeft_eq, Nat.mul_comm, Nat.mod_eq_of_lt (by omega)]

lemma toNat_high (n : UInt16) : (n >>> 8).toUInt8.toNat = n.toNat / 2 ^ 8 := by
  have := n.toNat_lt
  rw [UInt16.toNat_toUInt8, UInt16.toNat_shiftRight]
  change n.toNat >>> 8 % 2 ^ 8 = _
  rw [Nat.shiftRight_eq_div_pow]
  omega

lemma fromBeBytes_toBeBytes (n : UInt16) : fromBeBytes (n >>> 8).toUInt8 n.toUInt8 = n := by
  rw [← UInt16.toNat_inj, toNat_fromBeBytes, toNat_high, UInt16.toNat_toUInt8]
  omega

lemma toBeBytes_fromBeBytes (high low : UInt8) :
    toBeBytes (fromBeBytes high low) = [high, low] := by
  have hhigh := high.toNat_lt
  have hlow := low.toNat_lt
  have h₁ : (fromBeBytes high low >>> 8).toUInt8 = high := by
    rw [← UInt8.toNat_inj, toNat_high, toNat_fromBeBytes]
    omega
  have h₂ : (fromBeBytes high low).toUInt8 = low := by
    rw [← UInt8.toNat_inj, UInt16.toNat_toUInt8, toNat_fromBeBytes]
    omega
  rw [toBeBytes, h₁, h₂]

theorem recognizes_readU16 : Recognizes readU16 fun n w => w = toBeBytes n := by
  have hport : ∀ bytes : List UInt8, bytes.length = 2 →
      ∃ high low, bytes = [high, low] := by
    intro bytes h
    obtain ⟨high, low, h⟩ := List.length_eq_two.mp h
    exact ⟨high, low, h⟩
  refine ((recognizes_readBytes 2).bind fun bytes => (Recognizes.ofExcept _).bind fun high =>
    (Recognizes.ofExcept _).bind fun low => Recognizes.pure _).congr fun n w => ?_
  constructor
  · rintro ⟨bytes, _, _, ⟨rfl, hlength⟩, ⟨high, _, _, ⟨hhigh, rfl⟩, ⟨low, _, _, ⟨hlow, rfl⟩, ⟨rfl, rfl⟩, rfl⟩, rfl⟩, rfl⟩
    obtain ⟨high', low', rfl⟩ := hport _ hlength
    cases hhigh
    cases hlow
    simp [toBeBytes_fromBeBytes]
  · rintro rfl
    exact ⟨toBeBytes n, _, [], ⟨rfl, rfl⟩, ⟨_, [], [], ⟨rfl, rfl⟩, ⟨_, [], [], ⟨rfl, rfl⟩,
      ⟨(fromBeBytes_toBeBytes n).symm, rfl⟩, rfl⟩, rfl⟩, by simp⟩

/-! ### Panics -/

lemma noPanic_readBytes (length : ℕ) : Fails (readBytes length) NoPanic := by
  rintro r - e h panic rfl
  rw [readBytes] at h
  split at h <;> cases h

/-- A reader of a VarInt fails in two ways. -/
def TooLongOrShort (e : ProtocolError) : Prop :=
  e = .varIntTooLong ∨ e = .unexpectedEof

lemma tooLongOrShort_readU8 : Fails readU8 TooLongOrShort := by
  rintro r - e h
  rw [readU8] at h
  split at h
  · cases h
  · cases h
    exact Or.inr rfl

lemma tooLongOrShort_readVarintGroups {n index : ℕ} (result : UInt32)
    (hindex : index + n ≤ MAX_VARINT_BYTES) :
    Fails (readVarintGroups n index result) TooLongOrShort := by
  induction n generalizing index result with
  | zero => exact Fails.throw (Or.inl rfl)
  | succ n ih =>
    apply tooLongOrShort_readU8.bind recognizes_readU8
    intro byte w _
    rw [orGroup_eq_ok (by omega)]
    change Fails (if byte &&& 0x80 = 0 then pure _ else readVarintGroups n (index + 1) _) _
    split
    · exact Fails.pure _
    · exact ih _ (by omega)

lemma tooLongOrShort_readVarint : Fails readVarint TooLongOrShort :=
  tooLongOrShort_readVarintGroups 0 (by decide)

lemma noPanic_readVarint : Fails readVarint NoPanic := by
  refine tooLongOrShort_readVarint.mono fun e he panic hpanic => ?_
  subst hpanic
  obtain h | h := he <;> cases h

lemma noPanic_readString (maxBytes : ℕ) : Fails (readString maxBytes) NoPanic := by
  rw [readString_eq]
  apply noPanic_readVarint.bind recognizes_readVarint
  intro length header _
  split
  · exact Fails.throw nofun
  split
  · exact Fails.throw nofun
  refine (noPanic_readBytes _).bind (recognizes_readBytes _) fun bytes w _ => ?_
  split
  · exact Fails.pure _
  · exact Fails.throw nofun

/-- The slice has the length that `copy_from_slice` asks for. -/
lemma noPanic_readUuid : Fails readUuid NoPanic := by
  refine (noPanic_readBytes 16).bind (recognizes_readBytes 16) fun bytes w h => ?_
  rw [Uuid.ofSlice, dif_pos h.2]
  exact Fails.pure _

/-- The slice has the bytes that are taken from it. -/
lemma noPanic_readU16 : Fails readU16 NoPanic := by
  refine (noPanic_readBytes 2).bind (recognizes_readBytes 2) fun bytes w h => ?_
  obtain ⟨high, low, rfl⟩ := List.length_eq_two.mp h.2
  exact Fails.pure _

/-! ### Writing -/

/-- The loop writes the shortest word of a value that fits in its groups. -/
lemma writeVarintGroups_spec (n : ℕ) {value : UInt32} (h : value.toNat < 128 ^ (n + 1)) :
    Base128.Minimal (writeVarintGroups n value) ∧
      Base128.value (writeVarintGroups n value) = value.toNat ∧
      (writeVarintGroups n value).length ≤ n + 1 := by
  have hlast : ∀ {value : UInt32}, value.toNat < 128 → Base128.Minimal [value.toUInt8] ∧
      Base128.value [value.toUInt8] = value.toNat := by
    intro value hvalue
    have hbyte : value.toUInt8.toNat = value.toNat := by
      rw [UInt32.toNat_toUInt8]
      omega
    refine ⟨.last (by omega), ?_⟩
    rw [Base128.value_cons, Base128.value_nil, hbyte]
    omega
  induction n generalizing value with
  | zero =>
    rw [writeVarintGroups]
    exact ⟨(hlast h).1, (hlast h).2, le_rfl⟩
  | succ n ih =>
    rw [writeVarintGroups]
    simp only [and_high_eq_zero]
    split
    next hlt => exact ⟨(hlast hlt).1, (hlast hlt).2, by simp⟩
    next hge =>
      have hshift : (value >>> 7).toNat = value.toNat / 128 := by
        rw [UInt32.toNat_shiftRight]
        exact Nat.shiftRight_eq_div_pow value.toNat 7
      have hrest : (value >>> 7).toNat < 128 ^ (n + 1) := by
        rw [hshift]
        exact Nat.div_lt_of_lt_mul (by rwa [Nat.pow_succ, Nat.mul_comm] at h)
      obtain ⟨hminimal, hvalue, hlength⟩ := ih hrest
      refine ⟨.cons ?_ hminimal ?_, ?_, ?_⟩
      · rw [toNat_continued]
        omega
      · intro hzero
        rw [hzero, hshift] at hvalue
        have : Base128.value [0] = 0 := rfl
        omega
      · rw [Base128.value_cons, hvalue, hshift, toNat_continued]
        omega
      · simpa using hlength

theorem minimal_writeVarint (value : Int32) : Base128.Minimal (writeVarint value) :=
  (writeVarintGroups_spec 4 (value.toUInt32.toNat_lt.trans (by decide))).1

theorem value_writeVarint (value : Int32) :
    Base128.value (writeVarint value) = value.toUInt32.toNat :=
  (writeVarintGroups_spec 4 (value.toUInt32.toNat_lt.trans (by decide))).2.1

lemma length_writeVarint_le (value : Int32) : (writeVarint value).length ≤ MAX_VARINT_BYTES :=
  (writeVarintGroups_spec 4 (value.toUInt32.toNat_lt.trans (by decide))).2.2

theorem isVarint_writeVarint (value : Int32) : IsVarint value (writeVarint value) where
  terminated := (minimal_writeVarint value).terminated
  length_le := length_writeVarint_le value
  value_eq := by rw [value_writeVarint, Nat.mod_eq_of_lt value.toUInt32.toNat_lt]

lemma toInt_ofNat_of_lt {n : ℕ} (h : n < 2 ^ 31) : (Int32.ofNat n).toInt = n :=
  Int32.toInt_ofNat_of_lt h

/-- The length of a text is an `i32` below 2^31 bytes. -/
theorem isString_writeString {maxBytes : ℕ} {text : String} (hlt : byteLen text < 2 ^ 31)
    (hle : byteLen text ≤ maxBytes) :
    IsString maxBytes text (Int32.ofNat (byteLen text)) (lengthVarint (byteLen text))
      (writeString text) where
  isVarint := isVarint_writeVarint _
  length_eq := toInt_ofNat_of_lt hlt
  length_le := hle
  eq := rfl

/-! ### Frames -/

/-- The id is a front part of the frame, so the rest of the frame can be taken. -/
lemma parseFrame_eq (bytes : List UInt8) : parseFrame bytes =
    match readVarint (.new bytes) with
    | .ok (id, r) => .ok ⟨id, bytes.drop r.position⟩
    | .error e => .error e := by
  rw [parseFrame]
  cases h : readVarint (.new bytes) with
  | error e => rfl
  | ok a =>
    obtain ⟨id, r⟩ := a
    obtain ⟨w, -, hpre, rfl⟩ := (recognizes_readVarint _ (valid_new bytes) id r).mp h
    have hslice : sliceFrom bytes (0 + w.length) = .ok (bytes.drop (0 + w.length)) := by
      have hle : w.length ≤ bytes.length := hpre.length_le
      rw [sliceFrom, if_pos (by omega)]
    change (orPanic (sliceFrom bytes (0 + w.length)) >>= fun payload => _) = _
    rw [hslice]
    rfl

lemma noPanic_parseFrame {bytes : List UInt8} {e : ProtocolError} (h : parseFrame bytes = .error e) :
    NoPanic e := by
  rw [parseFrame_eq] at h
  cases hread : readVarint (.new bytes) with
  | ok a =>
    rw [hread] at h
    cases h
  | error e' =>
    rw [hread] at h
    cases h
    exact noPanic_readVarint _ (valid_new bytes) _ hread

theorem parseFrame_append {id : Int32} {w : List UInt8} (hw : IsVarint id w)
    (payload : List UInt8) : parseFrame (w ++ payload) = .ok ⟨id, payload⟩ := by
  have h := recognizes_readVarint.eq_ok (valid_new (w ++ payload)) hw (List.prefix_append w payload)
  rw [parseFrame_eq, h]
  simp [Input.skip, PacketReader.new]

end Protocol

end TransferGateway
