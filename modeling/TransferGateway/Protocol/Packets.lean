import TransferGateway.Protocol.Words

/-!
# The packets of a login, byte for byte

The parsers accept the words of their formats and no others, and a client reads what the gateway
writes.
-/

namespace TransferGateway

namespace Protocol

open Grammar

/-! ### Whole payloads -/

lemma parse_eq_ok {α : Type} {reader : Reader α} {payload : List UInt8} {a : α} :
    parse reader payload = .ok a ↔ ∃ r', reader (.new payload) = .ok (a, r') := by
  rw [parse]
  rcases reader (.new payload) with e | ⟨b, r'⟩
  · simp [Functor.map, Except.map]
  · simp [Functor.map, Except.map]

lemma parse_ne_panic {α : Type} {reader : Reader α} (h : Fails reader NoPanic)
    (payload : List UInt8) (panic : Panic) : parse reader payload ≠ .error (.panic panic) := by
  intro hparse
  rw [parse] at hparse
  cases hreader : reader (.new payload) with
  | ok a =>
    rw [hreader] at hparse
    cases hparse
  | error e =>
    rw [hreader] at hparse
    cases hparse
    exact h _ (valid_new payload) _ hreader panic rfl

lemma expectEnd_eq_ok {r r' : PacketReader} {u : Unit} :
    expectEnd r = .ok (u, r') ↔ r.bytes.length ≤ r.position ∧ r' = r := by
  rw [expectEnd]
  split
  next h =>
    have hle : r.bytes.length ≤ r.position := Nat.le_of_sub_eq_zero h
    simp [hle, eq_comm]
  next h =>
    have hlt : ¬r.bytes.length ≤ r.position := mt Nat.sub_eq_zero_of_le h
    simp [hlt]

/-- At the end of a payload. -/
lemma accepts_expectEnd {α : Type} (a : α) :
    Accepts (expectEnd >>= fun _ => pure a) (empty (τ := UInt8) a) := by
  intro r _ b
  simp only [Grammar.bind_eq_ok, expectEnd_eq_ok, empty, Input.rest, List.drop_eq_nil_iff]
  constructor
  · rintro ⟨_, _, _, ⟨hle, rfl⟩, hpure⟩
    cases hpure
    exact ⟨rfl, hle⟩
  · rintro ⟨rfl, hle⟩
    exact ⟨r, (), r, ⟨hle, rfl⟩, rfl⟩

lemma noPanic_expectEnd {α : Type} (a : α) :
    Fails (expectEnd >>= fun _ => pure a) NoPanic := by
  rintro r - e h panic rfl
  obtain h | ⟨_, _, -, h⟩ := Grammar.bind_eq_error.mp h
  · rw [expectEnd] at h
    split at h <;> cases h
  · cases h

/-! ### Handshakes -/

/-- The number of a next state. -/
def NextState.code : NextState → Int32
  | .status => 1
  | .login => 2
  | .transfer => 3

/-- The words of the fields of a handshake, and nothing else. -/
structure IsHandshake (h : Handshake) (version : List UInt8) (length : Int32)
    (header next payload : List UInt8) : Prop where
  isVersion : IsVarint h.protocolVersion version
  isHost : IsString 255 h.host length header (header ++ asBytes h.host)
  isNext : IsVarint h.nextState.code next
  eq : payload = version ++ (header ++ asBytes h.host ++ (toBeBytes h.port ++ next))

/-- The number of a next state is known. -/
def nextStateOf (n : Int32) : Reader NextState :=
  if n = 1 then pure .status else if n = 2 then pure .login else if n = 3 then pure .transfer
  else throw (.invalidValue "unsupported handshake next state")

lemma recognizes_nextStateOf (n : Int32) :
    Recognizes (nextStateOf n) fun state w => n = state.code ∧ w = [] := by
  have hpure : ∀ state : NextState, n = state.code → Recognizes
      (pure state : Reader NextState) fun state' w => n = state'.code ∧ w = [] := by
    rintro state rfl
    refine (Recognizes.pure state).congr fun state' w => ?_
    cases state <;> cases state' <;> simp [empty, NextState.code]
  rw [nextStateOf]
  split_ifs with h₁ h₂ h₃
  · exact hpure _ h₁
  · exact hpure _ h₂
  · exact hpure _ h₃
  · refine (Recognizes.throw _).congr fun state w => ?_
    cases state <;> simp [NextState.code, h₁, h₂, h₃]

/-- `parse_handshake` on the payload, one read after the other. -/
lemma readHandshake_eq : readHandshake = readVarint >>= fun protocolVersion =>
    readString 255 >>= fun host => readU16 >>= fun port => readVarint >>= fun n =>
      nextStateOf n >>= fun nextState =>
        expectEnd >>= fun _ => pure { protocolVersion, host, port, nextState } := by
  rw [readHandshake]
  refine congrArg _ (funext fun protocolVersion => congrArg _ (funext fun host =>
    congrArg _ (funext fun port => congrArg _ (funext fun n => ?_))))
  rw [nextStateOf]
  split
  next => rfl
  next => rfl
  next => rfl
  next h₁ h₂ h₃ =>
    rw [if_neg (show ¬n = 1 from h₁), if_neg (show ¬n = 2 from h₂), if_neg (show ¬n = 3 from h₃)]

theorem accepts_readHandshake : Accepts readHandshake fun h payload =>
    ∃ version length header next, IsHandshake h version length header next payload := by
  rw [readHandshake_eq]
  intro r hr h
  rw [recognizes_readVarint.accepts_bind (fun _ => (recognizes_readString 255).accepts_bind fun _ =>
    recognizes_readU16.accepts_bind fun _ => recognizes_readVarint.accepts_bind fun n =>
      (recognizes_nextStateOf n).accepts_bind fun _ => accepts_expectEnd _) r hr h]
  constructor
  · rintro ⟨protocolVersion, version, _, hversion, ⟨host, hostWord, _, ⟨length, header, hhost⟩,
      ⟨port, _, _, rfl, ⟨_, next, _, hnext, ⟨state, _, _, ⟨rfl, rfl⟩, ⟨rfl, rfl⟩, rfl⟩, rfl⟩, rfl⟩, rfl⟩, hrest⟩
    obtain rfl := hhost.eq
    exact ⟨version, length, header, next, hversion, hhost, hnext, by simpa using hrest⟩
  · rintro ⟨version, length, header, next, hversion, hhost, hnext, hpayload⟩
    exact ⟨h.protocolVersion, version, _, hversion, ⟨h.host, _, _, ⟨length, header, hhost⟩,
      ⟨h.port, _, _, rfl, ⟨_, next, [], hnext, ⟨h.nextState, [], [], ⟨rfl, rfl⟩, ⟨rfl, rfl⟩, rfl⟩,
        by simp⟩, rfl⟩, rfl⟩, hpayload⟩

lemma noPanic_readHandshake : Fails readHandshake NoPanic := by
  rw [readHandshake_eq]
  apply noPanic_readVarint.bind recognizes_readVarint
  intro _ _ _
  refine (noPanic_readString 255).bind (recognizes_readString 255) fun _ _ _ => ?_
  apply noPanic_readU16.bind recognizes_readU16
  intro _ _ _
  apply noPanic_readVarint.bind recognizes_readVarint
  intro n _ _
  refine Fails.bind ?_ (recognizes_nextStateOf n) fun _ _ _ => ?_
  · rw [nextStateOf]
    split_ifs
    · exact Fails.pure _
    · exact Fails.pure _
    · exact Fails.pure _
    · exact Fails.throw nofun
  · exact noPanic_expectEnd _

/-! ### Login Start -/

/-- The words of the fields of a Login Start, and nothing else. -/
structure IsLoginStart (l : LoginStart) (length : Int32) (header payload : List UInt8) : Prop where
  isUsername : IsString 64 l.username length header (header ++ asBytes l.username)
  eq : payload = header ++ asBytes l.username ++ l.uuid.toList

theorem accepts_readLoginStart : Accepts readLoginStart fun l payload =>
    ∃ length header, IsLoginStart l length header payload := by
  rw [readLoginStart]
  intro r hr l
  rw [(recognizes_readString 64).accepts_bind (fun _ => recognizes_readUuid.accepts_bind fun _ =>
    accepts_expectEnd _) r hr l]
  constructor
  · rintro ⟨username, _, _, ⟨length, header, husername⟩, ⟨uuid, _, _, rfl, ⟨rfl, rfl⟩, rfl⟩, hrest⟩
    obtain rfl := husername.eq
    exact ⟨length, header, husername, by simpa using hrest⟩
  · rintro ⟨length, header, husername, hpayload⟩
    exact ⟨l.username, _, _, ⟨length, header, husername⟩, ⟨l.uuid, _, [], rfl, ⟨rfl, rfl⟩,
      (List.append_nil _).symm⟩, hpayload⟩

lemma noPanic_readLoginStart : Fails readLoginStart NoPanic := by
  rw [readLoginStart]
  refine (noPanic_readString 64).bind (recognizes_readString 64) fun _ _ _ => ?_
  exact noPanic_readUuid.bind recognizes_readUuid fun _ _ _ => noPanic_expectEnd _

/-! ### Parsing a packet -/

/-- No shorter VarInt reads as the same value. -/
structure IsShortest (value : Int32) (w : List UInt8) : Prop where
  isVarint : IsVarint value w
  length_le {w' : List UInt8} (h : IsVarint value w') : w.length ≤ w'.length

/-- A shortest VarInt whose groups fit in 32 bits is the one that is written. -/
lemma IsShortest.eq_writeVarint {value : Int32} {w : List UInt8} (h : IsShortest value w)
    (hfits : Base128.value w < 2 ^ 32) : w = writeVarint value := by
  have hvalue : Base128.value w = Base128.value (writeVarint value) := by
    rw [value_writeVarint, h.isVarint.value_eq, Nat.mod_eq_of_lt hfits]
  obtain rfl | hlt := (minimal_writeVarint value).eq_or_length_lt h.isVarint.terminated hvalue
  · rfl
  · exact absurd (h.length_le (isVarint_writeVarint value)) (by omega)

/-- A shortest VarInt of a number below 2^28 has at most four bytes, so it fits. -/
lemma IsShortest.fits {value : Int32} {w : List UInt8} (h : IsShortest value w)
    (hvalue : value.toUInt32.toNat < 2 ^ 28) : Base128.value w < 2 ^ 32 := by
  obtain ⟨hminimal, heq, hlength⟩ := writeVarintGroups_spec 3 (show _ < 128 ^ (3 + 1) from hvalue)
  have hword : IsVarint value (writeVarintGroups 3 value.toUInt32) :=
    ⟨hminimal.terminated, hlength.trans (by decide),
      by rw [heq, Nat.mod_eq_of_lt value.toUInt32.toNat_lt]⟩
  calc Base128.value w < 128 ^ w.length := Base128.value_lt w
    _ ≤ 128 ^ 4 := Nat.pow_le_pow_right (by decide) ((h.length_le hword).trans hlength)
    _ < 2 ^ 32 := by decide

/-- The length of a string, where it is the shortest VarInt. -/
lemma IsString.eq_writeString {maxBytes : ℕ} {text : String} {length : Int32}
    {header w : List UInt8} (h : IsString maxBytes text length header w) (hmax : maxBytes < 2 ^ 28)
    (hshortest : IsShortest length header) : w = writeString text := by
  have hle := h.length_le
  have hlength : length = Int32.ofNat (byteLen text) := by
    apply Int32.toInt_inj.mp
    rw [h.length_eq, toInt_ofNat_of_lt (by omega)]
  have hsmall : length.toUInt32.toNat < 2 ^ 28 := by
    rw [hlength]
    change (byteLen text) % 2 ^ 32 < 2 ^ 28
    omega
  rw [h.eq, hshortest.eq_writeVarint (hshortest.fits hsmall), hlength]
  rfl

lemma parseHandshake_eq (packet : Packet) : parseHandshake packet =
    if packet.id = HANDSHAKE_PACKET_ID then parse readHandshake packet.payload
    else .error (.unexpectedPacketId packet.id HANDSHAKE_PACKET_ID) := by
  rw [parseHandshake]
  split_ifs <;> first | rfl | contradiction

lemma parseLoginStart_eq (packet : Packet) : parseLoginStart packet =
    if packet.id = LOGIN_START_PACKET_ID then parse readLoginStart packet.payload
    else .error (.unexpectedPacketId packet.id LOGIN_START_PACKET_ID) := by
  rw [parseLoginStart]
  split_ifs <;> first | rfl | contradiction

/-- `parse_handshake` accepts the words of a handshake. -/
lemma parseHandshake_eq_ok {packet : Packet} {h : Handshake} :
    parseHandshake packet = .ok h ↔ packet.id = HANDSHAKE_PACKET_ID ∧
      ∃ version length header next, IsHandshake h version length header next packet.payload := by
  rw [parseHandshake_eq]
  split_ifs with hid
  · rw [parse_eq_ok, accepts_readHandshake _ (valid_new _), rest_new, and_iff_right hid]
  · simp [hid]

/-- `parse_login_start` accepts the words of a Login Start. -/
lemma parseLoginStart_eq_ok {packet : Packet} {l : LoginStart} :
    parseLoginStart packet = .ok l ↔ packet.id = LOGIN_START_PACKET_ID ∧
      ∃ length header, IsLoginStart l length header packet.payload := by
  rw [parseLoginStart_eq]
  split_ifs with hid
  · rw [parse_eq_ok, accepts_readLoginStart _ (valid_new _), rest_new, and_iff_right hid]
  · simp [hid]

/-- What the gateway writes as a handshake is one. -/
lemma isHandshake_encodeHandshake (h : Handshake) (hhost : byteLen h.host ≤ 255) :
    IsHandshake h (writeVarint h.protocolVersion) (Int32.ofNat (byteLen h.host))
      (lengthVarint (byteLen h.host)) (writeVarint h.nextState.code)
      (encodeHandshake h.protocolVersion h.host h.port h.nextState.code) where
  isVersion := isVarint_writeVarint _
  isHost := isString_writeString (by omega) hhost
  isNext := isVarint_writeVarint _
  eq := by simp [encodeHandshake, writeString]

/-- A handshake of shortest VarInts is written again as it was, where its version loses no bit. -/
lemma IsHandshake.encode_eq {h : Handshake} {length : Int32}
    {version header next payload : List UInt8} (hpayload : IsHandshake h version length header next payload)
    (hversion : IsShortest h.protocolVersion version) (hheader : IsShortest length header)
    (hnext : IsShortest h.nextState.code next) (hfits : Base128.value version < 2 ^ 32) :
    encodeHandshake h.protocolVersion h.host h.port h.nextState.code = payload := by
  have hsmall : h.nextState.code.toUInt32.toNat < 2 ^ 28 := by
    cases h.nextState <;> decide
  rw [hpayload.eq, hversion.eq_writeVarint hfits, hnext.eq_writeVarint (hnext.fits hsmall),
    hpayload.isHost.eq_writeString (by decide) hheader, encodeHandshake]
  simp

/-- The parsers accept the words of their formats and no others, and never panic; a handshake that
was written is read again, and one that was read is written again as it was when its VarInts are
the shortest and its version loses no bit. -/
theorem parsers_exact :
    (∀ packet h, parseHandshake packet = .ok h ↔ packet.id = HANDSHAKE_PACKET_ID ∧
      ∃ version length header next, IsHandshake h version length header next packet.payload) ∧
    (∀ packet l, parseLoginStart packet = .ok l ↔ packet.id = LOGIN_START_PACKET_ID ∧
      ∃ length header, IsLoginStart l length header packet.payload) ∧
    (∀ version host port (state : NextState), byteLen host ≤ 255 →
      parseHandshake ⟨HANDSHAKE_PACKET_ID, encodeHandshake version host port state.code⟩ =
        .ok ⟨version, host, port, state⟩) ∧
    (∀ h version length header next payload, IsHandshake h version length header next payload →
      IsShortest h.protocolVersion version → IsShortest length header →
      IsShortest h.nextState.code next → Base128.value version < 2 ^ 32 →
      encodeHandshake h.protocolVersion h.host h.port h.nextState.code = payload) ∧
    ∀ packet panic, parseHandshake packet ≠ .error (.panic panic) ∧
      parseLoginStart packet ≠ .error (.panic panic) := by
  refine ⟨fun _ _ => parseHandshake_eq_ok, fun _ _ => parseLoginStart_eq_ok, ?_, ?_, ?_⟩
  · intro version host port state hhost
    exact parseHandshake_eq_ok.mpr ⟨rfl, _, _, _, _,
      isHandshake_encodeHandshake ⟨version, host, port, state⟩ hhost⟩
  · intro h version length header next payload hpayload
    exact hpayload.encode_eq
  · intro packet panic
    rw [parseHandshake_eq, parseLoginStart_eq]
    constructor
    · split_ifs
      · exact parse_ne_panic noPanic_readHandshake _ _
      · simp
    · split_ifs
      · exact parse_ne_panic noPanic_readLoginStart _ _
      · simp

/-- No VarInt is shorter than one byte. -/
lemma isShortest_single {value : Int32} {b : UInt8} (h : IsVarint value [b]) :
    IsShortest value [b] :=
  ⟨h, fun h' => h'.terminated.length_pos⟩

/-- The fifth byte of a VarInt may have bits that are lost: the version below is the shortest word
of -1 but not the one that is written. -/
theorem lost_bits_not_written_again :
    parseHandshake ⟨HANDSHAKE_PACKET_ID, [0xFF, 0xFF, 0xFF, 0xFF, 0x1F, 0, 0, 0, 1]⟩ =
        .ok ⟨-1, "", 0, .status⟩ ∧
      IsHandshake ⟨-1, "", 0, .status⟩ [0xFF, 0xFF, 0xFF, 0xFF, 0x1F] 0 [0] [1]
        [0xFF, 0xFF, 0xFF, 0xFF, 0x1F, 0, 0, 0, 1] ∧
      IsShortest (-1) [0xFF, 0xFF, 0xFF, 0xFF, 0x1F] ∧ IsShortest 0 [0] ∧ IsShortest 1 [1] ∧
      encodeHandshake (-1) "" 0 NextState.status.code ≠
        [0xFF, 0xFF, 0xFF, 0xFF, 0x1F, 0, 0, 0, 1] := by
  have hversion : IsVarint (-1) [0xFF, 0xFF, 0xFF, 0xFF, 0x1F] := by
    refine ⟨?_, by decide, by decide⟩
    repeat' first
      | exact .last (by decide)
      | refine .cons (by decide) ?_
  have hzero : IsVarint 0 [0] := ⟨.last (by decide), by decide, by decide⟩
  have hone : IsVarint 1 [1] := ⟨.last (by decide), by decide, by decide⟩
  have hwords : IsHandshake ⟨-1, "", 0, .status⟩ [0xFF, 0xFF, 0xFF, 0xFF, 0x1F] 0 [0] [1]
      [0xFF, 0xFF, 0xFF, 0xFF, 0x1F, 0, 0, 0, 1] :=
    ⟨hversion, ⟨hzero, by decide, by decide, rfl⟩, hone, by decide⟩
  refine ⟨parseHandshake_eq_ok.mpr ⟨rfl, _, _, _, _, hwords⟩, hwords, ⟨hversion, ?_⟩,
    isShortest_single hzero, isShortest_single hone, by decide⟩
  intro w h
  -- four groups stay below the value of -1
  by_contra hlt
  have hlength : w.length ≤ 4 := Nat.lt_succ_iff.mp (Nat.lt_of_not_le hlt)
  have hvalue : Base128.value w < 128 ^ 4 :=
    (Base128.value_lt w).trans_le (Nat.pow_le_pow_right (by decide) hlength)
  have heq : (2 : ℕ) ^ 32 - 1 = Base128.value w % 2 ^ 32 := h.value_eq
  omega

end Protocol

end TransferGateway
