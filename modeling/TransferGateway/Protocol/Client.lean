import TransferGateway.Protocol.Packets

/-!
# What a client reads

A client reads the packets of a login in the layout of its version. It gets the fields that were
written, and different fields are written differently.
-/

namespace TransferGateway

namespace Protocol

open Grammar

/-! ### Layouts -/

/-- A field that only some versions have. -/
def readIf {α : Type} (present : Bool) (reader : Reader α) : Reader (Option α) :=
  if present then some <$> reader else pure none

/-- The fields of Login Success. -/
structure LoginSuccess where
  uuid : Uuid
  username : String
  properties : Int32
  strictErrorHandling : Option UInt8
  sessionId : Option Uuid
  deriving DecidableEq

/-- Login Success in the layout of a version, and nothing after it. -/
def readLoginSuccess (spec : ProtocolSpec) (maxBytes : ℕ) : Reader LoginSuccess := do
  let uuid ← readUuid
  let username ← readString maxBytes
  let properties ← readVarint
  let strictErrorHandling ← readIf spec.loginSuccessHasStrictErrorHandling readU8
  let sessionId ← readIf spec.loginSuccessHasSessionId readUuid
  expectEnd
  return { uuid, username, properties, strictErrorHandling, sessionId }

/-- The fields that a version has of those that are given. -/
def LoginSuccess.of (spec : ProtocolSpec) (uuid : Uuid) (username : String)
    (strictErrorHandling : Bool) (sessionId : Uuid) : LoginSuccess where
  uuid := uuid
  username := username
  properties := 0
  strictErrorHandling :=
    if spec.loginSuccessHasStrictErrorHandling then some (if strictErrorHandling then 1 else 0)
    else none
  sessionId := if spec.loginSuccessHasSessionId then some sessionId else none

/-- The fields of a Transfer. -/
structure Transfer where
  host : String
  port : Int32
  deriving DecidableEq

def readTransfer (maxBytes : ℕ) : Reader Transfer := do
  let host ← readString maxBytes
  let port ← readVarint
  expectEnd
  return { host, port }

/-! ### Reading back -/

lemma recognizes_readIf {α : Type} {reader : Reader α} {G : α → List UInt8 → Prop}
    (h : Recognizes reader G) (present : Bool) :
    Recognizes (readIf present reader) fun o w =>
      if present then ∃ a, o = some a ∧ G a w else o = none ∧ w = [] := by
  cases present with
  | false => exact Recognizes.pure none
  | true =>
    have hmap : readIf true reader = reader >>= fun a => pure (some a) := map_eq_pure_bind _ _
    rw [hmap]
    refine (h.bind fun a => Recognizes.pure (some a)).congr fun o w => ?_
    constructor
    · rintro ⟨a, u, _, hu, ⟨rfl, rfl⟩, rfl⟩
      exact ⟨a, rfl, by simpa using hu⟩
    · rintro ⟨a, rfl, hw⟩
      exact ⟨a, w, [], hw, ⟨rfl, rfl⟩, (List.append_nil w).symm⟩

/-- The word of a field that only some versions have. -/
lemma field_readIf {α : Type} {G : α → List UInt8 → Prop} {a : α} {u : List UInt8} (h : G a u)
    (present : Bool) :
    if present then ∃ b, (if present then some a else none) = some b ∧ G b (if present then u else [])
    else (if present then some a else none) = none ∧ (if present then u else []) = [] := by
  cases present with
  | false => exact ⟨rfl, rfl⟩
  | true => exact ⟨a, rfl, h⟩

/-- A client reads the fields that were written exactly when their username has a length that a
VarInt can give, and is not too long for the client. -/
theorem readLoginSuccess_encode (spec : ProtocolSpec) (uuid : Uuid) (username : String)
    (strictErrorHandling : Bool) (sessionId : Uuid) (maxBytes : ℕ) :
    parse (readLoginSuccess spec maxBytes)
        (encodeLoginSuccess spec uuid username strictErrorHandling sessionId) =
      .ok (.of spec uuid username strictErrorHandling sessionId) ↔
    byteLen username < 2 ^ 31 ∧ byteLen username ≤ maxBytes := by
  rw [parse_eq_ok, readLoginSuccess, recognizes_readUuid.accepts_bind (fun _ =>
    (recognizes_readString maxBytes).accepts_bind fun _ => recognizes_readVarint.accepts_bind
      fun _ => (recognizes_readIf recognizes_readU8 _).accepts_bind fun _ =>
        (recognizes_readIf recognizes_readUuid _).accepts_bind fun _ => accepts_expectEnd _)
    _ (valid_new _), rest_new]
  constructor
  · rintro ⟨_, _, _, -, ⟨username', _, _, ⟨length, header, husername⟩, ⟨_, _, _, -,
      ⟨_, _, _, -, ⟨_, _, _, -, ⟨hfields, -⟩, -⟩, -⟩, -⟩, -⟩, -⟩
    obtain rfl : username = username' := congrArg LoginSuccess.username hfields
    have hlt := length.toInt_lt
    exact ⟨by have := husername.length_eq; omega, husername.length_le⟩
  · rintro ⟨hlt, hle⟩
    refine ⟨uuid, uuid.toList, _, rfl, ⟨username, writeString username, _,
      ⟨_, _, isString_writeString hlt hle⟩, ⟨0, writeVarint 0, _, isVarint_writeVarint 0,
      ⟨_, _, _, field_readIf (G := fun byte w => w = [byte]) rfl _,
      ⟨_, _, [], field_readIf (G := fun uuid w => w = Vector.toList uuid) rfl _,
      ⟨rfl, rfl⟩, rfl⟩, rfl⟩, rfl⟩, rfl⟩, ?_⟩
    simp [encodeLoginSuccess]

/-- The port of a Transfer is read as the number it was. -/
lemma toInt_port (port : UInt16) : (Int32.ofNat port.toNat).toInt = port.toNat :=
  toInt_ofNat_of_lt (port.toNat_lt.trans (by decide))

theorem readTransfer_encode (host : String) (port : UInt16) (maxBytes : ℕ) :
    parse (readTransfer maxBytes) (encodeTransfer host port) =
      .ok ⟨host, Int32.ofNat port.toNat⟩ ↔ byteLen host < 2 ^ 31 ∧ byteLen host ≤ maxBytes := by
  rw [parse_eq_ok, readTransfer, (recognizes_readString maxBytes).accepts_bind (fun _ =>
    recognizes_readVarint.accepts_bind fun _ => accepts_expectEnd _) _ (valid_new _), rest_new]
  constructor
  · rintro ⟨host', _, _, ⟨length, header, hhost⟩, ⟨_, _, _, -, ⟨hfields, -⟩, -⟩, -⟩
    obtain rfl : host = host' := congrArg Transfer.host hfields
    have hlt := length.toInt_lt
    exact ⟨by have := hhost.length_eq; omega, hhost.length_le⟩
  · rintro ⟨hlt, hle⟩
    exact ⟨host, writeString host, _, ⟨_, _, isString_writeString hlt hle⟩,
      ⟨_, writeVarint _, [], isVarint_writeVarint _, ⟨rfl, rfl⟩, (List.append_nil _).symm⟩, rfl⟩

/-! ### Different fields -/

/-- The words of VarInts are prefix-free. -/
lemma IsVarint.append_inj {m n : Int32} {u v x y : List UInt8} (hu : IsVarint m u)
    (hv : IsVarint n v) (h : u ++ x = v ++ y) : m = n ∧ u = v ∧ x = y := by
  obtain ⟨rfl, rfl⟩ := recognizes_readVarint.unique (valid_new (u ++ x)) hu hv
    (List.prefix_append u x) (h ▸ List.prefix_append v y)
  exact ⟨rfl, rfl, List.append_cancel_left h⟩

/-- The header of a string gives its length up to a multiple of 2^32. -/
lemma lengthVarint_append_inj {m n : ℕ} {x y : List UInt8}
    (h : lengthVarint m ++ x = lengthVarint n ++ y) : m % 2 ^ 32 = n % 2 ^ 32 ∧ x = y := by
  obtain ⟨heq, -, hrest⟩ := (isVarint_writeVarint _).append_inj (isVarint_writeVarint _) h
  exact ⟨congrArg (fun value : Int32 => value.toUInt32.toNat) heq, hrest⟩

/-- A text and what follows it are told apart where the rests are about as long as each other. -/
lemma writeString_append_inj {s t : String} {x y : List UInt8}
    (hx : x.length ≤ y.length + MAX_VARINT_BYTES) (hy : y.length ≤ x.length + MAX_VARINT_BYTES)
    (h : writeString s ++ x = writeString t ++ y) : s = t ∧ x = y := by
  rw [writeString, writeString, List.append_assoc, List.append_assoc] at h
  obtain ⟨hmod, hrest⟩ := lengthVarint_append_inj h
  have hlength := congrArg List.length hrest
  simp only [List.length_append, length_asBytes] at hlength
  have : MAX_VARINT_BYTES = 5 := rfl
  have heq : (asBytes s).length = (asBytes t).length := by
    rw [length_asBytes, length_asBytes]
    omega
  obtain ⟨hbytes, hrest⟩ := List.append_inj hrest heq
  exact ⟨asBytes_injective hbytes, hrest⟩

/-- Login Success packets of one version that differ in a field that the version has are written
differently, whatever the length of their usernames. -/
theorem encodeLoginSuccess_injective {spec : ProtocolSpec} {uuid uuid' : Uuid}
    {username username' : String} {strict strict' : Bool} {sessionId sessionId' : Uuid}
    (h : encodeLoginSuccess spec uuid username strict sessionId =
      encodeLoginSuccess spec uuid' username' strict' sessionId') :
    LoginSuccess.of spec uuid username strict sessionId =
      .of spec uuid' username' strict' sessionId' := by
  simp only [encodeLoginSuccess, List.append_assoc] at h
  obtain ⟨huuid, hstring⟩ := List.append_inj h (by simp)
  obtain ⟨husername, htail⟩ := writeString_append_inj (by split_ifs <;> simp)
    (by split_ifs <;> simp) hstring
  obtain ⟨hstrict, hsession⟩ := List.append_inj (List.append_cancel_left htail)
    (by split_ifs <;> rfl)
  simp only [LoginSuccess.of, LoginSuccess.mk.injEq, Vector.toList_inj.mp huuid, husername, true_and]
  constructor
  · cases hpresent : spec.loginSuccessHasStrictErrorHandling with
    | false => rfl
    | true =>
      rw [hpresent] at hstrict
      exact congrArg some (List.singleton_inj.mp hstrict)
  · cases hpresent : spec.loginSuccessHasSessionId with
    | false => rfl
    | true =>
      rw [hpresent] at hsession
      exact congrArg some (Vector.toList_inj.mp hsession)

theorem encodeTransfer_injective {host host' : String} {port port' : UInt16}
    (h : encodeTransfer host port = encodeTransfer host' port') : host = host' ∧ port = port' := by
  have hle := length_writeVarint_le (Int32.ofNat port.toNat)
  have hle' := length_writeVarint_le (Int32.ofNat port'.toNat)
  obtain ⟨rfl, hport⟩ := writeString_append_inj (by omega) (by omega) h
  have hvalue := congrArg Base128.value hport
  rw [value_writeVarint, value_writeVarint] at hvalue
  refine ⟨rfl, UInt16.toNat_inj.mp ?_⟩
  have hlt := port.toNat_lt
  have hlt' := port'.toNat_lt
  change port.toNat % 2 ^ 32 = port'.toNat % 2 ^ 32 at hvalue
  omega

/-! ### Main results -/

/-- A client of each version reads the fields of Login Success and of Transfer that were written,
if a VarInt can give the length of the text, and no others are written in the same way. -/
theorem login_packets_read_back :
    (∀ version spec, protocolSpec version = some spec → ∀ uuid username strict sessionId maxBytes,
      byteLen username < 2 ^ 31 → byteLen username ≤ maxBytes →
      parse (readLoginSuccess spec maxBytes)
          (encodeLoginSuccess spec uuid username strict sessionId) =
        .ok (.of spec uuid username strict sessionId)) ∧
    (∀ (host : String) (port : UInt16) maxBytes, byteLen host < 2 ^ 31 → byteLen host ≤ maxBytes →
      ∃ port' : Int32, port'.toInt = port.toNat ∧
        parse (readTransfer maxBytes) (encodeTransfer host port) = .ok ⟨host, port'⟩) ∧
    (∀ version spec, protocolSpec version = some spec →
      ∀ uuid username strict sessionId uuid' username' strict' sessionId',
      encodeLoginSuccess spec uuid username strict sessionId =
          encodeLoginSuccess spec uuid' username' strict' sessionId' →
        LoginSuccess.of spec uuid username strict sessionId =
          .of spec uuid' username' strict' sessionId') ∧
    ∀ (host host' : String) (port port' : UInt16),
      encodeTransfer host port = encodeTransfer host' port' → host = host' ∧ port = port' := by
  refine ⟨?_, ?_, ?_, ?_⟩
  · intro version spec _ uuid username strict sessionId maxBytes hlt hle
    exact (readLoginSuccess_encode ..).mpr ⟨hlt, hle⟩
  · intro host port maxBytes hlt hle
    exact ⟨_, toInt_port port, (readTransfer_encode ..).mpr ⟨hlt, hle⟩⟩
  · intro version spec _ uuid username strict sessionId uuid' username' strict' sessionId' h
    exact encodeLoginSuccess_injective h
  · intro host host' port port' h
    exact encodeTransfer_injective h

/-- A text of `n` letters. -/
def letters (n : ℕ) : String := String.ofList (List.replicate n 'a')

lemma byteLen_letters (n : ℕ) : byteLen (letters n) = n := by
  induction n with
  | zero => rfl
  | succ n ih =>
    have hsplit : letters (n + 1) = String.ofList ['a'] ++ letters n := by
      rw [letters, letters, List.replicate_succ, ← String.ofList_append, List.singleton_append]
    have hone : (String.ofList ['a']).utf8ByteSize = 1 := rfl
    rw [byteLen] at ih
    rw [hsplit, byteLen, String.utf8ByteSize_append, ih, hone, Nat.add_comm]

/-- The length of a text of 2^31 bytes is written as a negative number. -/
theorem long_username_not_read_back : ∃ spec, protocolSpec 776 = some spec ∧
    ∀ uuid strict sessionId maxBytes, parse (readLoginSuccess spec maxBytes)
        (encodeLoginSuccess spec uuid (letters (2 ^ 31)) strict sessionId) ≠
      .ok (.of spec uuid (letters (2 ^ 31)) strict sessionId) := by
  refine ⟨_, rfl, fun uuid strict sessionId maxBytes h => ?_⟩
  have hlt := ((readLoginSuccess_encode ..).mp h).1
  rw [byteLen_letters] at hlt
  exact lt_irrefl _ hlt

end Protocol

end TransferGateway
