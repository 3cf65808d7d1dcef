import TransferGateway.Std

/-!
# Packets

The VarInt and packet formats of the protocol, the versions the gateway knows, and the packets it
parses and writes.
-/

namespace TransferGateway

namespace Protocol

def HANDSHAKE_PACKET_ID : Int32 := 0x00
def LOGIN_START_PACKET_ID : Int32 := 0x00
def LOGIN_SUCCESS_PACKET_ID : Int32 := 0x02
def LOGIN_ACKNOWLEDGED_PACKET_ID : Int32 := 0x03
def LOGIN_DISCONNECT_PACKET_ID : Int32 := 0x00
def CONFIG_TRANSFER_PACKET_ID : Int32 := 0x0B
def CONFIG_TRANSFER_PACKET_ID_26_3 : Int32 := 0x0C

def FIRST_TRANSFER_SNAPSHOT_PROTOCOL : Int32 := 1073741995
def LATEST_SNAPSHOT_PROTOCOL : Int32 := 1073742156
def LAST_STRICT_ERROR_HANDLING_SNAPSHOT_PROTOCOL : Int32 := 1073742033
def FIRST_SESSION_ID_RELEASE_PROTOCOL : Int32 := 776
def FIRST_SESSION_ID_SNAPSHOT_PROTOCOL : Int32 := 1073742149
def FIRST_TRANSFER_PACKET_ID_26_3_SNAPSHOT_PROTOCOL : Int32 := 1073742149
def RELEASE_26_3_PROTOCOL : Int32 := 777

def SUPPORTED_VERSION_RANGE : String := "1.20.5 - 26.3"

def MAX_VARINT_BYTES : ℕ := 5

inductive ProtocolError where
  | io (error : IoError)
  | unexpectedEof
  | varIntTooLong
  | negativePacketLength
  | packetTooLarge (length limit : ℕ)
  | invalidUtf8
  | stringTooLong (length limit : ℕ)
  | unexpectedPacketId (actual expected : Int32)
  | invalidValue (what : String)
  /-- The call panics; the source has no such error. -/
  | panic (panic : Panic)
  deriving DecidableEq

structure Packet where
  id : Int32
  payload : List UInt8
  deriving DecidableEq

/-! ### Versions -/

structure ProtocolSpec where
  version : Int32
  loginSuccessHasStrictErrorHandling : Bool
  loginSuccessHasSessionId : Bool
  configTransferPacketId : Int32
  deriving DecidableEq

def protocolSpec (version : Int32) : Option ProtocolSpec :=
  let isRelease := decide (766 ≤ version ∧ version ≤ RELEASE_26_3_PROTOCOL)
  let isSnapshot :=
    decide (FIRST_TRANSFER_SNAPSHOT_PROTOCOL ≤ version ∧ version ≤ LATEST_SNAPSHOT_PROTOCOL)
  if !isRelease && !isSnapshot then none
  else some
    { version
      loginSuccessHasStrictErrorHandling :=
        if 766 ≤ version ∧ version ≤ 767 then true
        else if 768 ≤ version ∧ version ≤ RELEASE_26_3_PROTOCOL then false
        else decide (version ≤ LAST_STRICT_ERROR_HANDLING_SNAPSHOT_PROTOCOL)
      loginSuccessHasSessionId :=
        (isRelease && decide (FIRST_SESSION_ID_RELEASE_PROTOCOL ≤ version)) ||
          (isSnapshot && decide (FIRST_SESSION_ID_SNAPSHOT_PROTOCOL ≤ version))
      configTransferPacketId :=
        if (isRelease && decide (RELEASE_26_3_PROTOCOL ≤ version)) ||
            (isSnapshot && decide (FIRST_TRANSFER_PACKET_ID_26_3_SNAPSHOT_PROTOCOL ≤ version))
        then CONFIG_TRANSFER_PACKET_ID_26_3 else CONFIG_TRANSFER_PACKET_ID }

def isSupportedProtocol (version : Int32) : Bool :=
  (protocolSpec version).isSome

/-! ### Writing -/

/-- The loop of `write_varint`: at most `n` more groups of seven bits follow a byte, and a
value of 32 bits leaves none after the fifth. -/
def writeVarintGroups : ℕ → UInt32 → List UInt8
  | 0, value => [value.toUInt8]
  | n + 1, value =>
    if value &&& ~~~0x7F = 0 then [value.toUInt8]
    else ((value &&& 0x7F).toUInt8 ||| 0x80) :: writeVarintGroups n (value >>> 7)

def writeVarint (value : Int32) : List UInt8 :=
  writeVarintGroups 4 value.toUInt32

/-- `usize as i32`. -/
def lengthVarint (length : ℕ) : List UInt8 :=
  writeVarint (Int32.ofNat length)

def writeString (value : String) : List UInt8 :=
  lengthVarint (byteLen value) ++ asBytes value

def toBeBytes (value : UInt16) : List UInt8 :=
  [(value >>> 8).toUInt8, value.toUInt8]

/-- What `write_packet` writes. -/
def frame (id : Int32) (payload : List UInt8) : List UInt8 :=
  let body := writeVarint id ++ payload
  lengthVarint body.length ++ body

/-! ### Reading -/

structure PacketReader where
  bytes : List UInt8
  position : ℕ

abbrev Reader (α : Type) := StateT PacketReader (Except ProtocolError) α

namespace PacketReader

def new (bytes : List UInt8) : PacketReader := ⟨bytes, 0⟩

def remaining (r : PacketReader) : ℕ := r.bytes.length - r.position

end PacketReader

def readU8 : Reader UInt8 := fun r =>
  match r.bytes[r.position]? with
  | some byte => .ok (byte, { r with position := r.position + 1 })
  | none => .error .unexpectedEof

def readBytes (length : ℕ) : Reader (List UInt8) := fun r =>
  if r.position + length ≤ r.bytes.length then
    .ok ((r.bytes.drop r.position).take length, { r with position := r.position + length })
  else .error .unexpectedEof

/-- An expression that may panic. -/
def orPanic {α : Type} (x : Except Panic α) : Except ProtocolError α :=
  x.mapError .panic

/-- `result |= u32::from(byte & 0x7F) << (index * 7)`. -/
def orGroup (result : UInt32) (byte : UInt8) (index : ℕ) : Except Panic UInt32 := do
  return result ||| (← shiftLeft (byte &&& 0x7F).toUInt32 (index * 7))

/-- The loop of `read_varint` from `index` on, with `n` turns left. -/
def readVarintGroups : (n index : ℕ) → UInt32 → Reader Int32
  | 0, _, _ => throw .varIntTooLong
  | n + 1, index, result => do
    let byte ← readU8
    let result ← orPanic (orGroup result byte index)
    if byte &&& 0x80 = 0 then return result.toInt32
    readVarintGroups n (index + 1) result

def readVarint : Reader Int32 := readVarintGroups MAX_VARINT_BYTES 0 0

def readString (maxBytes : ℕ) : Reader String := do
  let length ← readVarint
  if length < 0 then throw (.invalidValue "negative string length")
  let length := length.toInt.toNat
  if length > maxBytes then throw (.stringTooLong length maxBytes)
  match fromUtf8 (← readBytes length) with
  | some text => return text
  | none => throw .invalidUtf8

/-- `uuid.copy_from_slice(bytes)`, and `Uuid::from_bytes(uuid)`. -/
def Uuid.ofSlice (bytes : List UInt8) : Except Panic Uuid :=
  if h : bytes.length = 16 then .ok ⟨bytes.toArray, by simpa using h⟩ else .error .lengthMismatch

def readUuid : Reader Uuid := do
  orPanic (Uuid.ofSlice (← readBytes 16))

/-- `u16::from_be_bytes`. -/
def fromBeBytes (high low : UInt8) : UInt16 :=
  high.toUInt16 <<< 8 ||| low.toUInt16

def readU16 : Reader UInt16 := do
  let bytes ← readBytes 2
  return fromBeBytes (← orPanic (indexInto bytes 0)) (← orPanic (indexInto bytes 1))

/-- The eight bytes of `read_i64`, most significant first. -/
def readI64 : Reader Int64 := do
  let bytes ← readBytes 8
  return (bytes.foldl (fun (n : UInt64) byte => n <<< 8 ||| byte.toUInt64) 0).toInt64

def expectEnd : Reader Unit := fun r =>
  if r.remaining = 0 then .ok ((), r) else .error (.invalidValue "trailing packet data")

/-- Run a reader on a whole payload. -/
def parse {α : Type} (reader : Reader α) (payload : List UInt8) : Except ProtocolError α :=
  Prod.fst <$> reader (.new payload)

/-- The end of `read_packet`: the id and the payload of a frame. -/
def parseFrame (bytes : List UInt8) : Except ProtocolError Packet := do
  let (id, r) ← readVarint (.new bytes)
  return ⟨id, ← orPanic (sliceFrom bytes r.position)⟩

/-! ### The packets of a login -/

inductive NextState where
  | status
  | login
  | transfer
  deriving DecidableEq

structure Handshake where
  protocolVersion : Int32
  host : String
  port : UInt16
  nextState : NextState
  deriving DecidableEq

structure LoginStart where
  username : String
  uuid : Uuid
  deriving DecidableEq

def encodeHandshake (protocolVersion : Int32) (host : String) (port : UInt16)
    (nextState : Int32) : List UInt8 :=
  writeVarint protocolVersion ++ writeString host ++ toBeBytes port ++ writeVarint nextState

/-- The fields of a handshake, in order, and nothing after them. -/
def readHandshake : Reader Handshake := do
  let protocolVersion ← readVarint
  let host ← readString 255
  let port ← readU16
  let nextState ← match ← readVarint with
    | 1 => pure NextState.status
    | 2 => pure NextState.login
    | 3 => pure NextState.transfer
    | _ => throw (.invalidValue "unsupported handshake next state")
  expectEnd
  return { protocolVersion, host, port, nextState }

def parseHandshake (packet : Packet) : Except ProtocolError Handshake := do
  if packet.id ≠ HANDSHAKE_PACKET_ID then
    throw (.unexpectedPacketId packet.id HANDSHAKE_PACKET_ID)
  parse readHandshake packet.payload

def readLoginStart : Reader LoginStart := do
  let username ← readString 64
  let uuid ← readUuid
  expectEnd
  return { username, uuid }

def parseLoginStart (packet : Packet) : Except ProtocolError LoginStart := do
  if packet.id ≠ LOGIN_START_PACKET_ID then
    throw (.unexpectedPacketId packet.id LOGIN_START_PACKET_ID)
  parse readLoginStart packet.payload

def encodeLoginSuccess (spec : ProtocolSpec) (uuid : Uuid) (username : String)
    (strictErrorHandling : Bool) (sessionId : Uuid) : List UInt8 :=
  uuid.toList ++ writeString username
    ++ writeVarint 0 -- profile properties length
    ++ (if spec.loginSuccessHasStrictErrorHandling then [if strictErrorHandling then 1 else 0]
        else [])
    ++ (if spec.loginSuccessHasSessionId then sessionId.toList else [])

def encodeTransfer (host : String) (port : UInt16) : List UInt8 :=
  writeString host ++ writeVarint (Int32.ofNat port.toNat)

def encodeLoginDisconnect (reason : String) : List UInt8 :=
  writeString reason

end Protocol

end TransferGateway
