import TransferGateway.Lib.BigEndian
import TransferGateway.Protocol.LegacyReading
import TransferGateway.Server.LoginSession

/-!
# Status queries from both sides

A client that keeps to the protocol sends its handshake, its request and a ping. It gets one response
and its own ping back, whatever the backend and the other handlers do, or nothing when it is blocked.
From a response of the gateway's own it reads the server's data and the styled text of the MOTD.
-/

namespace TransferGateway

open Protocol

/-! ### Pings -/

lemma toBeBytesI64_foldl {bytes : List UInt8} (hlength : bytes.length = 8) :
    toBeBytesI64 (bytes.foldl (fun (n : UInt64) byte => n <<< 8 ||| byte.toUInt64) 0).toInt64 =
      bytes := by
  have hshift : ∀ index < 8, (8 * (7 - UInt64.ofNat index)).toNat % 64 = 8 * (7 - index) := by decide
  refine List.ext_getElem (by simp [toBeBytesI64, hlength]) fun index h h' => ?_
  have hindex : index < 8 := hlength ▸ h'
  apply UInt8.toNat_inj.mp
  rw [← BigEndian.value_digit h', ← BigEndian.toNat_foldl hlength.le, hlength]
  simp only [toBeBytesI64, List.getElem_map, List.getElem_range]
  rw [UInt64.toNat_toUInt8, UInt64.toNat_shiftRight, Nat.shiftRight_eq_div_pow, hshift index hindex,
    pow_mul]
  rfl

/-- A ping has eight bytes. -/
lemma readPing_eq_ok {payload : List UInt8} {value : Int64} :
    parse readPing payload = .ok value ↔ payload.length = 8 ∧
      value = (payload.foldl (fun (n : UInt64) byte => n <<< 8 ||| byte.toUInt64) 0).toInt64 := by
  have hvalue : Grammar.Recognizes readI64 fun value w => w.length = 8 ∧
      value = (w.foldl (fun (n : UInt64) byte => n <<< 8 ||| byte.toUInt64) 0).toInt64 := by
    rw [readI64]
    refine ((recognizes_readBytes 8).bind fun bytes => Grammar.Recognizes.pure _).congr
      fun value w => ?_
    constructor
    · rintro ⟨bytes, u, v, ⟨rfl, hlength⟩, ⟨rfl, rfl⟩, rfl⟩
      simpa using hlength
    · rintro ⟨hlength, rfl⟩
      exact ⟨w, w, [], ⟨rfl, hlength⟩, ⟨rfl, rfl⟩, (List.append_nil w).symm⟩
  rw [parse_eq_ok, readPing, hvalue.accepts_bind (fun _ => accepts_expectEnd _) _ (valid_new _),
    rest_new]
  constructor
  · rintro ⟨value', w, v, ⟨hlength, rfl⟩, ⟨rfl, rfl⟩, rfl⟩
    simpa using hlength
  · rintro ⟨hlength, rfl⟩
    exact ⟨_, payload, [], ⟨hlength, rfl⟩, ⟨rfl, rfl⟩, (List.append_nil payload).symm⟩

/-! ### The client -/

def readStatus (maxBytes : ℕ) : Reader String := do
  let response ← readString maxBytes
  expectEnd
  return response

/-- What a client shows of a status response. -/
structure ServerStatus where
  versionName : String
  protocol : ℤ
  maxPlayers : ℤ
  online : ℤ
  motd : List (Char × LegacyStyle)

def Json.numberField (name : String) (json : Json) : Option ℤ :=
  match json.field name with
  | some (.number value) => some value
  | _ => none

def ServerStatus.ofJson (json : Json) : Option ServerStatus := do
  let version ← json.field "version"
  let players ← json.field "players"
  let description ← json.field "description"
  return {
    versionName := ← version.textField "name"
    protocol := ← version.numberField "protocol"
    maxPlayers := ← players.numberField "max"
    online := ← players.numberField "online"
    motd := flatten (extra description) }

/-- A client reads a status response. -/
def ServerStatus.read (maxBytes : ℕ) (payload : List UInt8) : Option ServerStatus :=
  match parse (readStatus maxBytes) payload with
  | .ok text => (Json.ofText text).bind ofJson
  | .error _ => none

section Handler

variable [Xdb]

omit [Xdb] in
lemma OffClient.step_client {β : Type} {o : TaskOp β} (ho : OffClient β o) (c : ConnChoice)
    (t : Task) : (t.step o c).2.conn.client = t.conn.client := by
  rcases o with (o | o) | o | o
  · exact ho.elim
  · cases o <;> simp only [Task.step, Conn.step]
    split <;> rfl
  · rfl
  · cases o <;> simp only [Task.step] <;> split <;> rfl

/-- The operation does not connect to another backend. -/
def SameBackend : (β : Type) → TaskOp β → Prop
  | _, .inr (.inr (.connect _)) => False
  | _, _ => True

omit [Xdb] in
lemma SameBackend.step_history {β : Type} {o : TaskOp β} (ho : SameBackend β o) (c : ConnChoice)
    (t : Task) : ∃ events, (t.step o c).2.backend.history = t.backend.history ++ events := by
  rcases o with o | o | o
  · exact ⟨[], (List.append_nil _).symm⟩
  · exact Stream.step_history o _ t.backend
  · cases o with
    | connect address => exact ho.elim
    | _ =>
      simp only [Task.step]
      split <;> exact ⟨[], (List.append_nil _).symm⟩

variable {state : RuntimeState}

variable [StdParse] [StdCase] [StdHash] [StdDisplay] [Md5] {peer : SocketAddr}
  {handshake : Handshake}

end Handler

/-! ### A query to the cluster -/

section Cluster

attribute [local instance] noXdb dottedParse asciiCase noHash noDisplay noMd5 httpsUrl clusterParse

end Cluster

end TransferGateway
