import Mathlib.Algebra.Group.Nat.Defs
import Mathlib.Data.List.DropRight
import Mathlib.Data.List.Infix

/-!
# The standard library, as far as the gateway uses it

Text is `String`, whose characters are Unicode scalar values as in Rust; every function on text
goes through the list of characters. Parsers and case tables the development does not look into
are the fields of `StdParse` and `StdCase`.
-/

namespace TransferGateway

/-! ### Addresses -/

/-- `std::net::IpAddr`; the bits are `u32::from(ip)` and `u128::from_be_bytes(ip.octets())`. -/
inductive IpAddr where
  | v4 (bits : BitVec 32)
  | v6 (bits : BitVec 128)
  deriving DecidableEq

/-- The IPv4-mapped IPv6 address `::ffff:a`. -/
def IpAddr.mapped (a : BitVec 32) : IpAddr :=
  .v6 (0xffff#96 ++ a)

/-- `std::net::SocketAddr`. -/
structure SocketAddr where
  ip : IpAddr
  port : UInt16
  deriving DecidableEq

/-- The text of an address. -/
class StdDisplay where
  ipAddr : IpAddr → String

/-- `str::parse` at the types the gateway parses. -/
class StdParse where
  ipAddr : String → Option IpAddr
  u8 : String → Option UInt8

/-- Unicode lower case, of a text and of one character. -/
class StdCase where
  toLowercase : String → String
  charToLowercase : Char → List Char

/-! ### Text -/

/-- `char::is_whitespace`: the `White_Space` property. -/
def isWhitespace (c : Char) : Bool :=
  (9 ≤ c.toNat && c.toNat ≤ 13) || c.toNat == 0x20 || c.toNat == 0x85 || c.toNat == 0xA0 ||
    c.toNat == 0x1680 || (0x2000 ≤ c.toNat && c.toNat ≤ 0x200A) || c.toNat == 0x2028 ||
    c.toNat == 0x2029 || c.toNat == 0x202F || c.toNat == 0x205F || c.toNat == 0x3000

/-- `text.trim().is_empty()`. -/
def isBlank (text : String) : Bool :=
  text.toList.all isWhitespace

/-- `text.split(c)`. -/
def split (text : String) (c : Char) : List String :=
  (text.toList.splitOn c).map String.ofList

lemma split_of_notMem {text : String} {c : Char} (h : c ∉ text.toList) :
    split text c = [text] := by
  simp [split, List.splitOn_eq_singleton h]

lemma split_append {s t : String} {c : Char} (h : c ∉ s.toList) :
    split (s ++ String.singleton c ++ t) c = s :: split t c := by
  simp [split, List.splitOn_append_cons_self_of_not_mem h]

/-- A text has no separator, or it splits at its first one. -/
lemma split_cases (text : String) (c : Char) :
    c ∉ text.toList ∨ ∃ s t, c ∉ s.toList ∧ text = s ++ String.singleton c ++ t := by
  by_cases h : c ∈ text.toList
  · obtain ⟨u, v, huv, hu⟩ := List.eq_append_cons_of_mem h
    refine Or.inr ⟨String.ofList u, String.ofList v, by simpa using hu, ?_⟩
    apply String.toList_injective
    simp [huv]
  · exact Or.inl h

/-- `text.split_whitespace().next().unwrap_or_default()`. -/
def firstWord (text : String) : String :=
  String.ofList ((text.toList.dropWhile isWhitespace).takeWhile fun c => !isWhitespace c)

/-- `line.strip_suffix('\r')`, for a line that ended with `'\n'`. -/
def stripCarriageReturn (line : List Char) : List Char :=
  if line.getLast? = some '\r' then line.dropLast else line

/-- `text.lines()`: the last line may lack its `'\n'`, and an empty last line is dropped. -/
def lines (text : String) : List String :=
  let segments := text.toList.splitOn '\n'
  let last := segments.getLastD []
  ((segments.dropLast.map stripCarriageReturn) ++ if last.isEmpty then [] else [last]).map
    String.ofList

/-- `a.eq_ignore_ascii_case(b)`; `Char.toLower` changes `A` to `Z` only. -/
def eqIgnoreAsciiCase (a b : String) : Bool :=
  a.toList.map Char.toLower == b.toList.map Char.toLower

/-- `text.strip_prefix(c)`. -/
def stripFirst (text : String) (c : Char) : Option String :=
  match text.toList with
  | [] => none
  | d :: rest => if d = c then some (String.ofList rest) else none

/-- `text.strip_suffix(c)`. -/
def stripLast (text : String) (c : Char) : Option String :=
  if text.toList.getLast? = some c then some (String.ofList text.toList.dropLast) else none

/-- `text.trim_end_matches(c)`. -/
def trimEndMatches (text : String) (c : Char) : String :=
  String.ofList (text.toList.rdropWhile (· = c))

/-- `text.contains(needle)`. -/
def containsText (text needle : String) : Bool :=
  text.toList.tails.any needle.toList.isPrefixOf

/-- `text.len()`, in bytes. -/
def byteLen (text : String) : ℕ :=
  text.utf8ByteSize

/-- Left to right, replace every occurrence of a non-empty pattern that does not overlap the
one before; `fuel` bounds the number of characters looked at. -/
def replaceChars (pattern value : List Char) : ℕ → List Char → List Char
  | 0, text => text
  | _ + 1, [] => []
  | fuel + 1, c :: text =>
    if pattern.isPrefixOf (c :: text) then
      value ++ replaceChars pattern value fuel ((c :: text).drop pattern.length)
    else c :: replaceChars pattern value fuel text

/-- `text.replace(pattern, value)`, for a non-empty pattern. -/
def replaceText (text pattern value : String) : String :=
  String.ofList (replaceChars pattern.toList value.toList text.toList.length text.toList)

/-! ### Parsers for closed runs -/

/-- The value of a non-empty string of decimal digits. -/
def decimal (digits : List Char) : Option ℕ :=
  if digits.isEmpty || !digits.all Char.isDigit then none
  else some (digits.foldl (fun n c => 10 * n + (c.toNat - '0'.toNat)) 0)

/-- One byte of a dotted address: at most three digits, and no leading zero. -/
def dottedByte (text : String) : Option (BitVec 8) := do
  let n ← decimal text.toList
  if text.toList.length > 3 || n > 255 || (text.toList.length > 1 && text.toList.head? = some '0')
  then none else some (BitVec.ofNat 8 n)

/-- The parsers on dotted IPv4 addresses and unsigned decimals; other addresses are refused. -/
@[reducible] def dottedParse : StdParse where
  ipAddr text := do
    match ← (split text '.').mapM dottedByte with
    | [a, b, c, d] => some (.v4 (a ++ b ++ c ++ d))
    | _ => none
  u8 text := do
    let n ← decimal text.toList
    if n < 256 then some n.toUInt8 else none

/-- A case table for texts whose letters are ASCII. -/
@[reducible] def asciiCase : StdCase where
  toLowercase text := String.ofList (text.toList.map Char.toLower)
  charToLowercase c := [c.toLower]

/-! ### Bytes -/

/-- `text.as_bytes()`. -/
def asBytes (text : String) : List UInt8 :=
  text.toUTF8.data.toList

/-- `str::from_utf8`. -/
def fromUtf8 (bytes : List UInt8) : Option String :=
  String.fromUTF8? ⟨bytes.toArray⟩

@[simp] lemma length_asBytes (text : String) : (asBytes text).length = byteLen text := by
  rw [asBytes, Array.length_toList]
  rfl

/-- The bytes of a text are the only ones that are read as it. -/
lemma fromUtf8_eq_some {bytes : List UInt8} {text : String} :
    fromUtf8 bytes = some text ↔ bytes = asBytes text := by
  rw [fromUtf8, asBytes, String.fromUTF8?, String.toUTF8]
  constructor
  · intro h
    split at h
    · cases h
      simp [String.fromUTF8]
    · cases h
  · rintro rfl
    have : (⟨text.toByteArray.data.toList.toArray⟩ : ByteArray) = text.toByteArray := by simp
    rw [this, dif_pos text.isValidUTF8]
    rfl

lemma asBytes_injective : Function.Injective asBytes := by
  intro s t h
  have := fromUtf8_eq_some.mpr h
  rw [fromUtf8_eq_some.mpr rfl] at this
  exact Option.some.inj this

/-- `uuid::Uuid`, as its sixteen bytes. -/
abbrev Uuid := Vector UInt8 16

namespace Uuid

def hexDigits (bytes : List UInt8) : List Char :=
  bytes.flatMap fun b => [Nat.digitChar (b.toNat / 16), Nat.digitChar (b.toNat % 16)]

/-- `uuid.simple()`. -/
def simple (u : Uuid) : String :=
  String.ofList (hexDigits u.toList)

/-- `uuid.to_string()`, hyphenated. -/
def toString (u : Uuid) : String :=
  let b := u.toList
  "-".intercalate ([b.take 4, (b.drop 4).take 2, (b.drop 6).take 2, (b.drop 8).take 2,
    b.drop 10].map fun part => String.ofList (hexDigits part))

end Uuid

/-! ### Results -/

/-- The ways an expression panics. -/
inductive Panic where
  | divisionByZero
  | indexOutOfBounds
  | emptyOption
  | lengthMismatch
  | shiftOverflow
  deriving DecidableEq

/-- `values[index]`. -/
def indexInto {α : Type} (values : List α) (index : ℕ) : Except Panic α :=
  match values[index]? with
  | some value => .ok value
  | none => .error .indexOutOfBounds

/-- `&values[start..]`. -/
def sliceFrom {α : Type} (values : List α) (start : ℕ) : Except Panic (List α) :=
  if start ≤ values.length then .ok (values.drop start) else .error .indexOutOfBounds

/-- `value << shift`. -/
def shiftLeft (value : UInt32) (shift : ℕ) : Except Panic UInt32 :=
  if shift < 32 then .ok (value <<< shift.toUInt32) else .error .shiftOverflow

/-- `io::ErrorKind`, as far as the gateway looks at it. -/
inductive ErrorKind where
  | alreadyExists
  | unexpectedEof
  | other
  deriving DecidableEq

/-- `io::Error`. -/
structure IoError where
  kind : ErrorKind
  message : String
  deriving DecidableEq

/-- `?` goes on exactly when the first computation returned `Ok`. -/
@[simp] lemma except_bind_eq_ok {ε α β : Type} {x : Except ε α} {f : α → Except ε β} {b : β} :
    (x >>= f) = .ok b ↔ ∃ a, x = .ok a ∧ f a = .ok b := by
  cases x <;> simp [bind, Except.bind]

/-- A check, and then the rest. -/
lemma check_bind_eq_ok {ε β : Type} {x : Except ε Unit} {f : Unit → Except ε β} {b : β} :
    (x >>= f) = .ok b ↔ x = .ok () ∧ f () = .ok b := by
  rw [except_bind_eq_ok]
  exact ⟨fun ⟨_, h⟩ => h, fun h => ⟨(), h⟩⟩

@[simp] lemma throw_ne_ok {ε α : Type} {e : ε} {a : α} : (throw e : Except ε α) ≠ .ok a := by
  simp [throw, throwThe, MonadExceptOf.throw]

@[simp] lemma mapError_eq_ok {ε ε' α : Type} {x : Except ε α} {f : ε → ε'} {a : α} :
    x.mapError f = .ok a ↔ x = .ok a := by
  cases x <;> simp [Except.mapError]

/-- A loop over checks succeeds when every check does. -/
@[simp] lemma forM_eq_ok {ε α : Type} {f : α → Except ε Unit} {l : List α} {u : Unit} :
    forM l f = .ok u ↔ ∀ a ∈ l, f a = .ok () := by
  induction l with
  | nil => simp [pure, Except.pure]
  | cons a l ih =>
    simp only [List.forM_cons, check_bind_eq_ok, ih, List.forall_mem_cons]

/-- `if condition { bail!(message) }`. -/
def bailIf (condition : Prop) [Decidable condition] (message : String) : Except String Unit :=
  if condition then .error message else .ok ()

/-- `if condition { check?; }`. -/
def checkIf (condition : Prop) [Decidable condition] (check : Except String Unit) :
    Except String Unit :=
  if condition then check else .ok ()

@[simp] lemma checkIf_eq_ok {condition : Prop} [Decidable condition]
    {check : Except String Unit} {u : Unit} :
    checkIf condition check = .ok u ↔ (condition → check = .ok ()) := by
  rw [checkIf]
  split_ifs with h <;> simp [h]

@[simp] lemma bailIf_eq_ok {condition : Prop} [Decidable condition] {message : String} {u : Unit} :
    bailIf condition message = .ok u ↔ ¬condition := by
  rw [bailIf]
  split_ifs with h <;> simp [h]

/-- A collected iterator of results is `Ok` when every item is. -/
lemma mapM_eq_ok {ε α β : Type} {f : α → Except ε β} {l : List α} {r : List β} :
    l.mapM f = .ok r ↔ List.Forall₂ (fun a b => f a = .ok b) l r := by
  constructor
  · intro h
    induction l generalizing r with
    | nil => simp_all [pure, Except.pure]
    | cons a l ih =>
      simp only [List.mapM_cons, except_bind_eq_ok] at h
      obtain ⟨b, hb, r', hr', h⟩ := h
      cases h
      exact .cons hb (ih hr')
  · intro h
    induction h with
    | nil => rfl
    | cons hb _ ih =>
      rw [List.mapM_cons, hb, ih]
      rfl

/-! ### Paths -/

/-- A Unix path, up to the equality of `std::path::Path`. -/
structure Path where
  absolute : Bool
  components : List String
  deriving DecidableEq

namespace Path

/-- `PathBuf::from(text)`; a `.` counts only at the start of a relative path. -/
def ofString (text : String) : Path :=
  let absolute := text.toList.head? = some '/'
  let names := (split text '/').filter (· != "")
  match names with
  | [] => ⟨absolute, []⟩
  | first :: rest =>
    let rest := rest.filter (· != ".")
    ⟨absolute, if absolute && first = "." then rest else first :: rest⟩

/-- `path.as_os_str().is_empty()`. -/
def isEmpty (p : Path) : Bool :=
  !p.absolute && p.components.isEmpty

def display (p : Path) : String :=
  (if p.absolute then "/" else "") ++ "/".intercalate p.components

def parent (p : Path) : Option Path :=
  if p.components.isEmpty then none else some { p with components := p.components.dropLast }

def fileName (p : Path) : Option String :=
  p.components.getLast?.filter fun name => name != "." && name != ".."

/-- What follows the last dot of the file name, unless that dot is its first character. -/
def extension (p : Path) : Option String := do
  let name ← p.fileName
  let parts := split name '.'
  if parts.length ≤ 1 || parts.dropLast = [""] then none else parts.getLast?

/-- `p.join(q)`; a `.` survives only as the first component. -/
def join (p q : Path) : Path :=
  if q.absolute || p.isEmpty then q
  else { p with components := p.components ++ q.components.filter (· != ".") }

def withFileName (p : Path) (name : String) : Path :=
  if p.fileName.isSome then { p with components := p.components.dropLast ++ [name] }
  else p.join ⟨false, [name]⟩

end Path

/-! ### Maps -/

/-- `BTreeMap<String, α>`, as the list of its entries in the order of iteration. -/
structure BTreeMap (α : Type) where
  entries : List (String × α)
  nodup : (entries.map Prod.fst).Nodup

namespace BTreeMap

variable {α : Type}

def empty : BTreeMap α := ⟨[], List.nodup_nil⟩

def isEmpty (m : BTreeMap α) : Bool := m.entries.isEmpty

def keys (m : BTreeMap α) : List String := m.entries.map Prod.fst

def get (m : BTreeMap α) (name : String) : Option α := m.entries.lookup name

def containsKey (m : BTreeMap α) (name : String) : Bool := m.keys.contains name

/-- The map with one entry. -/
def single (name : String) (value : α) : BTreeMap α := ⟨[(name, value)], by simp⟩

/-- A new key goes to the end: keys are inserted in their order. -/
def insert (m : BTreeMap α) (name : String) (value : α) : BTreeMap α where
  entries := m.entries.filter (fun e => e.1 != name) ++ [(name, value)]
  nodup := by
    rw [List.map_append, List.nodup_append]
    refine ⟨m.nodup.sublist (List.Sublist.map _ List.filter_sublist), by simp, ?_⟩
    intro a ha b hb
    obtain ⟨e, he, rfl⟩ := List.mem_map.mp ha
    obtain rfl : b = name := by simpa using hb
    exact by simpa using (List.mem_filter.mp he).2

/-- The map with these entries, if no key comes twice. -/
def ofEntries (entries : List (String × α)) : Option (BTreeMap α) :=
  if h : (entries.map Prod.fst).Nodup then some ⟨entries, h⟩ else none

/-- `self.extend(other)`: the values of `other` win. -/
def extend (m other : BTreeMap α) : BTreeMap α where
  entries := m.entries.filter (fun e => !other.containsKey e.1) ++ other.entries
  nodup := by
    rw [List.map_append, List.nodup_append]
    refine ⟨m.nodup.sublist (List.Sublist.map _ List.filter_sublist), other.nodup, ?_⟩
    intro a ha b hb
    obtain ⟨e, he, rfl⟩ := List.mem_map.mp ha
    simp only [List.mem_filter, containsKey, keys, Bool.not_eq_true', List.contains_eq_mem,
      decide_eq_false_iff_not] at he
    exact fun heq => he.2 (heq ▸ hb)

lemma mem_keys_of_get {m : BTreeMap α} {name : String} {value : α}
    (h : m.get name = some value) : (name, value) ∈ m.entries := by
  obtain ⟨l, r, hlr, -⟩ := List.lookup_eq_some_iff.mp h
  simp [hlr]

lemma get_insert (m : BTreeMap α) (name other : String) (value : α) :
    (m.insert name value).get other = if other = name then some value else m.get other := by
  have hlookup : ∀ (key : String) (value : α) entries, List.lookup other ((key, value) :: entries) =
      if other = key then some value else entries.lookup other := by
    intro key value entries
    by_cases hother : other = key
    · simp [hother]
    · rw [List.lookup_cons, beq_false_of_ne hother, if_neg hother]
  have hfilter : ∀ entries : List (String × α),
      (entries.filter fun e => e.1 != name).lookup other =
        if other = name then none else entries.lookup other := by
    intro entries
    induction entries with
    | nil => simp
    | cons e entries ih =>
      by_cases hkey : e.1 = name
      · rw [List.filter_cons_of_neg (by simpa using hkey), ih, hlookup, hkey]
        by_cases hother : other = name <;> simp [hother]
      · rw [List.filter_cons_of_pos (by simpa using hkey), hlookup, hlookup, ih]
        by_cases hother : other = e.1 <;> simp [hother, hkey]
  simp only [get, insert, List.lookup_append, hfilter, hlookup, List.lookup_nil]
  by_cases hother : other = name <;> simp [hother]

lemma containsKey_iff {m : BTreeMap α} {name : String} :
    m.containsKey name = true ↔ ∃ value, m.get name = some value := by
  simp only [containsKey, keys, List.contains_iff_mem, get]
  constructor
  · intro h
    cases hl : m.entries.lookup name with
    | some value => exact ⟨value, rfl⟩
    | none =>
      obtain ⟨⟨name', value⟩, hmem, rfl⟩ := List.mem_map.mp h
      have := List.lookup_eq_none_iff.mp hl (name', value) hmem
      simp at this
  · rintro ⟨value, hl⟩
    exact List.mem_map.mpr ⟨(name, value), mem_keys_of_get hl, rfl⟩

end BTreeMap

end TransferGateway
