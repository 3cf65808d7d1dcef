import Mathlib.Algebra.Ring.Int.Defs
import TransferGateway.Std

/-!
# TOML documents

The parser is a parameter. What `serde` derives for the gateway's structures is written out: a
field is read under its name or one of its aliases, falls back to its default when it is absent,
and makes the document invalid when its value has the wrong type; other keys are ignored.
-/

namespace TransferGateway

namespace Toml

/-- `toml::Value`; no field of the gateway is read from a float or a datetime. -/
inductive Value where
  | string (text : String)
  | integer (n : Int)
  | float
  | boolean (b : Bool)
  | datetime
  | array (items : List Value)
  | table (entries : List (String × Value))

abbrev Table := List (String × Value)

/-- `toml::from_str::<toml::Table>`. -/
class Parse where
  fromStr : String → Option Table

/-! ### Values -/

abbrev Decoder (α : Type) := Value → Option α

def string : Decoder String
  | .string text => some text
  | _ => none

def bool : Decoder Bool
  | .boolean b => some b
  | _ => none

/-- An integer type with this range. -/
def integer (lo hi : Int) : Decoder Int
  | .integer n => if lo ≤ n ∧ n ≤ hi then some n else none
  | _ => none

def i32 : Decoder Int := integer (-2 ^ 31) (2 ^ 31 - 1)

def protocolVersion : Decoder Int32 := fun v => Int32.ofInt <$> i32 v

def u16 : Decoder UInt16 := fun v => (fun n => n.toNat.toUInt16) <$> integer 0 (2 ^ 16 - 1) v

def u32 : Decoder ℕ := fun v => Int.toNat <$> integer 0 (2 ^ 32 - 1) v

/-- `u64` and `usize`; `toml::from_str` reads an integer without a sign, too. -/
def u64 : Decoder ℕ := fun v => Int.toNat <$> integer 0 (2 ^ 64 - 1) v

def path : Decoder Path := fun v => Path.ofString <$> string v

def list {α : Type} (decode : Decoder α) : Decoder (List α)
  | .array items => items.mapM decode
  | _ => none

def asTable : Decoder Table
  | .table entries => some entries
  | _ => none

def map {α : Type} (decode : Decoder α) : Decoder (BTreeMap α)
  | .table entries => do
    BTreeMap.ofEntries (← entries.mapM fun (name, v) => (name, ·) <$> decode v)
  | _ => none

/-! ### Fields -/

namespace Table

variable {α : Type}

/-- The values under a name and its aliases. -/
def values (t : Table) (names : List String) : List Value :=
  (t.filter fun e => names.contains e.1).map Prod.snd

/-- A field without a default. -/
def required (t : Table) (names : List String) (decode : Decoder α) : Option α :=
  match t.values names with
  | [v] => decode v
  | _ => none

/-- A field with a default; a name together with its alias is a duplicate. -/
def field (t : Table) (names : List String) (decode : Decoder α) (default : α) : Option α :=
  match t.values names with
  | [] => some default
  | [v] => decode v
  | _ => none

/-- An `Option` field. -/
def optional (t : Table) (names : List String) (decode : Decoder α)
    (default : Option α) : Option (Option α) :=
  t.field names (fun v => some <$> decode v) default

def containsKey (t : Table) (name : String) : Bool := t.any (·.1 == name)

/-- The entry under `name`, and the table without it. -/
def remove (t : Table) (name : String) : Option (Value × Table) :=
  (t.lookup name).map fun v => (v, t.filter (·.1 != name))

end Table

end Toml

end TransferGateway
