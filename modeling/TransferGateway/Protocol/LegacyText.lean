import TransferGateway.Std

/-!
# Texts with legacy codes

`legacy_text_to_json` turns a text with colour and format codes (`&` or `§` and a character, or a
hexadecimal colour) into a JSON text component.
-/

namespace TransferGateway

/-! ### JSON -/

/-- The kinds of `serde_json::Value` that the gateway builds. The fields of an object are in the order
of their names. -/
inductive Json where
  | bool (value : Bool)
  | number (value : ℤ)
  | string (text : String)
  | array (items : List Json)
  | object (fields : List (String × Json))

/-- `serde_json`'s escape of a character. -/
def jsonEscape (c : Char) : List Char :=
  let backslash := Char.ofNat 0x5C
  match c.toNat with
  | 0x08 => [backslash, 'b']
  | 0x09 => [backslash, 't']
  | 0x0A => [backslash, 'n']
  | 0x0C => [backslash, 'f']
  | 0x0D => [backslash, 'r']
  | 0x22 | 0x5C => [backslash, c]
  | n =>
    if n < 0x20 then [backslash, 'u', '0', '0', Nat.digitChar (n / 16), Nat.digitChar (n % 16)]
    else [c]

def jsonString (text : String) : String :=
  let quote := String.singleton (Char.ofNat 0x22)
  quote ++ String.ofList (text.toList.flatMap jsonEscape) ++ quote

namespace Json

mutual

/-- `serde_json::to_string`. -/
def toText : Json → String
  | bool value => if value then "true" else "false"
  | number value => ToString.toString value
  | string text => jsonString text
  | array items => "[" ++ ",".intercalate (itemTexts items) ++ "]"
  | object fields => "\x7b" ++ ",".intercalate (fieldTexts fields) ++ "\x7d"

def itemTexts : List Json → List String
  | [] => []
  | item :: items => item.toText :: itemTexts items

def fieldTexts : List (String × Json) → List String
  | [] => []
  | (name, value) :: fields => (jsonString name ++ ":" ++ value.toText) :: fieldTexts fields

end

/-- `Map::insert`. -/
def insertField (name : String) (value : Json) : List (String × Json) → List (String × Json)
  | [] => [(name, value)]
  | field :: fields =>
    if name < field.1 then (name, value) :: field :: fields
    else if name = field.1 then (name, value) :: fields
    else field :: insertField name value fields

/-- The object into which the fields are inserted one after the other. -/
def ofFields (fields : List (String × Json)) : Json :=
  object (fields.foldl (fun map field => insertField field.1 field.2 map) [])

end Json

namespace Protocol

/-! ### Codes -/

structure LegacyStyle where
  color : Option String
  obfuscated : Bool
  bold : Bool
  strikethrough : Bool
  underlined : Bool
  italic : Bool
  deriving DecidableEq

def LegacyStyle.default : LegacyStyle := ⟨none, false, false, false, false, false⟩

def isAsciiHexdigit (c : Char) : Bool :=
  c.isDigit || ('a' ≤ c && c ≤ 'f') || ('A' ≤ c && c ≤ 'F')

def isMarker (c : Char) : Bool := c == '&' || c == '§'

/-- `slice::get` of a range. -/
def getRange (characters : List Char) (start stop : ℕ) : Option (List Char) :=
  if stop ≤ characters.length then some ((characters.take stop).drop start) else none

/-- The form `&x&1&2&3&4&5&6`. -/
def parseSpacedHexColor (characters : List Char) (index : ℕ) (marker : Char) :
    Option (String × ℕ) :=
  if (characters[index + 1]?.map Char.toLower) ≠ some 'x' then none
  else do
    let digits ← (List.range 6).mapM fun offset => do
      let separator ← characters[index + 2 + offset * 2]?
      let digit ← characters[index + 3 + offset * 2]?
      if separator ≠ marker && !isMarker separator then none
      else if !isAsciiHexdigit digit then none
      else some digit
    return (String.ofList ('#' :: digits), 14)

def parseHexColor (characters : List Char) (index : ℕ) (marker : Char) : Option (String × ℕ) :=
  if characters[index + 1]? = some '#' then do
    let digits ← getRange characters (index + 2) (index + 8)
    if digits.all isAsciiHexdigit then return (String.ofList ('#' :: digits), 8)
    else parseSpacedHexColor characters index marker
  else parseSpacedHexColor characters index marker

def applyLegacyFormat (style : LegacyStyle) (code : Char) : Option LegacyStyle :=
  match code with
  | 'k' => some { style with obfuscated := true }
  | 'l' => some { style with bold := true }
  | 'm' => some { style with strikethrough := true }
  | 'n' => some { style with underlined := true }
  | 'o' => some { style with italic := true }
  | 'r' => some .default
  | _ => none

def legacyColor (code : Char) : Option String :=
  match code with
  | '0' => some "black"
  | '1' => some "dark_blue"
  | '2' => some "dark_green"
  | '3' => some "dark_aqua"
  | '4' => some "dark_red"
  | '5' => some "dark_purple"
  | '6' => some "gold"
  | '7' => some "gray"
  | '8' => some "dark_gray"
  | '9' => some "blue"
  | 'a' => some "green"
  | 'b' => some "aqua"
  | 'c' => some "red"
  | 'd' => some "light_purple"
  | 'e' => some "yellow"
  | 'f' => some "white"
  | _ => none

/-! ### The loop -/

def pushTextComponent (components : List Json) (buffer : String) (style : LegacyStyle) :
    List Json :=
  if buffer = "" then components
  else
    let flag := fun (name : String) (set : Bool) => if set then [(name, Json.bool true)] else []
    components ++ [.ofFields ([("text", .string buffer)] ++
      (style.color.map fun color => ("color", Json.string color)).toList ++
      flag "obfuscated" style.obfuscated ++ flag "bold" style.bold ++
      flag "strikethrough" style.strikethrough ++ flag "underlined" style.underlined ++
      flag "italic" style.italic)]

structure LegacyState where
  components : List Json
  style : LegacyStyle
  buffer : String
  index : ℕ

/-- The text so far becomes a component, and a code of `consumed` characters gives the style of the
text that follows. -/
def LegacyState.restyle (s : LegacyState) (style : LegacyStyle) (consumed : ℕ) : LegacyState where
  components := pushTextComponent s.components s.buffer s.style
  style := style
  buffer := ""
  index := s.index + consumed

/-- The style after a marker at the index, and the length of the code. -/
def legacyCode (characters : List Char) (s : LegacyState) (marker : Char) :
    Option (LegacyStyle × ℕ) :=
  match characters[s.index + 1]? with
  | none => none
  | some next =>
    match parseHexColor characters s.index marker with
    | some (color, consumed) => some ({ LegacyStyle.default with color := some color }, consumed)
    | none =>
      match legacyColor next.toLower with
      | some color => some ({ LegacyStyle.default with color := some color }, 2)
      | none => (applyLegacyFormat s.style next.toLower).map fun style => (style, 2)

/-- One turn of the loop. -/
def legacyTurn (characters : List Char) (s : LegacyState) (character : Char) : LegacyState :=
  match if isMarker character then legacyCode characters s character else none with
  | some (style, consumed) => s.restyle style consumed
  | none => { s with buffer := s.buffer.push character, index := s.index + 1 }

/-- The loop, with so many turns left. -/
def legacyLoop (characters : List Char) : ℕ → LegacyState → LegacyState
  | 0, s => s
  | turns + 1, s =>
    match characters[s.index]? with
    | none => s
    | some character => legacyLoop characters turns (legacyTurn characters s character)

def legacyTextToJson (text : String) : Json :=
  let characters := text.toList
  let s := legacyLoop characters characters.length ⟨[], .default, "", 0⟩
  let components := pushTextComponent s.components s.buffer s.style
  .ofFields ([("text", .string "")] ++
    if components.isEmpty then [] else [("extra", .array components)])

/-! ### The end of the loop -/

lemma one_le_of_parseSpacedHexColor {characters : List Char} {index : ℕ} {marker : Char}
    {color : String} {consumed : ℕ}
    (h : parseSpacedHexColor characters index marker = some (color, consumed)) : 1 ≤ consumed := by
  rw [parseSpacedHexColor] at h
  split at h
  · cases h
  · obtain ⟨digits, -, h⟩ := Option.bind_eq_some_iff.mp h
    cases h
    decide

lemma one_le_of_parseHexColor {characters : List Char} {index : ℕ} {marker : Char}
    {color : String} {consumed : ℕ}
    (h : parseHexColor characters index marker = some (color, consumed)) : 1 ≤ consumed := by
  rw [parseHexColor] at h
  split at h
  · obtain ⟨digits, -, h⟩ := Option.bind_eq_some_iff.mp h
    split at h
    · cases h
      decide
    · exact one_le_of_parseSpacedHexColor h
  · exact one_le_of_parseSpacedHexColor h

lemma one_le_of_legacyCode {characters : List Char} {s : LegacyState} {marker : Char}
    {style : LegacyStyle} {consumed : ℕ}
    (h : legacyCode characters s marker = some (style, consumed)) : 1 ≤ consumed := by
  rw [legacyCode] at h
  split at h
  · cases h
  split at h
  next hcolor =>
    cases h
    exact one_le_of_parseHexColor hcolor
  split at h
  · cases h
    decide
  · obtain ⟨style', -, h⟩ := Option.map_eq_some_iff.mp h
    cases h
    decide

/-- Every turn takes a character at least. -/
lemma index_lt_legacyTurn (characters : List Char) (s : LegacyState) (character : Char) :
    s.index < (legacyTurn characters s character).index := by
  rw [legacyTurn]
  split
  next hcode =>
    split at hcode
    · exact Nat.lt_add_of_pos_right (one_le_of_legacyCode hcode)
    · cases hcode
  next => exact Nat.lt_succ_self _

lemma length_le_index_of_turns {characters : List Char} {turns : ℕ} {s : LegacyState}
    (h : characters.length ≤ s.index + turns) :
    characters.length ≤ (legacyLoop characters turns s).index := by
  induction turns generalizing s with
  | zero => exact h
  | succ turns ih =>
    rw [legacyLoop]
    split
    next hend => exact List.getElem?_eq_none_iff.mp hend
    next character hcharacter =>
      have := index_lt_legacyTurn characters s character
      exact ih (by omega)

/-- After as many turns as it has characters the text is at its end. -/
theorem length_le_index_legacyLoop (characters : List Char) (s : LegacyState) :
    characters.length ≤ (legacyLoop characters characters.length s).index :=
  length_le_index_of_turns (Nat.le_add_left _ _)

end Protocol

end TransferGateway
