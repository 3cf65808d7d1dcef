import TransferGateway.Protocol.LegacyText

/-!
# The reading of a text with legacy codes

A text is read from left to right: a code changes the style, and every other character stands in the
style in force there. The loop of `legacy_text_to_json` writes down that reading.
-/

namespace TransferGateway

namespace Protocol

/-! ### The reading -/

/-- A colour, and no format. -/
def LegacyStyle.colored (color : String) : LegacyStyle :=
  { LegacyStyle.default with color := some color }

/-- A code, without its marker, at the start of a text: the style before and after it, and the text
behind it. -/
inductive Code (style : LegacyStyle) : List Char → LegacyStyle → List Char → Prop
  | hash {digits rest : List Char} (length : digits.length = 6)
      (hex : ∀ digit ∈ digits, isAsciiHexdigit digit = true) :
      Code style ('#' :: (digits ++ rest)) (.colored (String.ofList ('#' :: digits))) rest
  | spaced {x : Char} {digits : List (Char × Char)} {rest : List Char} (hx : x.toLower = 'x')
      (length : digits.length = 6)
      (hex : ∀ digit ∈ digits, isMarker digit.1 = true ∧ isAsciiHexdigit digit.2 = true) :
      Code style (x :: (digits.flatMap (fun digit => [digit.1, digit.2]) ++ rest))
        (.colored (String.ofList ('#' :: digits.map Prod.snd))) rest
  | color {c : Char} {name : String} {rest : List Char} (h : legacyColor c.toLower = some name) :
      Code style (c :: rest) (.colored name) rest
  | format {c : Char} {style' : LegacyStyle} {rest : List Char}
      (h : applyLegacyFormat style c.toLower = some style') : Code style (c :: rest) style' rest

/-- The characters that stay, with their styles. -/
inductive Reads : LegacyStyle → List Char → List (Char × LegacyStyle) → Prop
  | nil {style : LegacyStyle} : Reads style [] []
  | code {style style' : LegacyStyle} {marker : Char} {text rest : List Char}
      {out : List (Char × LegacyStyle)} (hmarker : isMarker marker = true)
      (hcode : Code style text style' rest) (h : Reads style' rest out) :
      Reads style (marker :: text) out
  | keep {style : LegacyStyle} {c : Char} {text : List Char} {out : List (Char × LegacyStyle)}
      (hc : isMarker c = true → ∀ style' rest, ¬Code style text style' rest)
      (h : Reads style text out) : Reads style (c :: text) ((c, style) :: out)

/-! ### Codes -/

/-- A digit of a spaced colour, at its place behind the `x`. -/
def spacedDigit (text : List Char) (offset : ℕ) : Option Char := do
  let separator ← text[offset * 2]?
  let digit ← text[offset * 2 + 1]?
  if !isMarker separator then none
  else if !isAsciiHexdigit digit then none
  else some digit

lemma spacedDigit_zero (a b : Char) (text : List Char) : spacedDigit (a :: b :: text) 0 =
    if isMarker a = true ∧ isAsciiHexdigit b = true then some b else none := by
  cases ha : isMarker a <;> cases hb : isAsciiHexdigit b <;> simp [spacedDigit, ha, hb]

lemma spacedDigit_succ (a b : Char) (text : List Char) (offset : ℕ) :
    spacedDigit (a :: b :: text) (offset + 1) = spacedDigit text offset := by
  have hindex : (offset + 1) * 2 = offset * 2 + 1 + 1 := by omega
  simp only [spacedDigit, hindex, List.getElem?_cons_succ]

lemma mapM_spacedDigit_succ {a b : Char} {text digits : List Char} {n : ℕ} :
    (List.range (n + 1)).mapM (spacedDigit (a :: b :: text)) = some digits ↔
      (isMarker a = true ∧ isAsciiHexdigit b = true) ∧ ∃ digits',
        (List.range n).mapM (spacedDigit text) = some digits' ∧ b :: digits' = digits := by
  have hsucc : spacedDigit (a :: b :: text) ∘ Nat.succ = spacedDigit text :=
    funext (spacedDigit_succ a b text)
  rw [List.range_succ_eq_map, List.mapM_cons, List.mapM_map, hsucc, spacedDigit_zero]
  split
  · rename_i h
    simp [h, Option.bind_eq_some_iff]
  · rename_i h
    simp [h]

/-- The digits of a spaced colour are those of as many pairs at the start of the text. -/
lemma mapM_spacedDigit_eq_some {text : List Char} {n : ℕ} {digits : List Char} :
    (List.range n).mapM (spacedDigit text) = some digits ↔
      ∃ (pairs : List (Char × Char)) (rest : List Char),
        text = pairs.flatMap (fun digit => [digit.1, digit.2]) ++ rest ∧ pairs.length = n ∧
        (∀ digit ∈ pairs, isMarker digit.1 = true ∧ isAsciiHexdigit digit.2 = true) ∧
        digits = pairs.map Prod.snd := by
  induction n generalizing text digits with
  | zero =>
    constructor
    · intro h
      cases h
      exact ⟨[], text, rfl, rfl, by simp, rfl⟩
    · rintro ⟨pairs, rest, -, hlen, -, rfl⟩
      rw [List.length_eq_zero_iff] at hlen
      rw [hlen]
      rfl
  | succ n ih =>
    have hshort : text.length < 2 → (List.range (n + 1)).mapM (spacedDigit text) = none := by
      intro hlen
      have hzero : spacedDigit text 0 = none := by
        simp [spacedDigit, List.getElem?_eq_none (show text.length ≤ 0 * 2 + 1 by omega)]
      rw [List.range_succ_eq_map, List.mapM_cons, hzero]
      rfl
    constructor
    · intro h
      rcases text with - | ⟨a, - | ⟨b, text⟩⟩
      · rw [hshort (by simp)] at h
        cases h
      · rw [hshort (by simp)] at h
        cases h
      · obtain ⟨hab, digits', hdigits', rfl⟩ := mapM_spacedDigit_succ.mp h
        obtain ⟨pairs, rest, rfl, rfl, hpairs, rfl⟩ := ih.mp hdigits'
        exact ⟨(a, b) :: pairs, rest, rfl, rfl, List.forall_mem_cons.mpr ⟨hab, hpairs⟩, rfl⟩
    · rintro ⟨pairs, rest, rfl, hlen, hpairs, rfl⟩
      obtain ⟨pair, pairs, rfl⟩ := List.exists_cons_of_length_eq_add_one hlen
      obtain ⟨hpair, hpairs⟩ := List.forall_mem_cons.mp hpairs
      refine mapM_spacedDigit_succ.mpr ⟨hpair, _, ih.mpr ⟨pairs, rest, rfl, ?_, hpairs, rfl⟩, rfl⟩
      simpa using hlen

lemma parseSpacedHexColor_eq {characters : List Char} {index : ℕ} {marker : Char}
    (hmarker : isMarker marker = true) :
    parseSpacedHexColor characters index marker =
      if (characters.drop (index + 1)).head?.map Char.toLower ≠ some 'x' then none
      else ((List.range 6).mapM (spacedDigit (characters.drop (index + 2)))).map fun digits =>
        (String.ofList ('#' :: digits), 14) := by
  have hdigit : (fun offset => do
      let separator ← characters[index + 2 + offset * 2]?
      let digit ← characters[index + 3 + offset * 2]?
      if separator ≠ marker && !isMarker separator then none
      else if !isAsciiHexdigit digit then none
      else some digit) = spacedDigit (characters.drop (index + 2)) := by
    funext offset
    have hindex : index + 3 + offset * 2 = index + 2 + (offset * 2 + 1) := by omega
    rw [spacedDigit, List.getElem?_drop, List.getElem?_drop, hindex]
    refine congrArg _ (funext fun separator => congrArg _ (funext fun digit => ?_))
    have hseparator : (decide (separator ≠ marker) && !isMarker separator) =
        !isMarker separator := by
      by_cases heq : separator = marker
      · simp [heq, hmarker]
      · simp [heq]
    rw [hseparator]
  rw [parseSpacedHexColor, hdigit, List.head?_drop]
  split
  · rfl
  · rw [Option.map_eq_bind]
    rfl

lemma getRange_six (characters : List Char) (index : ℕ) :
    getRange characters (index + 2) (index + 8) =
      if 6 ≤ (characters.drop (index + 2)).length then
        some ((characters.drop (index + 2)).take 6)
      else none := by
  rw [getRange, List.drop_take, List.length_drop]
  have hsub : index + 8 - (index + 2) = 6 := by omega
  rw [hsub]
  exact if_congr (by omega) rfl rfl

/-- The two forms of a hexadecimal colour, by the character behind the marker. -/
lemma parseHexColor_eq {characters : List Char} {index : ℕ} {marker c : Char} {rest : List Char}
    (hmarker : isMarker marker = true) (h : characters.drop (index + 1) = c :: rest) :
    parseHexColor characters index marker =
      if c = '#' then
        if 6 ≤ rest.length ∧ (rest.take 6).all isAsciiHexdigit = true then
          some (String.ofList ('#' :: rest.take 6), 8)
        else none
      else if c.toLower = 'x' then
        ((List.range 6).mapM (spacedDigit rest)).map fun digits =>
          (String.ofList ('#' :: digits), 14)
      else none := by
  have hget : characters[index + 1]? = some c := by
    rw [← List.head?_drop, h]
    rfl
  have hrest : characters.drop (index + 2) = rest := by
    have hstep : characters.drop (index + 2) = (characters.drop (index + 1)).drop 1 := by simp
    rw [hstep, h]
    rfl
  rw [parseHexColor, hget, parseSpacedHexColor_eq hmarker, h, getRange_six, hrest]
  by_cases hc : c = '#'
  · have hx : c.toLower ≠ 'x' := by
      rw [hc]
      decide
    rw [if_pos (congrArg some hc), if_pos hc]
    by_cases hlen : 6 ≤ rest.length
    · rw [if_pos hlen]
      simp only [Option.bind_eq_bind, Option.bind_some]
      by_cases hhex : (rest.take 6).all isAsciiHexdigit = true
      · rw [if_pos hhex, if_pos ⟨hlen, hhex⟩]
        rfl
      · have hspaced : (c :: rest).head?.map Char.toLower ≠ some 'x' := by simpa using hx
        rw [if_neg hhex, if_pos hspaced, if_neg fun h => hhex h.2]
    · simp [hlen]
  · have hne : ¬some c = some '#' := by simpa using hc
    rw [if_neg hne, if_neg hc]
    by_cases hx : c.toLower = 'x' <;> simp [hx]

lemma legacyColor_eq_none {style style' : LegacyStyle} {code : Char}
    (h : applyLegacyFormat style code = some style') : legacyColor code = none := by
  revert h
  rw [applyLegacyFormat.eq_def]
  split <;> intro h
  all_goals first | rfl | cases h

section LegacyCode

variable {characters : List Char} {s : LegacyState} {marker : Char} {style' : LegacyStyle}

/-- The code behind a marker, by the character that follows it. -/
lemma legacyCode_eq {c : Char} {rest : List Char}
    (htext : characters.drop (s.index + 1) = c :: rest) :
    legacyCode characters s marker =
      match parseHexColor characters s.index marker with
      | some (color, consumed) => some (.colored color, consumed)
      | none =>
        match legacyColor c.toLower with
        | some color => some (.colored color, 2)
        | none => (applyLegacyFormat s.style c.toLower).map fun style => (style, 2) := by
  have hget : characters[s.index + 1]? = some c := by
    rw [← List.head?_drop, htext]
    rfl
  rw [legacyCode, hget]
  rfl

lemma drop_behind {c : Char} {rest : List Char}
    (htext : characters.drop (s.index + 1) = c :: rest) (n : ℕ) :
    characters.drop (s.index + (n + 2)) = rest.drop n := by
  have hstep : characters.drop (s.index + (n + 2)) =
      (characters.drop (s.index + 1)).drop (n + 1) := by
    rw [List.drop_drop]
    congr 1
    omega
  rw [hstep, htext, List.drop_succ_cons]

lemma length_flatMap_pairs (pairs : List (Char × Char)) :
    (pairs.flatMap fun digit => [digit.1, digit.2]).length = pairs.length * 2 := by
  simp [List.length_flatMap]

/-- A hexadecimal colour is one of the two forms. -/
lemma code_of_parseHexColor {c : Char} {rest : List Char} {color : String} {consumed : ℕ}
    (hmarker : isMarker marker = true) (htext : characters.drop (s.index + 1) = c :: rest)
    (h : parseHexColor characters s.index marker = some (color, consumed)) :
    Code s.style (c :: rest) (.colored color) (characters.drop (s.index + consumed)) := by
  rw [parseHexColor_eq hmarker htext] at h
  split at h
  · rename_i hc
    split at h
    · rename_i hdigits
      cases h
      obtain ⟨digits, rest', rfl, hlen⟩ : ∃ digits rest', rest = digits ++ rest' ∧
          digits.length = 6 :=
        ⟨_, _, (List.take_append_drop 6 rest).symm, by simp [hdigits.1]⟩
      rw [List.take_left' hlen] at hdigits ⊢
      rw [hc, drop_behind htext 6, List.drop_left' hlen]
      exact .hash hlen (List.all_eq_true.mp hdigits.2)
    · cases h
  · split at h
    · rename_i hx
      obtain ⟨digits, hdigits, heq⟩ := Option.map_eq_some_iff.mp h
      cases heq
      obtain ⟨pairs, rest', rfl, hlen, hpairs, rfl⟩ := mapM_spacedDigit_eq_some.mp hdigits
      have hflat : (pairs.flatMap fun digit => [digit.1, digit.2]).length = 12 := by
        rw [length_flatMap_pairs, hlen]
      rw [drop_behind htext 12, List.drop_left' hflat]
      exact .spaced hx hlen hpairs
    · cases h

/-- The characters of a short code start no hexadecimal colour. -/
lemma parseHexColor_eq_none {c : Char} {rest : List Char} (hmarker : isMarker marker = true)
    (htext : characters.drop (s.index + 1) = c :: rest)
    (hshort : legacyColor c.toLower ≠ none ∨ applyLegacyFormat s.style c.toLower ≠ none) :
    parseHexColor characters s.index marker = none := by
  have hne : c ≠ '#' := by
    rintro rfl
    rcases hshort with h | h <;> exact h rfl
  have hx : c.toLower ≠ 'x' := by
    intro hx
    rw [hx] at hshort
    rcases hshort with h | h <;> exact h rfl
  rw [parseHexColor_eq hmarker htext, if_neg hne, if_neg hx]

/-- A code of the loop is a code at the start of the text behind the marker. -/
lemma code_of_legacyCode {consumed : ℕ} (hmarker : isMarker marker = true)
    (h : legacyCode characters s marker = some (style', consumed)) :
    Code s.style (characters.drop (s.index + 1)) style' (characters.drop (s.index + consumed)) := by
  cases htext : characters.drop (s.index + 1) with
  | nil =>
    have hnone : characters[s.index + 1]? = none := by
      rw [← List.head?_drop, htext]
      rfl
    simp [legacyCode, hnone] at h
  | cons c rest =>
    rw [legacyCode_eq htext] at h
    cases hhex : parseHexColor characters s.index marker with
    | some result =>
      rw [hhex] at h
      cases h
      exact code_of_parseHexColor hmarker htext hhex
    | none =>
      rw [hhex] at h
      dsimp only at h
      cases hcolor : legacyColor c.toLower with
      | some color =>
        rw [hcolor] at h
        cases h
        rw [drop_behind htext 0]
        exact .color hcolor
      | none =>
        rw [hcolor] at h
        obtain ⟨style, hstyle, heq⟩ := Option.map_eq_some_iff.mp h
        cases heq
        rw [drop_behind htext 0]
        exact .format hstyle

/-- And the other way round. -/
lemma legacyCode_of_code {rest : List Char} (hmarker : isMarker marker = true)
    (h : Code s.style (characters.drop (s.index + 1)) style' rest) :
    ∃ consumed, legacyCode characters s marker = some (style', consumed) ∧
      rest = characters.drop (s.index + consumed) := by
  generalize htext : characters.drop (s.index + 1) = text at h
  cases h with
  | hash hlen hex =>
    rename_i digits
    refine ⟨8, ?_, by rw [drop_behind htext 6, List.drop_left' hlen]⟩
    have hdigits : 6 ≤ (digits ++ rest).length := by simp [hlen]
    rw [legacyCode_eq htext, parseHexColor_eq hmarker htext, if_pos rfl, List.take_left' hlen,
      if_pos ⟨hdigits, List.all_eq_true.mpr hex⟩]
  | spaced hx hlen hex =>
    rename_i x pairs
    have hflat : (pairs.flatMap fun digit => [digit.1, digit.2]).length = 12 := by
      rw [length_flatMap_pairs, hlen]
    refine ⟨14, ?_, by rw [drop_behind htext 12, List.drop_left' hflat]⟩
    have hne : x ≠ '#' := by
      rintro rfl
      revert hx
      decide
    have hdigits := mapM_spacedDigit_eq_some.mpr ⟨pairs, rest, rfl, hlen, hex, rfl⟩
    rw [legacyCode_eq htext, parseHexColor_eq hmarker htext, if_neg hne, if_pos hx, hdigits]
    rfl
  | color hcolor =>
    refine ⟨2, ?_, (drop_behind htext 0).symm⟩
    have hhex := parseHexColor_eq_none hmarker htext (.inl (by simp [hcolor]))
    rw [legacyCode_eq htext, hhex, hcolor]
  | format hformat =>
    refine ⟨2, ?_, (drop_behind htext 0).symm⟩
    have hhex := parseHexColor_eq_none hmarker htext (.inr (by simp [hformat]))
    rw [legacyCode_eq htext, hhex, legacyColor_eq_none hformat, hformat]
    rfl

end LegacyCode

/-- A text starts with one code at most. -/
lemma Code.unique {style style' style'' : LegacyStyle} {text rest rest' : List Char}
    (h : Code style text style' rest) (h' : Code style text style'' rest') :
    style' = style'' ∧ rest = rest' := by
  let s : LegacyState := ⟨[], style, "", 0⟩
  have hcode_of {style rest} (h : Code s.style (('&' :: text).drop (s.index + 1)) style rest) :=
    legacyCode_of_code (show isMarker '&' = true from rfl) h
  obtain ⟨consumed, hcode, rfl⟩ := hcode_of h
  obtain ⟨consumed', hcode', rfl⟩ := hcode_of h'
  rw [hcode] at hcode'
  cases hcode'
  exact ⟨rfl, rfl⟩

/-- A text has one reading at most. -/
lemma Reads.unique {style : LegacyStyle} {text : List Char} {out out' : List (Char × LegacyStyle)}
    (h : Reads style text out) (h' : Reads style text out') : out = out' := by
  induction h generalizing out' with
  | nil =>
    cases h'
    rfl
  | code hmarker hcode _ ih =>
    cases h' with
    | code _ hcode' h' =>
      obtain ⟨rfl, rfl⟩ := hcode.unique hcode'
      exact ih h'
    | keep hc _ => exact absurd hcode (hc hmarker _ _)
  | keep hc _ ih =>
    cases h' with
    | code hmarker hcode _ => exact absurd hcode (hc hmarker _ _)
    | keep _ h' => rw [ih h']

end Protocol

/-! ### Components -/

namespace Json

/-- The value of a field of an object. -/
def field (name : String) : Json → Option Json
  | object fields => fields.lookup name
  | _ => none

def textField (name : String) (json : Json) : Option String :=
  match json.field name with
  | some (string text) => some text
  | _ => none

def boolField (name : String) (json : Json) : Bool :=
  match json.field name with
  | some (bool value) => value
  | _ => false

lemma lookup_cons_ite (field : String × Json) (fields : List (String × Json)) (name : String) :
    (field :: fields).lookup name = if name = field.1 then some field.2 else fields.lookup name := by
  rw [List.lookup_cons]
  split
  · rename_i h
    rw [if_pos (beq_iff_eq.mp h)]
  · rename_i h
    rw [if_neg (beq_eq_false_iff_ne.mp h)]

lemma lookup_insertField (name : String) (value : Json) (fields : List (String × Json))
    (other : String) : (insertField name value fields).lookup other =
      if other = name then some value else fields.lookup other := by
  induction fields with
  | nil => exact lookup_cons_ite ..
  | cons field fields ih =>
    rw [insertField]
    split
    · exact lookup_cons_ite ..
    · split
      · rename_i hname
        rw [lookup_cons_ite, lookup_cons_ite, hname]
        split <;> rfl
      · rename_i hname
        rw [lookup_cons_ite, ih, lookup_cons_ite]
        by_cases h : other = field.1
        · rw [if_pos h, if_neg (h ▸ Ne.symm hname), if_pos h]
        · rw [if_neg h, if_neg h]

/-- The last of the values that are inserted for a field counts. -/
lemma field_ofFields (name : String) (fields : List (String × Json)) :
    (ofFields fields).field name = fields.reverse.lookup name := by
  have hfold : ∀ map : List (String × Json),
      (fields.foldl (fun map field => insertField field.1 field.2 map) map).lookup name =
        (fields.reverse.lookup name).or (map.lookup name) := by
    induction fields with
    | nil => simp
    | cons field fields ih =>
      intro map
      rw [List.foldl_cons, ih, lookup_insertField, List.reverse_cons, List.lookup_append,
        Option.or_assoc, lookup_cons_ite]
      congr 1
      split <;> rfl
  rw [ofFields, field, hfold]
  simp

end Json

namespace Protocol

/-- The text of a component. -/
def componentText (component : Json) : String := (component.textField "text").getD ""

def componentStyle (component : Json) : LegacyStyle where
  color := component.textField "color"
  obfuscated := component.boolField "obfuscated"
  bold := component.boolField "bold"
  strikethrough := component.boolField "strikethrough"
  underlined := component.boolField "underlined"
  italic := component.boolField "italic"

/-- The characters of components, with their styles. -/
def flatten (components : List Json) : List (Char × LegacyStyle) :=
  components.flatMap fun component =>
    (componentText component).toList.map fun c => (c, componentStyle component)

/-- The components of a text. -/
def extra (json : Json) : List Json :=
  match json.field "extra" with
  | some (.array components) => components
  | _ => []

lemma lookup_flag (name other : String) (set : Bool) :
    (if set = true then [(name, Json.bool true)] else []).reverse.lookup other =
      if other = name ∧ set = true then some (.bool true) else none := by
  cases set with
  | false => simp
  | true => simp [Json.lookup_cons_ite]

lemma lookup_color (other : String) (color : Option String) :
    (color.map fun color => ("color", Json.string color)).toList.reverse.lookup other =
      if other = "color" then color.map Json.string else none := by
  cases color <;> simp [Json.lookup_cons_ite]

/-- A text that is not empty becomes a component with its style. -/
lemma pushTextComponent_spec (components : List Json) {buffer : String} (h : buffer ≠ "")
    (style : LegacyStyle) : ∃ component,
      pushTextComponent components buffer style = components ++ [component] ∧
      componentText component = buffer ∧ componentStyle component = style := by
  rw [pushTextComponent, if_neg h]
  refine ⟨_, rfl, ?_, ?_⟩
  · simp [componentText, Json.textField, Json.field_ofFields, List.lookup_append, lookup_flag,
      lookup_color]
  · obtain ⟨color, obfuscated, bold, strikethrough, underlined, italic⟩ := style
    simp only [componentStyle, LegacyStyle.mk.injEq, Json.boolField, Json.textField,
      Json.field_ofFields, List.reverse_append, List.lookup_append, List.reverse_singleton,
      Json.lookup_cons_ite, lookup_flag, lookup_color, List.lookup_nil]
    refine ⟨?_, ?_, ?_, ?_, ?_, ?_⟩
    · cases color <;> simp
    · cases obfuscated <;> simp
    · cases bold <;> simp
    · cases strikethrough <;> simp
    · cases underlined <;> simp
    · cases italic <;> simp

lemma flatten_pushTextComponent (components : List Json) (buffer : String) (style : LegacyStyle) :
    flatten (pushTextComponent components buffer style) =
      flatten components ++ buffer.toList.map fun c => (c, style) := by
  by_cases h : buffer = ""
  · simp [pushTextComponent, h]
  · obtain ⟨component, hpush, htext, hstyle⟩ := pushTextComponent_spec components h style
    rw [hpush, flatten, List.flatMap_append, List.flatMap_singleton, htext, hstyle]
    rfl

lemma texts_pushTextComponent {components : List Json}
    (h : ∀ component ∈ components, componentText component ≠ "") (buffer : String)
    (style : LegacyStyle) :
    ∀ component ∈ pushTextComponent components buffer style, componentText component ≠ "" := by
  by_cases hbuffer : buffer = ""
  · rw [pushTextComponent, if_pos hbuffer]
    exact h
  · obtain ⟨component, hpush, htext, -⟩ := pushTextComponent_spec components hbuffer style
    rw [hpush]
    intro other hother
    rcases List.mem_append.mp hother with hother | hother
    · exact h other hother
    · rw [List.mem_singleton.mp hother, htext]
      exact hbuffer

/-! ### The loop -/

/-- What the loop has written down so far. -/
def LegacyState.emitted (s : LegacyState) : List (Char × LegacyStyle) :=
  flatten s.components ++ s.buffer.toList.map fun c => (c, s.style)

/-- A turn reads a code, or it keeps a character that starts none. -/
lemma legacyTurn_cases (characters : List Char) (s : LegacyState) (c : Char) :
    let s' := legacyTurn characters s c
    (isMarker c = true ∧
      Code s.style (characters.drop (s.index + 1)) s'.style (characters.drop s'.index) ∧
      s'.emitted = s.emitted) ∨
    ((isMarker c = true → ∀ style' rest, ¬Code s.style (characters.drop (s.index + 1)) style' rest) ∧
      s'.style = s.style ∧ s'.index = s.index + 1 ∧ s'.emitted = s.emitted ++ [(c, s.style)]) := by
  rw [legacyTurn]
  split
  · rename_i style consumed hcode
    split at hcode
    · rename_i hmarker
      refine .inl ⟨hmarker, code_of_legacyCode hmarker hcode, ?_⟩
      simp [LegacyState.emitted, LegacyState.restyle, flatten_pushTextComponent]
    · cases hcode
  · rename_i hnone
    refine .inr ⟨fun hmarker style' rest hcode => ?_, rfl, rfl, ?_⟩
    · obtain ⟨consumed, hsome, -⟩ := legacyCode_of_code hmarker hcode
      rw [if_pos hmarker, hsome] at hnone
      cases hnone
    · simp [LegacyState.emitted]

/-- The loop writes down the reading of the rest of the text. -/
lemma reads_legacyLoop {characters : List Char} {turns : ℕ} {s : LegacyState}
    (h : characters.length ≤ s.index + turns) :
    ∃ out, Reads s.style (characters.drop s.index) out ∧
      (legacyLoop characters turns s).emitted = s.emitted ++ out := by
  induction turns generalizing s with
  | zero =>
    have hend : characters.drop s.index = [] := List.drop_eq_nil_of_le h
    rw [hend]
    exact ⟨[], .nil, (List.append_nil _).symm⟩
  | succ turns ih =>
    rw [legacyLoop]
    split
    · rename_i hend
      rw [List.drop_eq_nil_of_le (List.getElem?_eq_none_iff.mp hend)]
      exact ⟨[], .nil, (List.append_nil _).symm⟩
    · rename_i c hc
      obtain ⟨hlt, rfl⟩ := List.getElem?_eq_some_iff.mp hc
      have hindex := index_lt_legacyTurn characters s characters[s.index]
      obtain ⟨out, hreads, hout⟩ := ih (s := legacyTurn characters s characters[s.index]) (by omega)
      rw [List.drop_eq_getElem_cons hlt, hout]
      rcases legacyTurn_cases characters s characters[s.index] with
        ⟨hmarker, hcode, hemitted⟩ | ⟨hkeep, hstyle, hnext, hemitted⟩
      · rw [hemitted]
        exact ⟨out, .code hmarker hcode hreads, rfl⟩
      · rw [hstyle, hnext] at hreads
        rw [hemitted]
        exact ⟨(characters[s.index], s.style) :: out, .keep hkeep hreads, by simp⟩

lemma texts_legacyLoop {characters : List Char} {turns : ℕ} {s : LegacyState}
    (h : ∀ component ∈ s.components, componentText component ≠ "") :
    ∀ component ∈ (legacyLoop characters turns s).components, componentText component ≠ "" := by
  induction turns generalizing s with
  | zero => exact h
  | succ turns ih =>
    rw [legacyLoop]
    split
    · exact h
    · apply ih
      rw [legacyTurn]
      split
      · exact texts_pushTextComponent h _ _
      · exact h

/-- The components that the loop over a text ends with. -/
def legacyComponents (text : String) : List Json :=
  let s := legacyLoop text.toList text.toList.length ⟨[], .default, "", 0⟩
  pushTextComponent s.components s.buffer s.style

lemma texts_legacyComponents (text : String) :
    ∀ component ∈ legacyComponents text, componentText component ≠ "" :=
  texts_pushTextComponent (texts_legacyLoop (by simp)) _ _

lemma reads_legacyComponents (text : String) :
    Reads .default text.toList (flatten (legacyComponents text)) := by
  let s₀ : LegacyState := ⟨[], .default, "", 0⟩
  have hturns : text.toList.length ≤ s₀.index + text.toList.length := Nat.le_add_left _ _
  obtain ⟨out, hreads, hout⟩ := reads_legacyLoop hturns
  rw [legacyComponents, flatten_pushTextComponent]
  change Reads _ _ (legacyLoop text.toList text.toList.length s₀).emitted
  rw [hout]
  exact hreads

/-- The field `extra` is there when there are components. -/
lemma field_legacyTextToJson (text : String) :
    (legacyTextToJson text).field "extra" =
      if legacyComponents text = [] then none else some (.array (legacyComponents text)) := by
  have hfields : legacyTextToJson text = Json.ofFields ([("text", .string "")] ++
      if (legacyComponents text).isEmpty then []
      else [("extra", .array (legacyComponents text))]) := rfl
  rw [hfields, Json.field_ofFields]
  cases legacyComponents text <;> simp [Json.lookup_cons_ite]

lemma extra_legacyTextToJson (text : String) :
    extra (legacyTextToJson text) = legacyComponents text := by
  rw [extra, field_legacyTextToJson]
  by_cases hnil : legacyComponents text = []
  · rw [if_pos hnil, hnil]
  · rw [if_neg hnil]

/-- The loop gets to the end of the text, and the components are its reading: the characters that no
code takes, each in the style of the codes before it. No component is empty, and there are none only
if no character stays. -/
theorem legacyTextToJson_spec (text : String) :
    text.toList.length ≤
      (legacyLoop text.toList text.toList.length ⟨[], .default, "", 0⟩).index ∧
    (∀ out, Reads .default text.toList out ↔ flatten (extra (legacyTextToJson text)) = out) ∧
    (∀ component ∈ extra (legacyTextToJson text), componentText component ≠ "") ∧
    ((legacyTextToJson text).field "extra" = none ↔ Reads .default text.toList []) := by
  rw [extra_legacyTextToJson, field_legacyTextToJson]
  have hiff : ∀ out, Reads .default text.toList out ↔ flatten (legacyComponents text) = out := by
    intro out
    constructor
    · exact (reads_legacyComponents text).unique
    · rintro rfl
      exact reads_legacyComponents text
  refine ⟨length_le_index_legacyLoop text.toList _, hiff, texts_legacyComponents text, ?_⟩
  rw [hiff]
  constructor
  · intro h
    split at h
    · rename_i hnil
      rw [hnil]
      rfl
    · cases h
  · intro h
    refine if_pos (List.eq_nil_iff_forall_not_mem.mpr fun component hmem => ?_)
    have hnil := List.flatMap_eq_nil_iff.mp h component hmem
    exact texts_legacyComponents text component hmem (by simpa using hnil)

end Protocol

end TransferGateway
