import TransferGateway.Protocol.LegacyText

/-!
# Reading JSON

A client reads a JSON text back into a value. From the text of a value it gets that value, whatever
characters the strings in it have.
-/

namespace TransferGateway

namespace Json

/-! ### The reader -/

def quote : Char := Char.ofNat 0x22

def backslash : Char := Char.ofNat 0x5C

/-- Insignificant whitespace. -/
def isBlank (c : Char) : Bool := c = ' ' || c = '\t' || c = '\n' || c = '\r'

def skipBlanks (text : List Char) : List Char := text.dropWhile isBlank

/-- What follows a word. -/
def afterWord (word text : List Char) : Option (List Char) :=
  if word.isPrefixOf text then some (text.drop word.length) else none

def hexValue (c : Char) : Option ℕ :=
  if '0' ≤ c ∧ c ≤ '9' then some (c.toNat - 48)
  else if 'a' ≤ c ∧ c ≤ 'f' then some (c.toNat - 87)
  else if 'A' ≤ c ∧ c ≤ 'F' then some (c.toNat - 55)
  else none

/-- So many hexadecimal digits, behind those that gave `value`. -/
def readHex : ℕ → ℕ → List Char → Option (ℕ × List Char)
  | 0, value, text => some (value, text)
  | _ + 1, _, [] => none
  | n + 1, value, c :: text => do readHex n (value * 16 + (← hexValue c)) text

/-- The character of the code behind a backslash and a `u`: one unit, or a surrogate pair. -/
def readUnit (text : List Char) : Option (Char × List Char) := do
  let (unit, text) ← readHex 4 0 text
  if unit < 0xD800 ∨ 0xE000 ≤ unit then return (Char.ofNat unit, text)
  else if 0xDC00 ≤ unit then none
  else do
    let (low, text) ← readHex 4 0 (← afterWord [backslash, 'u'] text)
    if 0xDC00 ≤ low ∧ low < 0xE000 then
      return (Char.ofNat (0x10000 + (unit - 0xD800) * 0x400 + (low - 0xDC00)), text)
    else none

/-- What a character behind a backslash stands for. -/
def unescape (c : Char) : Option Char :=
  match c with
  | '/' => some '/'
  | 'b' => some (Char.ofNat 0x08)
  | 'f' => some (Char.ofNat 0x0C)
  | 'n' => some (Char.ofNat 0x0A)
  | 'r' => some (Char.ofNat 0x0D)
  | 't' => some (Char.ofNat 0x09)
  | c => if c = quote ∨ c = backslash then some c else none

/-- The character that comes first in a string, escaped or not. -/
def readChar : List Char → Option (Char × List Char)
  | [] => none
  | c :: text =>
    if c = backslash then
      match text with
      | [] => none
      | 'u' :: text => readUnit text
      | c :: text => (unescape c).map fun c => (c, text)
    else if c.toNat < 0x20 then none
    else some (c, text)

/-- The characters up to the closing quote, which are at most so many. -/
def readChars : ℕ → List Char → Option (List Char × List Char)
  | 0, _ => none
  | n + 1, text =>
    if text.head? = some quote then some ([], text.tail)
    else do
      let (c, text) ← readChar text
      let (cs, text) ← readChars n text
      return (c :: cs, text)

def readString (text : List Char) : Option (String × List Char) := do
  let text ← afterWord [quote] text
  let (cs, text) ← readChars (text.length + 1) text
  return (String.ofList cs, text)

/-- A whole number. Those with a fraction or an exponent are not read. -/
def readNumber (text : List Char) : Option (ℤ × List Char) :=
  let minus := text.head? = some '-'
  let text := if minus then text.tail else text
  let digits := text.takeWhile Char.isDigit
  let rest := text.dropWhile Char.isDigit
  if digits = [] ∨ digits.head? = some '0' ∧ digits ≠ ['0'] then none
  else if rest.head? ∈ [some '.', some 'e', some 'E'] then none
  else
    let value : ℤ := Nat.ofDigitChars 10 digits 0
    some (if minus then -value else value, rest)

mutual

/-- A value, of at most so much text. -/
def readValue : ℕ → List Char → Option (Json × List Char)
  | 0, _ => none
  | n + 1, text =>
    let text := skipBlanks text
    match text.head? with
    | some 't' => (afterWord ['t', 'r', 'u', 'e'] text).map fun text => (.bool true, text)
    | some 'f' => (afterWord ['f', 'a', 'l', 's', 'e'] text).map fun text => (.bool false, text)
    | some '[' =>
      let text := skipBlanks text.tail
      if text.head? = some ']' then some (.array [], text.tail)
      else do
        let (items, text) ← readItems n text
        return (.array items, text)
    | some '\x7b' =>
      let text := skipBlanks text.tail
      if text.head? = some '\x7d' then some (.object [], text.tail)
      else do
        let (fields, text) ← readFields n text
        return (.object fields, text)
    | some c =>
      if c = quote then do
        let (text, rest) ← readString text
        return (.string text, rest)
      else do
        let (value, text) ← readNumber text
        return (.number value, text)
    | none => none

/-- The items of an array, of which there is at least one. -/
def readItems : ℕ → List Char → Option (List Json × List Char)
  | 0, _ => none
  | n + 1, text => do
    let (item, text) ← readValue n text
    let text := skipBlanks text
    match text.head? with
    | some ',' => do
      let (items, text) ← readItems n text.tail
      return (item :: items, text)
    | some ']' => return ([item], text.tail)
    | _ => none

def readFields : ℕ → List Char → Option (List (String × Json) × List Char)
  | 0, _ => none
  | n + 1, text => do
    let (name, text) ← readString (skipBlanks text)
    let text ← afterWord [':'] (skipBlanks text)
    let (value, text) ← readValue n text
    let text := skipBlanks text
    match text.head? with
    | some ',' => do
      let (fields, text) ← readFields n text.tail
      return ((name, value) :: fields, text)
    | some '\x7d' => return ([(name, value)], text.tail)
    | _ => none

end

/-- A JSON text: one value, and nothing else. -/
def ofText (text : String) : Option Json := do
  let (value, rest) ← readValue text.toList.length text.toList
  if skipBlanks rest = [] then return value else none

/-! ### Strings -/

@[simp] lemma afterWord_append (word rest : List Char) :
    afterWord word (word ++ rest) = some rest := by
  simp [afterWord]

lemma hexValue_digitChar {n : ℕ} (h : n < 16) : hexValue (Nat.digitChar n) = some n := by
  have hall : ∀ n < 16, hexValue (Nat.digitChar n) = some n := by decide
  exact hall n h

/-- The escape of a control character. -/
lemma readHex_control {n : ℕ} (h : n < 0x20) (rest : List Char) :
    readHex 4 0 ('0' :: '0' :: Nat.digitChar (n / 16) :: Nat.digitChar (n % 16) :: rest) =
      some (n, rest) := by
  have hzero : hexValue '0' = some 0 := rfl
  have hdigits : (0 * 16 + 0) * 16 + 0 = 0 := rfl
  simp [readHex, hzero, hexValue_digitChar (show n / 16 < 16 by omega),
    hexValue_digitChar (show n % 16 < 16 by omega)]
  omega

lemma eq_ofNat_of_toNat_eq {c : Char} {n : ℕ} (h : c.toNat = n) : c = Char.ofNat n := by
  rw [← h, Char.ofNat_toNat]

lemma readChar_jsonEscape (c : Char) (rest : List Char) :
    readChar (jsonEscape c ++ rest) = some (c, rest) := by
  rw [jsonEscape]
  split
  next h => rw [eq_ofNat_of_toNat_eq h]; rfl
  next h => rw [eq_ofNat_of_toNat_eq h]; rfl
  next h => rw [eq_ofNat_of_toNat_eq h]; rfl
  next h => rw [eq_ofNat_of_toNat_eq h]; rfl
  next h => rw [eq_ofNat_of_toNat_eq h]; rfl
  next h => rw [eq_ofNat_of_toNat_eq h]; rfl
  next h => rw [eq_ofNat_of_toNat_eq h]; rfl
  next n _ _ _ _ _ _ hquote =>
    split
    next hcontrol =>
      change readUnit ('0' :: '0' :: Nat.digitChar (c.toNat / 16) ::
        Nat.digitChar (c.toNat % 16) :: rest) = _
      rw [readUnit, readHex_control hcontrol]
      have hunit : c.toNat < 0xD800 ∨ 0xE000 ≤ c.toNat := .inl (by omega)
      simp [hunit, Char.ofNat_toNat]
    next hplain =>
      have hbackslash : c ≠ backslash := by
        rintro rfl
        simp_all [backslash]
      simp [readChar, hbackslash, hplain]

/-- An escape does not close the string. -/
lemma head_jsonEscape (c : Char) (rest : List Char) :
    (jsonEscape c ++ rest).head? ≠ some quote := by
  rw [jsonEscape]
  split
  all_goals try (simp [quote]; done)
  split
  · simp [quote]
  · rintro h
    cases h
    simp_all [quote]

/-- The characters of a string are read up to its closing quote. -/
lemma readChars_jsonEscape (cs rest : List Char) {n : ℕ} (hn : cs.length < n) :
    readChars n (cs.flatMap jsonEscape ++ quote :: rest) = some (cs, rest) := by
  induction cs generalizing n with
  | nil =>
    obtain ⟨n, rfl⟩ := Nat.exists_eq_succ_of_ne_zero (by omega : n ≠ 0)
    simp [readChars]
  | cons c cs ih =>
    obtain ⟨n, rfl⟩ := Nat.exists_eq_succ_of_ne_zero (by omega : n ≠ 0)
    rw [List.length_cons] at hn
    rw [List.flatMap_cons, List.append_assoc, readChars, if_neg (head_jsonEscape c _),
      readChar_jsonEscape]
    simp [ih (show cs.length < n by omega)]

lemma length_le_jsonEscape (cs : List Char) : cs.length ≤ (cs.flatMap jsonEscape).length := by
  induction cs with
  | nil => exact le_rfl
  | cons c cs ih =>
    have hpos : 0 < (jsonEscape c).length := by
      rw [jsonEscape]
      split <;> try split
      all_goals simp
    rw [List.flatMap_cons, List.length_append, List.length_cons]
    omega

lemma toList_jsonString (text : String) :
    (jsonString text).toList = quote :: (text.toList.flatMap jsonEscape ++ [quote]) := by
  simp [jsonString, quote]

lemma readString_jsonString (text : String) (rest : List Char) :
    readString ((jsonString text).toList ++ rest) = some (text, rest) := by
  have hword : afterWord [quote] (quote :: (text.toList.flatMap jsonEscape ++ quote :: rest)) =
      some (text.toList.flatMap jsonEscape ++ quote :: rest) := afterWord_append [quote] _
  have hlength := length_le_jsonEscape text.toList
  rw [toList_jsonString, List.cons_append, List.append_assoc, List.singleton_append, readString,
    hword]
  simp only [Option.bind_eq_bind, Option.bind_some]
  rw [readChars_jsonEscape text.toList rest (by rw [List.length_append]; omega)]
  simp

/-! ### Numbers -/

/-- What stands behind a number does not go on with it. -/
def EndsNumber (rest : List Char) : Prop :=
  ∀ c ∈ rest.head?, c.isDigit = false ∧ c ≠ '.' ∧ c ≠ 'e' ∧ c ≠ 'E'

lemma endsNumber_nil : EndsNumber [] := by simp [EndsNumber]

/-- Only zero begins with the digit zero. -/
lemma head_toDigits {n : ℕ} (h : (Nat.toDigits 10 n).head? = some '0') : n = 0 := by
  induction n using Nat.strong_induction_on with
  | _ n ih =>
    by_cases hn : n < 10
    · rw [Nat.toDigits_of_lt_base hn] at h
      have hall : ∀ n < 10, [Nat.digitChar n].head? = some '0' → n = 0 := by decide
      exact hall n hn h
    · rw [Nat.toDigits_of_base_le (by decide) (by omega),
        List.head?_append_of_ne_nil _ Nat.toDigits_ne_nil] at h
      have := ih (n / 10) (by omega) h
      omega

lemma toDigits_eq_zero {n : ℕ} (h : (Nat.toDigits 10 n).head? = some '0') :
    Nat.toDigits 10 n = ['0'] := by
  rw [head_toDigits h, Nat.toDigits_zero]

lemma span_digits (n : ℕ) {rest : List Char} (hrest : EndsNumber rest) :
    (Nat.toDigits 10 n ++ rest).takeWhile Char.isDigit = Nat.toDigits 10 n ∧
      (Nat.toDigits 10 n ++ rest).dropWhile Char.isDigit = rest := by
  have hdigits : ∀ c ∈ Nat.toDigits 10 n, c.isDigit = true := fun c hc =>
    Nat.isDigit_of_mem_toDigits (by decide) (by decide) hc
  rw [List.takeWhile_append_of_pos hdigits, List.dropWhile_append_of_pos hdigits]
  cases rest with
  | nil => simp
  | cons c rest =>
    have hc := (hrest c rfl).1
    simp [hc]

/-- Digits are read as the number they spell, behind a minus sign or not. -/
lemma readNumber_digits (n : ℕ) {rest : List Char} (hrest : EndsNumber rest) :
    readNumber (Nat.toDigits 10 n ++ rest) = some ((n : ℤ), rest) ∧
      readNumber ('-' :: (Nat.toDigits 10 n ++ rest)) = some (-(n : ℤ), rest) := by
  obtain ⟨htake, hdrop⟩ := span_digits n hrest
  have hzero : ¬(Nat.toDigits 10 n = [] ∨
      (Nat.toDigits 10 n).head? = some '0' ∧ Nat.toDigits 10 n ≠ ['0']) := by
    rintro (h | ⟨h, hne⟩)
    · exact Nat.toDigits_ne_nil h
    · exact hne (toDigits_eq_zero h)
  have hends : rest.head? ∉ [some '.', some 'e', some 'E'] := by
    cases hhead : rest.head? with
    | none => simp
    | some c =>
      have hc := hrest c hhead
      simp [hc.2]
  have hminus : (Nat.toDigits 10 n ++ rest).head? ≠ some '-' := by
    rw [List.head?_append_of_ne_nil _ Nat.toDigits_ne_nil]
    intro h
    have hdigit := Nat.isDigit_of_mem_toDigits (by decide) (by decide) (List.mem_of_head? h)
    exact absurd hdigit (by decide)
  constructor
  · simp only [readNumber, if_neg hminus, htake, hdrop, if_neg hzero, if_neg hends,
      Nat.ofDigitChars_ten_toDigits]
  · simp only [readNumber, List.head?_cons, if_true, List.tail_cons, htake, hdrop, if_neg hzero,
      if_neg hends, Nat.ofDigitChars_ten_toDigits]

lemma readNumber_toString (value : ℤ) {rest : List Char} (hrest : EndsNumber rest) :
    readNumber ((ToString.toString value).toList ++ rest) = some (value, rest) := by
  rw [Int.toString_eq_repr, Int.repr_eq_if]
  by_cases h : 0 ≤ value
  · rw [if_pos h, Nat.toList_repr, (readNumber_digits value.toNat hrest).1,
      Int.toNat_of_nonneg h]
  · rw [if_neg h, String.toList_append, Nat.toList_repr]
    have hneg := (readNumber_digits (-value).toNat hrest).2
    rw [Int.toNat_of_nonneg (by omega), Int.neg_neg] at hneg
    exact hneg

/-! ### Values -/

/-- The first character of a value tells its kind, and is no blank. -/
lemma head_toString (value : ℤ) : ∃ c text, (ToString.toString value).toList = c :: text ∧
    (c = '-' ∨ c.isDigit = true) := by
  rw [Int.toString_eq_repr, Int.repr_eq_if]
  by_cases h : 0 ≤ value
  · rw [if_pos h, Nat.toList_repr]
    obtain ⟨c, text, hdigits⟩ := List.exists_cons_of_ne_nil (Nat.toDigits_ne_nil (b := 10))
    refine ⟨c, text, hdigits, .inr ?_⟩
    exact Nat.isDigit_of_mem_toDigits (by decide) (by decide) (hdigits ▸ List.mem_cons_self)
  · rw [if_neg h, String.toList_append]
    exact ⟨'-', _, rfl, .inl rfl⟩

lemma skipBlanks_cons {c : Char} (h : isBlank c = false) (text : List Char) :
    skipBlanks (c :: text) = c :: text := by
  simp [skipBlanks, h]

lemma readValue_bool (value : Bool) (rest : List Char) (n : ℕ) :
    readValue (n + 1) ((bool value).toText.toList ++ rest) = some (bool value, rest) := by
  cases value with
  | true =>
    change readValue (n + 1) ('t' :: 'r' :: 'u' :: 'e' :: rest) = _
    rw [readValue, skipBlanks_cons (by decide)]
    exact congrArg (Option.map _) (afterWord_append ['t', 'r', 'u', 'e'] rest)
  | false =>
    change readValue (n + 1) ('f' :: 'a' :: 'l' :: 's' :: 'e' :: rest) = _
    rw [readValue, skipBlanks_cons (by decide)]
    exact congrArg (Option.map _) (afterWord_append ['f', 'a', 'l', 's', 'e'] rest)

lemma readValue_number (value : ℤ) {rest : List Char} (hrest : EndsNumber rest) (n : ℕ) :
    readValue (n + 1) ((number value).toText.toList ++ rest) = some (number value, rest) := by
  obtain ⟨c, text, htext, hc⟩ := head_toString value
  have hread := readNumber_toString value hrest
  have hblank : isBlank c = false := by
    rcases hc with rfl | hc
    · decide
    · simp [isBlank]
      refine ⟨⟨⟨?_, ?_⟩, ?_⟩, ?_⟩ <;> rintro rfl <;> exact absurd hc (by decide)
  have hkind : ∀ d : Char, d ≠ '-' → d.isDigit = false → c ≠ d := by
    rintro d hminus hdigit rfl
    rcases hc with rfl | hc
    · exact hminus rfl
    · rw [hdigit] at hc
      cases hc
  rw [toText]
  rw [htext] at hread ⊢
  rw [List.cons_append] at hread ⊢
  rw [readValue, skipBlanks_cons hblank]
  dsimp only [List.head?_cons]
  split
  next h => cases h; exact absurd rfl (hkind 't' (by decide) (by decide))
  next h => cases h; exact absurd rfl (hkind 'f' (by decide) (by decide))
  next h => cases h; exact absurd rfl (hkind '[' (by decide) (by decide))
  next h => cases h; exact absurd rfl (hkind '\x7b' (by decide) (by decide))
  next h =>
    cases h
    rw [if_neg (hkind quote (by decide) (by decide)), hread]
    rfl
  next h => cases h

lemma readValue_string (text : String) (rest : List Char) (n : ℕ) :
    readValue (n + 1) ((string text).toText.toList ++ rest) = some (string text, rest) := by
  have hread := readString_jsonString text rest
  rw [toText]
  rw [toList_jsonString, List.cons_append] at hread ⊢
  rw [readValue, skipBlanks_cons (by decide)]
  change (if quote = quote then _ else _ : Option (Json × List Char)) = _
  rw [if_pos rfl, hread]
  rfl

/-- A comma, and the texts behind it. -/
def commaThen : List String → List Char
  | [] => []
  | text :: texts => ',' :: (",".intercalate (text :: texts)).toList

lemma toList_intercalate_cons (text : String) (texts : List String) :
    (",".intercalate (text :: texts)).toList = text.toList ++ commaThen texts := by
  cases texts with
  | nil => simp [commaThen]
  | cons text' texts => simp [commaThen, String.intercalate_cons_cons]

lemma toList_array (items : List Json) : (array items).toText.toList =
    '[' :: ((",".intercalate (itemTexts items)).toList ++ [']']) := by
  rw [toText, String.toList_append, String.toList_append]
  rfl

lemma toList_object (fields : List (String × Json)) : (object fields).toText.toList =
    '\x7b' :: ((",".intercalate (fieldTexts fields)).toList ++ ['\x7d']) := by
  rw [toText, String.toList_append, String.toList_append]
  rfl

/-- No value has an empty text, and none begins with a blank or a closing bracket. -/
lemma toText_cons (value : Json) : ∃ c text, value.toText.toList = c :: text ∧
    isBlank c = false ∧ c ≠ ']' := by
  cases value with
  | bool value =>
    cases value
    · exact ⟨'f', _, rfl, by decide, by decide⟩
    · exact ⟨'t', _, rfl, by decide, by decide⟩
  | number value =>
    obtain ⟨c, text, htext, hc⟩ := head_toString value
    refine ⟨c, text, by rw [toText, htext], ?_⟩
    rcases hc with rfl | hc
    · decide
    · refine ⟨?_, ?_⟩
      · simp only [isBlank, Bool.or_eq_false_iff, decide_eq_false_iff_not]
        refine ⟨⟨⟨?_, ?_⟩, ?_⟩, ?_⟩ <;> rintro rfl <;> exact absurd hc (by decide)
      · rintro rfl
        exact absurd hc (by decide)
  | string text => exact ⟨quote, _, by rw [toText, toList_jsonString], by decide, by decide⟩
  | array items => exact ⟨'[', _, toList_array items, by decide, by decide⟩
  | object fields => exact ⟨'\x7b', _, toList_object fields, by decide, by decide⟩

lemma endsNumber_cons {c : Char} (h : c.isDigit = false ∧ c ≠ '.' ∧ c ≠ 'e' ∧ c ≠ 'E')
    (text : List Char) : EndsNumber (c :: text) := by
  rintro _ ⟨⟩
  exact h

lemma endsNumber_commaThen {texts : List String} {text : List Char} (h : EndsNumber text) :
    EndsNumber (commaThen texts ++ text) := by
  cases texts with
  | nil => exact h
  | cons text' texts => exact endsNumber_cons (by decide) _

/-- Values of at most `n` characters are read. -/
def ReadsValues (n : ℕ) : Prop :=
  ∀ (value : Json) (rest : List Char), EndsNumber rest → value.toText.toList.length ≤ n →
    readValue n (value.toText.toList ++ rest) = some (value, rest)

/-- The items of an array of fewer characters are read. -/
def ReadsItems (n : ℕ) : Prop :=
  ∀ (item : Json) (items : List Json) (rest : List Char),
    (",".intercalate (itemTexts (item :: items))).toList.length < n →
    readItems n ((",".intercalate (itemTexts (item :: items))).toList ++ ']' :: rest) =
      some (item :: items, rest)

def ReadsFields (n : ℕ) : Prop :=
  ∀ (name : String) (value : Json) (fields : List (String × Json)) (rest : List Char),
    (",".intercalate (fieldTexts ((name, value) :: fields))).toList.length < n →
    readFields n ((",".intercalate (fieldTexts ((name, value) :: fields))).toList ++
      '\x7d' :: rest) = some ((name, value) :: fields, rest)

lemma readValue_array {n : ℕ} (hitems : ReadsItems n) (items : List Json) (rest : List Char)
    (hn : (array items).toText.toList.length ≤ n + 1) :
    readValue (n + 1) ((array items).toText.toList ++ rest) = some (array items, rest) := by
  rw [toList_array, List.length_cons, List.length_append, List.length_singleton] at hn
  rw [toList_array, List.cons_append, List.append_assoc, List.singleton_append, readValue,
    skipBlanks_cons (by decide)]
  dsimp only [List.head?_cons, List.tail_cons]
  cases items with
  | nil =>
    change (if (skipBlanks (']' :: rest)).head? = some ']' then _ else _ :
      Option (Json × List Char)) = _
    rw [skipBlanks_cons (by decide)]
    rfl
  | cons item items =>
    obtain ⟨c, text, htext, hblank, hclose⟩ := toText_cons item
    have hread := hitems item items rest (by omega)
    have hstart : (",".intercalate (itemTexts (item :: items))).toList ++ ']' :: rest =
        c :: (text ++ commaThen (itemTexts items) ++ ']' :: rest) := by
      rw [itemTexts, toList_intercalate_cons, htext]
      simp
    rw [hstart] at hread ⊢
    rw [skipBlanks_cons hblank, if_neg (by simpa using hclose), hread]
    rfl

lemma readValue_object {n : ℕ} (hfields : ReadsFields n) (fields : List (String × Json))
    (rest : List Char) (hn : (object fields).toText.toList.length ≤ n + 1) :
    readValue (n + 1) ((object fields).toText.toList ++ rest) = some (object fields, rest) := by
  rw [toList_object, List.length_cons, List.length_append, List.length_singleton] at hn
  rw [toList_object, List.cons_append, List.append_assoc, List.singleton_append, readValue,
    skipBlanks_cons (by decide)]
  dsimp only [List.head?_cons, List.tail_cons]
  cases fields with
  | nil =>
    change (if (skipBlanks ('\x7d' :: rest)).head? = some '\x7d' then _ else _ :
      Option (Json × List Char)) = _
    rw [skipBlanks_cons (by decide)]
    rfl
  | cons field fields =>
    obtain ⟨name, value⟩ := field
    have hread := hfields name value fields rest (by omega)
    obtain ⟨text, hstart⟩ : ∃ text,
        (",".intercalate (fieldTexts ((name, value) :: fields))).toList ++ '\x7d' :: rest =
          quote :: text := by
      rw [fieldTexts, toList_intercalate_cons, String.toList_append, String.toList_append,
        toList_jsonString]
      exact ⟨_, rfl⟩
    rw [hstart] at hread ⊢
    rw [skipBlanks_cons (by decide), if_neg (by simp [quote]), hread]
    rfl

lemma readsValues_succ {n : ℕ} (hitems : ReadsItems n) (hfields : ReadsFields n) :
    ReadsValues (n + 1) := by
  intro value rest hrest hn
  cases value with
  | bool value => exact readValue_bool value rest n
  | number value => exact readValue_number value hrest n
  | string text => exact readValue_string text rest n
  | array items => exact readValue_array hitems items rest hn
  | object fields => exact readValue_object hfields fields rest hn

lemma readsItems_succ {n : ℕ} (hvalues : ReadsValues n) (hitems : ReadsItems n) :
    ReadsItems (n + 1) := by
  intro item items rest hn
  rw [itemTexts, toList_intercalate_cons, List.length_append] at hn
  rw [itemTexts, toList_intercalate_cons, List.append_assoc, readItems,
    hvalues item _ (endsNumber_commaThen (endsNumber_cons (by decide) _)) (by omega)]
  cases items with
  | nil =>
    simp only [itemTexts, commaThen, List.nil_append, Option.bind_eq_bind, Option.bind_some,
      skipBlanks_cons (show isBlank ']' = false by decide)]
    rfl
  | cons item' items =>
    rw [itemTexts, commaThen, List.length_cons] at hn
    have hread := hitems item' items rest (by rw [itemTexts]; omega)
    rw [itemTexts] at hread ⊢
    simp only [commaThen, List.cons_append, Option.bind_eq_bind, Option.bind_some,
      skipBlanks_cons (show isBlank ',' = false by decide)]
    dsimp only [List.head?_cons, List.tail_cons]
    rw [hread]
    rfl

lemma readsFields_succ {n : ℕ} (hvalues : ReadsValues n) (hfields : ReadsFields n) :
    ReadsFields (n + 1) := by
  intro name value fields rest hn
  have hcolon : ":".toList = [':'] := rfl
  have hword : ∀ text, afterWord [':'] (':' :: text) = some text := afterWord_append [':']
  have hquote : ∀ text, skipBlanks ((jsonString name).toList ++ text) =
      (jsonString name).toList ++ text := by
    intro text
    rw [toList_jsonString]
    exact skipBlanks_cons (by decide) _
  rw [fieldTexts, toList_intercalate_cons, String.toList_append, String.toList_append, hcolon] at hn ⊢
  simp only [List.append_assoc, List.length_append] at hn ⊢
  rw [readFields, hquote, readString_jsonString]
  simp only [Option.bind_eq_bind, Option.bind_some, List.singleton_append,
    skipBlanks_cons (show isBlank ':' = false by decide)]
  rw [hword, Option.bind_some,
    hvalues value _ (endsNumber_commaThen (endsNumber_cons (by decide) _)) (by omega)]
  cases fields with
  | nil =>
    simp only [fieldTexts, commaThen, List.nil_append, Option.bind_some,
      skipBlanks_cons (show isBlank '\x7d' = false by decide)]
    rfl
  | cons field fields =>
    obtain ⟨name', value'⟩ := field
    rw [fieldTexts, commaThen] at hn
    simp only [List.length_cons] at hn
    have hread := hfields name' value' fields rest (by rw [fieldTexts]; omega)
    rw [fieldTexts] at hread ⊢
    simp only [commaThen, List.cons_append, Option.bind_some,
      skipBlanks_cons (show isBlank ',' = false by decide)]
    dsimp only [List.head?_cons, List.tail_cons]
    rw [hread]
    rfl

/-- The three readers call each other with one less. -/
lemma readers_read (n : ℕ) : ReadsValues n ∧ ReadsItems n ∧ ReadsFields n := by
  induction n with
  | zero =>
    refine ⟨fun value rest _ hn => ?_, fun item items rest hn => ?_,
      fun name value fields rest hn => ?_⟩
    · obtain ⟨c, text, htext, -⟩ := toText_cons value
      rw [htext, List.length_cons] at hn
      omega
    · omega
    · omega
  | succ n ih =>
    obtain ⟨hvalues, hitems, hfields⟩ := ih
    exact ⟨readsValues_succ hitems hfields, readsItems_succ hvalues hitems,
      readsFields_succ hvalues hfields⟩

/-- The text of a value is a JSON text, and it is read as that value. -/
theorem ofText_toText (value : Json) : ofText value.toText = some value := by
  have hread := (readers_read _).1 value [] endsNumber_nil (Nat.le_refl _)
  rw [List.append_nil] at hread
  rw [ofText, hread]
  rfl

/-- Different values have different texts. -/
theorem toText_injective : Function.Injective toText := by
  intro value value' h
  have hread := congrArg ofText h
  rw [ofText_toText, ofText_toText] at hread
  exact Option.some.inj hread

end Json

end TransferGateway
