import TransferGateway.Std

/-!
# The text of an address

`str::parse::<IpAddr>()` and `str::parse::<u8>()` of the standard library: a dotted IPv4 address, or
the eight groups of an IPv6 address, with one run of zeros left out and an IPv4 address at the end.
-/

namespace TransferGateway

/-- A reader of the front of a text; a reader that fails reads nothing. -/
abbrev AddrReader := StateT (List Char) Option

namespace AddrReader

/-- `char::to_digit`. -/
def toDigit (radix : ℕ) (c : Char) : Option ℕ :=
  let value :=
    if c.isDigit then some (c.toNat - '0'.toNat)
    else if c.isLower then some (c.toNat - 'a'.toNat + 10)
    else if c.isUpper then some (c.toNat - 'A'.toNat + 10)
    else none
  value.filter (· < radix)

def readGivenChar (c : Char) : AddrReader Unit
  | d :: text => if d = c then some ((), text) else none
  | [] => none

/-- `read_number` to a type with `bound` values. -/
def readNumber (radix maxDigits : ℕ) (allowZeroPrefix : Bool) (bound : ℕ) : AddrReader ℕ :=
  fun text =>
    let digits := text.takeWhile fun c => (toDigit radix c).isSome
    let result := digits.foldl (fun n c => radix * n + (toDigit radix c).getD 0) 0
    let hasLeadingZero := digits.head? = some '0'
    if digits.length > maxDigits || digits.isEmpty ||
        (!allowZeroPrefix && hasLeadingZero && digits.length > 1) || result ≥ bound then none
    else some (result, text.dropWhile fun c => (toDigit radix c).isSome)

/-- The item at `index`, behind a separator unless it is the first. -/
def readSeparator {α : Type} (sep : Char) (index : ℕ) (inner : AddrReader α) : AddrReader α :=
  if index > 0 then readGivenChar sep >>= fun _ => inner else inner

def readIpv4Addr : AddrReader (BitVec 32) := do
  let octet := fun index => readSeparator '.' index (readNumber 10 3 false (2 ^ 8))
  let one ← octet 0
  let two ← octet 1
  let three ← octet 2
  let four ← octet 3
  return (.ofNat 8 one : BitVec 8) ++ (.ofNat 8 two : BitVec 8) ++
    (.ofNat 8 three : BitVec 8) ++ (.ofNat 8 four : BitVec 8)

/-- The loop of `read_groups` from `index` on, with `n` groups left of `limit`: the groups, and
whether an IPv4 address ended them. It does not fail. -/
def readGroups (limit : ℕ) : (n index : ℕ) → AddrReader (List (BitVec 16) × Bool)
  | 0, _ => pure ([], false)
  | n + 1, index =>
    (do
      if index < limit - 1 then
        let v4 ← readSeparator ':' index readIpv4Addr
        return ([v4.extractLsb' 16 16, v4.extractLsb' 0 16], true)
      else failure) <|>
    (do
      let group ← readSeparator ':' index (readNumber 16 4 true (2 ^ 16))
      let (groups, ipv4) ← readGroups limit n (index + 1)
      return (.ofNat 16 group :: groups, ipv4)) <|>
    pure ([], false)

/-- The address of eight groups. -/
def ofGroups (groups : List (BitVec 16)) : BitVec 128 :=
  groups.foldl (fun bits group => bits <<< 16 ||| group.setWidth 128) 0

def readIpv6Addr : AddrReader (BitVec 128) := do
  let (head, headIpv4) ← readGroups 8 8 0
  if head.length = 8 then return ofGroups head
  else if headIpv4 then failure
  else do
    readGivenChar ':'
    readGivenChar ':'
    let limit := 8 - (head.length + 1)
    let (tail, _) ← readGroups limit limit 0
    return ofGroups (head ++ List.replicate (8 - tail.length - head.length) 0 ++ tail)

def readIpAddr : AddrReader IpAddr :=
  IpAddr.v4 <$> readIpv4Addr <|> IpAddr.v6 <$> readIpv6Addr

/-- `str::parse::<IpAddr>()`. -/
def parseIpAddr (text : String) : Option IpAddr :=
  match readIpAddr text.toList with
  | some (ip, []) => some ip
  | _ => none

/-- `str::parse::<u8>()`: decimal digits behind an optional `+`. -/
def parseU8 (text : String) : Option UInt8 := do
  let digits := (stripFirst text '+').getD text
  let n ← decimal digits.toList
  if n < 256 then some n.toUInt8 else none

end AddrReader

/-- The parsers of the standard library. -/
@[reducible] def stdParse : StdParse where
  ipAddr := AddrReader.parseIpAddr
  u8 := AddrReader.parseU8

example : stdParse.ipAddr "192.0.2.7" = some (.v4 0xc0000207#32) := by decide +kernel

example : stdParse.ipAddr "2001:db8::8:192.0.2.7" =
    some (.v6 0x20010db80000000000000008c0000207#128) := by decide +kernel

/-! ### The characters of an address -/

namespace AddrReader

variable {α β : Type}

/-- What the reader takes has no slash. -/
def Slashless (p : AddrReader α) : Prop :=
  ∀ text a rest, p text = some (a, rest) → ∃ front, text = front ++ rest ∧ '/' ∉ front

lemma slashless_pure (a : α) : Slashless (pure a) := by
  intro text b rest h
  cases h
  exact ⟨[], rfl, List.not_mem_nil⟩

lemma slashless_failure : Slashless (failure : AddrReader α) := by
  intro text a rest h
  cases h

lemma Slashless.bind {p : AddrReader α} {f : α → AddrReader β} (hp : Slashless p)
    (hf : ∀ a, Slashless (f a)) : Slashless (p >>= f) := by
  intro text b rest h
  obtain ⟨⟨a, text'⟩, hpa, hfb⟩ := Option.bind_eq_some_iff.mp h
  obtain ⟨front, rfl, hfront⟩ := hp _ _ _ hpa
  obtain ⟨front', rfl, hfront'⟩ := hf a _ _ _ hfb
  exact ⟨front ++ front', (List.append_assoc ..).symm, by simp [hfront, hfront']⟩

lemma Slashless.orElse {p q : AddrReader α} (hp : Slashless p) (hq : Slashless q) :
    Slashless (p <|> q) := by
  intro text a rest h
  cases hpt : p text with
  | some r =>
    have hr : (p <|> q) text = some r := by
      change (p text <|> q text) = _
      rw [hpt]
      rfl
    rw [hr] at h
    exact hp _ _ _ (hpt.trans h)
  | none =>
    have hr : (p <|> q) text = q text := by
      change (p text <|> q text) = _
      rw [hpt]
      rfl
    exact hq _ _ _ (hr ▸ h)

lemma slashless_readGivenChar {c : Char} (hc : c ≠ '/') : Slashless (readGivenChar c) := by
  intro text a rest h
  cases text with
  | nil => cases h
  | cons d text =>
    rw [readGivenChar] at h
    split_ifs at h with hd
    cases h
    exact ⟨[d], rfl, by simpa [hd] using hc.symm⟩

lemma slashless_readNumber (radix maxDigits : ℕ) (allowZeroPrefix : Bool) (bound : ℕ) :
    Slashless (readNumber radix maxDigits allowZeroPrefix bound) := by
  intro text a rest h
  simp only [readNumber] at h
  split_ifs at h
  cases h
  refine ⟨_, (List.takeWhile_append_dropWhile ..).symm, fun hmem => ?_⟩
  have hdigit := List.mem_takeWhile_imp hmem
  have hslash : toDigit radix '/' = none := by simp [toDigit]
  simp [hslash] at hdigit

lemma Slashless.readSeparator {p : AddrReader α} (hp : Slashless p) {sep : Char}
    (hsep : sep ≠ '/') (index : ℕ) : Slashless (readSeparator sep index p) := by
  rw [AddrReader.readSeparator]
  split_ifs
  · exact (slashless_readGivenChar hsep).bind fun _ => hp
  · exact hp

lemma slashless_readIpv4Addr : Slashless readIpv4Addr := by
  have hoctet : ∀ index, Slashless (readSeparator '.' index (readNumber 10 3 false (2 ^ 8))) :=
    fun index => (slashless_readNumber 10 3 false (2 ^ 8)).readSeparator (by decide) index
  exact (hoctet 0).bind fun _ => (hoctet 1).bind fun _ => (hoctet 2).bind fun _ =>
    (hoctet 3).bind fun _ => slashless_pure _

lemma slashless_readGroups (limit n index : ℕ) : Slashless (readGroups limit n index) := by
  induction n generalizing index with
  | zero => exact slashless_pure _
  | succ n ih =>
    rw [readGroups]
    refine .orElse ?_ (.orElse ?_ (slashless_pure _))
    · split_ifs
      · exact (slashless_readIpv4Addr.readSeparator (by decide) index).bind fun _ =>
          slashless_pure _
      · exact slashless_failure
    · have hgroup := slashless_readNumber 16 4 true (2 ^ 16)
      exact (hgroup.readSeparator (by decide) index).bind fun _ =>
        (ih _).bind fun _ => slashless_pure _

lemma slashless_readIpv6Addr : Slashless readIpv6Addr := by
  refine (slashless_readGroups 8 8 0).bind fun head => ?_
  obtain ⟨head, headIpv4⟩ := head
  dsimp only
  split_ifs
  · exact slashless_pure _
  · exact slashless_failure
  · have hcolon : Slashless (readGivenChar ':') := slashless_readGivenChar (by decide)
    have htail := fun limit => slashless_readGroups limit limit 0
    exact hcolon.bind fun _ => hcolon.bind fun _ => (htail _).bind fun _ => slashless_pure _

lemma slashless_readIpAddr : Slashless readIpAddr := by
  have hmap : ∀ {α β : Type} (f : α → β) {p : AddrReader α}, Slashless p → Slashless (f <$> p) := by
    intro α β f p hp
    rw [map_eq_pure_bind]
    exact hp.bind fun _ => slashless_pure _
  exact (hmap _ slashless_readIpv4Addr).orElse (hmap _ slashless_readIpv6Addr)

/-- An address has no slash. -/
lemma parseIpAddr_of_slash {text : String} (h : '/' ∈ text.toList) : parseIpAddr text = none := by
  unfold parseIpAddr
  split
  next ip hread =>
    obtain ⟨front, htext, hfront⟩ := slashless_readIpAddr _ _ _ hread
    rw [htext, List.append_nil] at h
    exact absurd h hfront
  next => rfl

end AddrReader

end TransferGateway
