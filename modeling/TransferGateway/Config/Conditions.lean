import TransferGateway.Config.Selection
import TransferGateway.Config.Vhosts

/-!
# What the conditions of a rule ask for

A list condition is read as a statement about the values in its two lists: which of them ask for
something, which exclude something, and what they say about the attribute they are compared with.
The loops of the matchers compute that statement, whatever the order of the values.
-/

namespace TransferGateway

/-! ### Values -/

/-- `value` is `!excluded`. -/
def Bang (excluded value : String) : Prop :=
  excluded ≠ "" ∧ value = "!" ++ excluded

/-- The value says what it asks for; a lone `!` does. -/
def Plain (value : String) : Prop :=
  ∀ excluded, ¬Bang excluded value

lemma bangNegation_eq_some {value excluded : String} :
    bangNegation value = some excluded ↔ Bang excluded value := by
  have hstrip : stripFirst value '!' = some excluded ↔ value = "!" ++ excluded := by
    rw [stripFirst]
    constructor
    · intro h
      split at h
      · cases h
      · rename_i d rest hvalue
        split at h
        · rename_i hd
          cases h
          apply String.toList_injective
          simp [hvalue, hd]
        · cases h
    · rintro rfl
      simp
  simp only [bangNegation, Option.filter_eq_some_iff, hstrip, Bang, decide_eq_true_eq]
  exact and_comm

lemma bangNegation_eq_none {value : String} : bangNegation value = none ↔ Plain value := by
  simp only [Option.eq_none_iff_forall_ne_some, ne_eq, bangNegation_eq_some, Plain]

lemma matcherValue_eq_iff {value excluded : String} :
    matcherValue value = excluded ↔ Bang excluded value ∨ Plain value ∧ excluded = value := by
  rw [← bangNegation_eq_none, ← bangNegation_eq_some, matcherValue]
  cases bangNegation value <;> simp [eq_comm]

/-- What the two lists exclude: `!value` in either of them, and the plain values of the second. -/
def Excluded (positive negative : List String) (excluded : String) : Prop :=
  (∃ value ∈ positive ++ negative, Bang excluded value) ∨ excluded ∈ negative ∧ Plain excluded

/-! ### List conditions -/

/-- A condition on an attribute, which may be unknown. -/
structure ListHolds (accepts : String → String → Prop) (positive negative : List String)
    (actual : Option String) : Prop where
  asked : (∀ value ∈ positive, ¬Plain value) ∨
    ∃ a ∈ actual, ∃ value ∈ positive, Plain value ∧ accepts value a
  spared : ∀ a ∈ actual, ∀ value, Excluded positive negative value → ¬accepts value a

section ListHolds

variable {accepts : String → String → Prop} {P N P' N' : List String} {actual : Option String}

lemma any_plain_iff {accepts : String → String → Bool} {a : String} :
    (P.any fun value => (bangNegation value).isNone && accepts value a) = true ↔
      ∃ value ∈ P, Plain value ∧ accepts value a = true := by
  simp only [List.any_eq_true, Bool.and_eq_true, Option.isNone_iff_eq_none, bangNegation_eq_none]

lemma any_isNone_eq_false_iff :
    (P.any fun value => (bangNegation value).isNone) = false ↔ ∀ value ∈ P, ¬Plain value := by
  simp only [List.any_eq_false, Option.isNone_iff_eq_none, bangNegation_eq_none]

/-- The values of the second list are excluded with their `!` and without it. -/
lemma any_excluded_iff {accepts : String → String → Bool} {a : String} :
    ((N.any fun value => accepts (matcherValue value) a) ||
      (P.filterMap bangNegation).any fun value => accepts value a) = true ↔
      ∃ value, Excluded P N value ∧ accepts value a = true := by
  simp only [Bool.or_eq_true, List.any_eq_true, List.mem_filterMap, bangNegation_eq_some]
  constructor
  · rintro (⟨value, hmem, haccepts⟩ | ⟨excluded, ⟨value, hmem, hbang⟩, haccepts⟩)
    · refine ⟨matcherValue value, ?_, haccepts⟩
      rcases matcherValue_eq_iff.mp rfl with hbang | ⟨hplain, heq⟩
      · exact .inl ⟨value, List.mem_append_right _ hmem, hbang⟩
      · rw [heq]
        exact .inr ⟨hmem, hplain⟩
    · exact ⟨excluded, .inl ⟨value, List.mem_append_left _ hmem, hbang⟩, haccepts⟩
  · rintro ⟨excluded, ⟨value, hmem, hbang⟩ | ⟨hmem, hplain⟩, haccepts⟩
    · rcases List.mem_append.mp hmem with hmem | hmem
      · exact .inr ⟨excluded, ⟨value, hmem, hbang⟩, haccepts⟩
      · rw [← matcherValue_eq_iff.mpr (.inl hbang)] at haccepts
        exact .inl ⟨value, hmem, haccepts⟩
    · rw [← matcherValue_eq_iff.mpr (.inr ⟨hplain, rfl⟩)] at haccepts
      exact .inl ⟨excluded, hmem, haccepts⟩

lemma matchesList_iff {accepts : String → String → Bool} :
    matchesList accepts P N actual = true ↔
      ListHolds (fun value a => accepts value a = true) P N actual := by
  simp only [matchesList, Bool.and_eq_true, Bool.or_eq_true, Bool.not_eq_true',
    any_isNone_eq_false_iff]
  cases actual with
  | none =>
    constructor
    · rintro ⟨hasked, -⟩
      exact ⟨hasked.imp_right (by simp), by simp⟩
    · rintro ⟨hasked, -⟩
      exact ⟨hasked.imp_right (by simp), rfl⟩
  | some a =>
    rw [Option.any_some, Option.any_some, any_plain_iff, Bool.eq_false_iff, ne_eq, any_excluded_iff]
    constructor
    · rintro ⟨hasked, hspared⟩
      refine ⟨hasked.imp_right fun h => ⟨a, rfl, h⟩, ?_⟩
      rintro _ ⟨⟩ value hexcluded haccepts
      exact hspared ⟨value, hexcluded, haccepts⟩
    · rintro ⟨hasked, hspared⟩
      refine ⟨hasked.imp_right ?_, ?_⟩
      · rintro ⟨_, ⟨⟩, h⟩
        exact h
      · rintro ⟨value, hexcluded, haccepts⟩
        exact hspared a rfl value hexcluded haccepts

/-- A matcher may prepare the attribute first. -/
lemma listHolds_map (f : String → String) :
    ListHolds accepts P N (actual.map f) ↔
      ListHolds (fun value a => accepts value (f a)) P N actual := by
  cases actual with
  | none =>
    constructor
    · exact fun h => ⟨h.asked.imp_right (by simp), by simp⟩
    · exact fun h => ⟨h.asked.imp_right (by simp), by simp⟩
  | some a =>
    constructor
    · rintro ⟨hasked, hspared⟩
      exact ⟨by simpa using hasked, by simpa using hspared⟩
    · rintro ⟨hasked, hspared⟩
      exact ⟨by simpa using hasked, by simpa using hspared⟩

lemma excluded_congr (hP : ∀ value, value ∈ P ↔ value ∈ P') (hN : ∀ value, value ∈ N ↔ value ∈ N')
    (excluded : String) : Excluded P N excluded ↔ Excluded P' N' excluded := by
  simp only [Excluded, List.mem_append, hP, hN]

/-- Values that ask for the same and exclude the same make the same condition. -/
lemma listHolds_congr (hplain : ∀ value, Plain value → (value ∈ P ↔ value ∈ P'))
    (hexcluded : ∀ value, Excluded P N value ↔ Excluded P' N' value) :
    ListHolds accepts P N actual ↔ ListHolds accepts P' N' actual := by
  have hnone : (∀ value ∈ P, ¬Plain value) ↔ ∀ value ∈ P', ¬Plain value := by
    apply forall_congr'
    intro value
    constructor
    · exact fun h hmem hp => h ((hplain value hp).mpr hmem) hp
    · exact fun h hmem hp => h ((hplain value hp).mp hmem) hp
  have hsome : ∀ a, (∃ value ∈ P, Plain value ∧ accepts value a) ↔
      ∃ value ∈ P', Plain value ∧ accepts value a := by
    refine fun a => exists_congr fun value => ?_
    constructor
    · exact fun h => ⟨(hplain value h.2.1).mp h.1, h.2⟩
    · exact fun h => ⟨(hplain value h.2.1).mpr h.1, h.2⟩
  constructor
  · rintro ⟨hasked, hspared⟩
    simp only [hnone, hsome, hexcluded] at hasked hspared
    exact ⟨hasked, hspared⟩
  · rintro ⟨hasked, hspared⟩
    simp only [← hnone, ← hsome, ← hexcluded] at hasked hspared
    exact ⟨hasked, hspared⟩

/-- Without some of the exclusions the condition still holds. -/
lemma ListHolds.mono (h : ListHolds accepts P N actual)
    (hplain : ∀ value, Plain value → (value ∈ P' ↔ value ∈ P))
    (hexcluded : ∀ value, Excluded P' N' value → Excluded P N value) :
    ListHolds accepts P' N' actual := by
  refine ⟨?_, fun a ha value hvalue => h.spared a ha value (hexcluded value hvalue)⟩
  rcases h.asked with hnone | ⟨a, ha, value, hmem, hp, haccepts⟩
  · exact .inl fun value hmem hp => hnone value ((hplain value hp).mp hmem) hp
  · exact .inr ⟨a, ha, value, (hplain value hp).mpr hmem, hp, haccepts⟩

/-- With more to ask for the condition still holds, if it asked for something before. -/
lemma ListHolds.widen (h : ListHolds accepts P N actual) {value : String} (hvalue : value ∈ P)
    (hp : Plain value) (hsub : P ⊆ P')
    (hexcluded : ∀ value, Excluded P' N value → Excluded P N value) :
    ListHolds accepts P' N actual := by
  refine ⟨.inr ?_, fun a ha value hvalue => h.spared a ha value (hexcluded value hvalue)⟩
  rcases h.asked with hnone | ⟨a, ha, value, hmem, hplain, haccepts⟩
  · exact absurd hp (hnone value hvalue)
  · exact ⟨a, ha, value, hsub hmem, hplain, haccepts⟩

end ListHolds

/-! ### The conditions of a rule -/

/-- The six conditions on lists. -/
inductive Condition where
  | hosts
  | countries
  | provinces
  | cities
  | ispContains
  | players
  deriving DecidableEq

namespace Condition

def positive : Condition → RouteRule → List String
  | hosts => RouteRule.hosts
  | countries => RouteRule.countries
  | provinces => RouteRule.provinces
  | cities => RouteRule.cities
  | ispContains => RouteRule.ispContains
  | players => RouteRule.players

def negative : Condition → RouteRule → List String
  | hosts => RouteRule.notHosts
  | countries => RouteRule.notCountries
  | provinces => RouteRule.notProvinces
  | cities => RouteRule.notCities
  | ispContains => RouteRule.notIspContains
  | players => RouteRule.notPlayers

/-- The rule with other lists for one condition. -/
def update (k : Condition) (rule : RouteRule) (P N : List String) : RouteRule :=
  match k with
  | hosts => { rule with hosts := P, notHosts := N }
  | countries => { rule with countries := P, notCountries := N }
  | provinces => { rule with provinces := P, notProvinces := N }
  | cities => { rule with cities := P, notCities := N }
  | ispContains => { rule with ispContains := P, notIspContains := N }
  | players => { rule with players := P, notPlayers := N }

/-- What the condition is about. -/
def subject (k : Condition) (location : IpLocation) (player requestHost : Option String) :
    Option String :=
  match k with
  | hosts => requestHost
  | countries => location.countryCode
  | provinces => location.province
  | cities => location.city
  | ispContains => location.isp
  | players => player

/-- A value matches an attribute: as a host, as a part of a provider's name, or as a text. -/
def Accepts [StdCase] (k : Condition) (value actual : String) : Prop :=
  match k with
  | hosts => SameHost value actual
  | ispContains =>
    (StdCase.toLowercase value).toList <:+: (StdCase.toLowercase actual).toList
  | _ => eqIgnoreAsciiCase value actual = true

/-- The condition on an attribute. One on players, if there is one, needs a known player. -/
def Holds [StdCase] (k : Condition) (positive negative : List String) (actual : Option String) :
    Prop :=
  ListHolds k.Accepts positive negative actual ∧
    (k = players → positive ++ negative ≠ [] → actual ≠ none)

end Condition

/-- A condition on one of the answers of the block lists. -/
def FlagHolds (expected : Option Bool) (negated actual : Bool) : Prop :=
  (∀ answer ∈ expected, actual = answer) ∧ (negated = true → actual = false)

lemma matchesBool_iff {expected : Option Bool} {negated actual : Bool} :
    matchesBool expected negated actual = true ↔ FlagHolds expected negated actual := by
  rw [matchesBool, FlagHolds]
  cases expected <;> cases negated <;> cases actual <;> simp

/-- The conditions on the answers of the block lists; without the lists there may be none. -/
def RouteRule.FlagsHold [StdCase] (rule : RouteRule) (location : IpLocation) :
    Option Security → Prop
  | some security =>
    FlagHolds rule.vpn rule.notVpn (security.matchesVpn location) ∧
      FlagHolds rule.spam rule.notSpam (security.matchesSpam location) ∧
      FlagHolds rule.tor rule.notTor (security.matchesTor location)
  | none =>
    (rule.vpn = none ∧ rule.notVpn = false) ∧ (rule.spam = none ∧ rule.notSpam = false) ∧
      rule.tor = none ∧ rule.notTor = false

/-! ### The matchers -/

lemma containsText_iff {text needle : String} :
    containsText text needle = true ↔ needle.toList <:+: text.toList := by
  simp only [containsText, List.any_eq_true, List.mem_tails, List.isPrefixOf_iff_prefix,
    List.infix_iff_prefix_suffix]
  exact exists_congr fun _ => and_comm

section Matches

variable {P N : List String} {actual : Option String}

lemma matchesTextList_iff : matchesTextList P N actual = true ↔
    ListHolds (fun value a => eqIgnoreAsciiCase value a = true) P N actual :=
  matchesList_iff

lemma matchesHostList_iff : matchesHostList P N actual = true ↔ ListHolds SameHost P N actual := by
  rw [matchesHostList, matchesList_iff, listHolds_map]
  rfl

variable [StdCase]

lemma matchesContainsList_iff : matchesContainsList P N actual = true ↔
    ListHolds Condition.ispContains.Accepts P N actual := by
  simp only [matchesContainsList, matchesList_iff, listHolds_map, containsText_iff]
  rfl

lemma RouteRule.matchesPlayer_iff {rule : RouteRule} {player : Option String} :
    rule.matchesPlayer player = true ↔
      Condition.players.Holds rule.players rule.notPlayers player := by
  rw [matchesPlayer, Condition.Holds]
  split
  · rename_i hempty
    simp only [Bool.and_eq_true, List.isEmpty_iff] at hempty
    simp only [hempty, List.append_nil, ne_eq, not_true_eq_false, false_imp_iff, implies_true,
      and_true, true_iff]
    exact ⟨by simp, by simp [Excluded]⟩
  · rename_i hempty
    have hne : rule.players ++ rule.notPlayers ≠ [] := by simpa using hempty
    cases player with
    | none => simp [hne]
    | some player =>
      rw [Option.any_some, matchesTextList_iff]
      exact (and_iff_left (by simp)).symm

lemma RouteRule.matchesSecurity_iff {rule : RouteRule} {location : IpLocation}
    {security : Option Security} :
    rule.matchesSecurity location security = true ↔ rule.FlagsHold location security := by
  rw [matchesSecurity]
  split
  · rename_i hunflagged
    simp only [Bool.and_eq_true, Option.isNone_iff_eq_none, Bool.not_eq_true'] at hunflagged
    cases security <;> simp [FlagsHold, FlagHolds, hunflagged]
  · rename_i hflagged
    cases security with
    | none => simpa [FlagsHold, and_assoc] using hflagged
    | some security =>
      simp only [Option.any_some, Bool.and_eq_true, matchesBool_iff, FlagsHold, and_assoc]

/-- A rule matches when all its conditions hold. -/
lemma RouteRule.matches_iff {rule : RouteRule} {location : IpLocation}
    {player requestHost : Option String} {security : Option Security} :
    rule.matches location player requestHost security = true ↔
      (∀ k : Condition, k.Holds (k.positive rule) (k.negative rule)
        (k.subject location player requestHost)) ∧ rule.FlagsHold location security := by
  have hall : ∀ {p : Condition → Prop}, (∀ k, p k) ↔
      p .hosts ∧ p .countries ∧ p .provinces ∧ p .cities ∧ p .ispContains ∧ p .players := by
    intro p
    constructor
    · exact fun h => ⟨h _, h _, h _, h _, h _, h _⟩
    · rintro ⟨hhosts, hcountries, hprovinces, hcities, hisp, hplayers⟩ k
      cases k <;> assumption
  have hlist : ∀ {k : Condition} {P N : List String} {actual : Option String}, k ≠ .players →
      (k.Holds P N actual ↔ ListHolds k.Accepts P N actual) :=
    fun hk => and_iff_left fun h => absurd h hk
  simp only [RouteRule.matches, Bool.and_eq_true, matchesTextList_iff, matchesHostList_iff,
    matchesContainsList_iff, matchesPlayer_iff, matchesSecurity_iff, hall, and_assoc]
  simp only [ne_eq, reduceCtorEq, not_false_eq_true, hlist]
  rfl

end Matches

/-! ### Changes to the lists -/

/-- The rules have the same values in each list, in any order and any number, and the same
conditions on the block lists. -/
structure RouteRule.SameValues (rule rule' : RouteRule) : Prop where
  positive : ∀ (k : Condition) (value : String), value ∈ k.positive rule ↔ value ∈ k.positive rule'
  negative : ∀ (k : Condition) (value : String), value ∈ k.negative rule ↔ value ∈ k.negative rule'
  vpn : rule.vpn = rule'.vpn ∧ rule.notVpn = rule'.notVpn
  spam : rule.spam = rule'.spam ∧ rule.notSpam = rule'.notSpam
  tor : rule.tor = rule'.tor ∧ rule.notTor = rule'.notTor

section Changes

variable [StdCase] {k : Condition} {P N P' N' : List String} {actual : Option String}

lemma Condition.holds_congr (hP : ∀ value, value ∈ P ↔ value ∈ P')
    (hN : ∀ value, value ∈ N ↔ value ∈ N') : k.Holds P N actual ↔ k.Holds P' N' actual := by
  have hempty : P ++ N = [] ↔ P' ++ N' = [] := by
    simp only [List.eq_nil_iff_forall_not_mem, List.mem_append, hP, hN]
  rw [Holds, Holds, ne_eq, hempty,
    listHolds_congr (fun value _ => hP value) (excluded_congr hP hN)]

/-- An exclusion counts in either list. -/
lemma Condition.holds_move {excluded value : String} (hbang : Bang excluded value)
    (front back front' back' : List String) :
    k.Holds (front ++ value :: back) (front' ++ back') actual ↔
      k.Holds (front ++ back) (front' ++ value :: back') actual := by
  have hne : ∀ other, Plain other → other ≠ value := by
    rintro other hplain rfl
    exact hplain excluded hbang
  have hplain : ∀ other, Plain other → (other ∈ front ++ value :: back ↔ other ∈ front ++ back) := by
    intro other hother
    simp [hne other hother]
  have hexcluded : ∀ other, Excluded (front ++ value :: back) (front' ++ back') other ↔
      Excluded (front ++ back) (front' ++ value :: back') other := by
    intro other
    have hplain' : other ∈ front' ++ back' ∧ Plain other ↔
        other ∈ front' ++ value :: back' ∧ Plain other := by
      apply and_congr_left
      intro hother
      simp [hne other hother]
    rw [Excluded, Excluded, hplain']
    refine or_congr_left (exists_congr fun v => and_congr_left fun _ => ?_)
    simp only [List.mem_append, List.mem_cons]
    tauto
  rw [Holds, Holds, listHolds_congr hplain hexcluded]
  simp

/-- A condition that holds does so with an exclusion less. -/
lemma Condition.Holds.of_insert_negative {front back : List String} {value : String}
    (h : k.Holds P (front ++ value :: back) actual) : k.Holds P (front ++ back) actual := by
  have hsub : front ++ back ⊆ front ++ value :: back :=
    List.append_subset.mpr ⟨by simp, by simp⟩
  refine ⟨h.1.mono (fun _ _ => Iff.rfl) ?_, fun hk _ => h.2 hk (by simp)⟩
  rintro other (⟨v, hmem, hbang⟩ | ⟨hmem, hplain⟩)
  · refine .inl ⟨v, ?_, hbang⟩
    exact (List.mem_append.mp hmem).elim (List.mem_append_left _)
      fun h => List.mem_append_right _ (hsub h)
  · exact .inr ⟨hsub hmem, hplain⟩

lemma Condition.Holds.of_insert_bang {front back : List String} {excluded value : String}
    (hbang : Bang excluded value) (h : k.Holds (front ++ value :: back) N actual) :
    k.Holds (front ++ back) N actual := by
  have h' : k.Holds (front ++ back) ([] ++ value :: N) actual :=
    (holds_move hbang front back [] N).mp h
  exact h'.of_insert_negative

/-- A condition that asks for something holds with one more value to ask for. -/
lemma Condition.Holds.insert_plain {front back : List String} {value other : String}
    (hvalue : Plain value) (hmem : other ∈ front ++ back) (hother : Plain other)
    (h : k.Holds (front ++ back) N actual) : k.Holds (front ++ value :: back) N actual := by
  have hsub : front ++ back ⊆ front ++ value :: back :=
    List.append_subset.mpr ⟨by simp, by simp⟩
  refine ⟨h.1.widen hmem hother hsub ?_, fun hk _ => h.2 hk ?_⟩
  · rintro w (⟨v, hv, hbang⟩ | hplain)
    · have hne : v ≠ value := fun heq => hvalue w (heq ▸ hbang)
      exact .inl ⟨v, by simpa [hne] using hv, hbang⟩
    · exact .inr hplain
  · exact List.ne_nil_of_mem (List.mem_append_left _ hmem)

end Changes

namespace RouteRule

variable [StdCase]

/-- The verdict on a rule whose lists for one condition are given. -/
lemma matches_update_iff (k : Condition) (rule : RouteRule) (P N : List String)
    {location : IpLocation} {player requestHost : Option String} {security : Option Security} :
    (k.update rule P N).matches location player requestHost security = true ↔
      k.Holds P N (k.subject location player requestHost) ∧
        (∀ k' ≠ k, k'.Holds (k'.positive rule) (k'.negative rule)
          (k'.subject location player requestHost)) ∧ rule.FlagsHold location security := by
  have hpositive : k.positive (k.update rule P N) = P := by cases k <;> rfl
  have hnegative : k.negative (k.update rule P N) = N := by cases k <;> rfl
  have hother : ∀ k' ≠ k, k'.positive (k.update rule P N) = k'.positive rule ∧
      k'.negative (k.update rule P N) = k'.negative rule := by
    intro k' hk'
    cases k <;> cases k' <;> first | exact ⟨rfl, rfl⟩ | exact absurd rfl hk'
  have hflags : (k.update rule P N).FlagsHold location security ↔
      rule.FlagsHold location security := by cases k <;> cases security <;> rfl
  rw [matches_iff, hflags, ← and_assoc]
  apply and_congr_left
  intro _
  constructor
  · intro h
    refine ⟨by simpa only [hpositive, hnegative] using h k, fun k' hk' => ?_⟩
    simpa only [hother k' hk'] using h k'
  · rintro ⟨hk, hrest⟩ k'
    by_cases hk' : k' = k
    · rw [hk', hpositive, hnegative]
      exact hk
    · rw [(hother k' hk').1, (hother k' hk').2]
      exact hrest k' hk'

lemma SameValues.matches_eq {rule rule' : RouteRule} (h : rule.SameValues rule')
    (location : IpLocation) (player requestHost : Option String) (security : Option Security) :
    rule'.matches location player requestHost security =
      rule.matches location player requestHost security := by
  have hflags : rule'.FlagsHold location security ↔ rule.FlagsHold location security := by
    obtain ⟨-, -, ⟨hvpn, hnotVpn⟩, ⟨hspam, hnotSpam⟩, htor, hnotTor⟩ := h
    cases security <;> simp only [FlagsHold, hvpn, hnotVpn, hspam, hnotSpam, htor, hnotTor]
  rw [Bool.eq_iff_iff, matches_iff, matches_iff, hflags]
  refine and_congr_left fun _ => forall_congr' fun k => ?_
  exact (Condition.holds_congr (h.positive k) (h.negative k)).symm

/-- A rule matches exactly when each of its conditions holds. The order and the repetition of values
make no difference, nor does the list in which `!value` stands; an exclusion more gives no match, and
a value more to ask for takes none away. -/
theorem matches_spec (rule : RouteRule) (location : IpLocation) (player requestHost : Option String)
    (security : Option Security) :
    (rule.matches location player requestHost security = true ↔
      (∀ k : Condition, k.Holds (k.positive rule) (k.negative rule)
        (k.subject location player requestHost)) ∧ rule.FlagsHold location security) ∧
    (∀ rule', rule.SameValues rule' → rule'.matches location player requestHost security =
      rule.matches location player requestHost security) ∧
    ∀ (k : Condition) (front back front' back' P N : List String) (value : String),
      let verdict := fun P N => (k.update rule P N).matches location player requestHost security
      (∀ excluded, Bang excluded value → verdict (front ++ value :: back) (front' ++ back') =
        verdict (front ++ back) (front' ++ value :: back')) ∧
      (verdict P (front ++ value :: back) = true → verdict P (front ++ back) = true) ∧
      (∀ excluded, Bang excluded value → verdict (front ++ value :: back) N = true →
        verdict (front ++ back) N = true) ∧
      (Plain value → (∃ other ∈ front ++ back, Plain other) → verdict (front ++ back) N = true →
        verdict (front ++ value :: back) N = true) := by
  refine ⟨matches_iff, fun rule' h => h.matches_eq location player requestHost security, ?_⟩
  intro k front back front' back' P N value verdict
  refine ⟨?_, ?_, ?_, ?_⟩
  · intro excluded hbang
    rw [Bool.eq_iff_iff, matches_update_iff, matches_update_iff, Condition.holds_move hbang]
  · rw [matches_update_iff, matches_update_iff]
    exact And.imp_left Condition.Holds.of_insert_negative
  · intro excluded hbang
    rw [matches_update_iff, matches_update_iff]
    exact And.imp_left (Condition.Holds.of_insert_bang hbang)
  · rintro hvalue ⟨other, hmem, hother⟩
    rw [matches_update_iff, matches_update_iff]
    exact And.imp_left (Condition.Holds.insert_plain hvalue hmem hother)

end RouteRule

end TransferGateway
