import TransferGateway.Config.Conditions
import Mathlib.Data.List.DropRight

/-!
# The host a client asks for

A client may write a host in upper case or with trailing dots. The choice of the virtual host and
the conditions of the rules compare hosts in one way, so the route is the same for every spelling.
-/

namespace TransferGateway

/-! ### Spellings -/

/-- The host with dots after it. -/
def withDots (host : String) (dots : ℕ) : String :=
  host ++ String.ofList (List.replicate dots '.')

/-- The texts differ in the case of ASCII letters and in the number of trailing dots only. -/
def SameSpelling (a b : String) : Prop :=
  ∃ s t m n, a = withDots s m ∧ b = withDots t n ∧ eqIgnoreAsciiCase s t = true

lemma toLower_eq_dot (c : Char) : c.toLower = '.' ↔ c = '.' := by
  by_cases hupper : c.val ≥ 'A'.val ∧ c.val ≤ 'Z'.val
  · have hlower : c.toLower.val = c.val + ('a'.val - 'A'.val) := congrArg Char.val (dif_pos hupper)
    constructor
    · intro h
      rw [h] at hlower
      have hnat := congrArg UInt32.toNat hlower
      simp only [ge_iff_le, UInt32.le_iff_toNat_le] at hupper
      simp at hnat hupper
      omega
    · rintro rfl
      exact absurd hupper (by decide)
  · have hsame : c.toLower = c := dif_neg hupper
    rw [hsame]

lemma hostKey_eq (host : String) :
    hostKey host = (host.toList.map Char.toLower).rdropWhile (· = '.') := by
  have hdot : (fun c : Char => decide (c = '.')) ∘ Char.toLower = fun c => decide (c = '.') := by
    funext c
    exact decide_eq_decide.mpr (toLower_eq_dot c)
  rw [hostKey, normalizeHost, trimEndMatches, String.toList_ofList, List.rdropWhile,
    List.rdropWhile, ← List.map_reverse, List.dropWhile_map, hdot, List.map_reverse]

lemma hostKey_withDots (host : String) (dots : ℕ) : hostKey (withDots host dots) = hostKey host := by
  rw [hostKey_eq, hostKey_eq, withDots]
  induction dots with
  | zero => simp
  | succ dots ih =>
    rw [← ih, List.replicate_succ']
    simp only [String.toList_append, String.toList_ofList, List.map_append, ← List.append_assoc]
    exact List.rdropWhile_concat_pos _ _ _ rfl

lemma exists_withDots (host : String) : ∃ dots, host = withDots (normalizeHost host) dots := by
  refine ⟨(host.toList.rtakeWhile (· = '.')).length, String.toList_injective ?_⟩
  have htail : host.toList.rtakeWhile (· = '.') =
      List.replicate (host.toList.rtakeWhile (· = '.')).length '.' := by
    apply List.eq_replicate_of_mem
    intro c hc
    simpa using List.mem_rtakeWhile_imp hc
  rw [withDots, normalizeHost, trimEndMatches, String.toList_append, String.toList_ofList,
    String.toList_ofList, ← htail, List.rdropWhile_append_rtakeWhile]

lemma sameHost_iff_sameSpelling {a b : String} : SameHost a b ↔ SameSpelling a b := by
  constructor
  · intro h
    obtain ⟨m, hm⟩ := exists_withDots a
    obtain ⟨n, hn⟩ := exists_withDots b
    exact ⟨_, _, m, n, hm, hn, h⟩
  · rintro ⟨s, t, m, n, rfl, rfl, hcase⟩
    have hlower : s.toList.map Char.toLower = t.toList.map Char.toLower := beq_iff_eq.mp hcase
    rw [sameHost_iff, hostKey_withDots, hostKey_withDots, hostKey_eq, hostKey_eq, hlower]

/-! ### The selection -/

section Selection

variable {a b : String} (h : SameHost a b)
include h

lemma sameHost_congr (host : String) : SameHost host a ↔ SameHost host b :=
  ⟨fun ha => ha.trans h, fun hb => hb.trans h.symm⟩

lemma matchesHostList_congr (P N : List String) :
    matchesHostList P N (some a) = matchesHostList P N (some b) := by
  have haccepts : ∀ value, eqIgnoreAsciiCase (normalizeHost value) (normalizeHost a) =
      eqIgnoreAsciiCase (normalizeHost value) (normalizeHost b) :=
    fun value => Bool.eq_iff_iff.mpr (sameHost_congr h value)
  simp only [matchesHostList, matchesList, Option.map_some, Option.any_some, haccepts]

lemma VhostsConfig.selectRouting_host (vhosts : VhostsConfig) :
    vhosts.selectRouting (some a) = vhosts.selectRouting (some b) := by
  have hfind : vhosts.findRouting a = vhosts.findRouting b := by
    rw [findRouting, findRouting]
    refine List.find?_congr fun entry _ => ?_
    exact Bool.eq_iff_iff.mpr (sameHost_congr h entry.1)
  simp only [selectRouting, Option.bind_some, hfind]

variable [StdCase]

lemma RouteRule.matches_host (rule : RouteRule) (location : IpLocation) (player : Option String)
    (security : Option Security) :
    rule.matches location player (some a) security =
      rule.matches location player (some b) security := by
  simp only [RouteRule.matches, matchesHostList_congr h]

lemma RoutingConfig.selectMatchingRule_host (c : RoutingConfig) (location : IpLocation)
    (player : Option String) (security : Option Security) :
    c.selectMatchingRule location player (some a) security =
      c.selectMatchingRule location player (some b) security := by
  have hturn : c.considerRule location player (some a) security =
      c.considerRule location player (some b) security := by
    funext selected rule
    simp only [considerRule, rule.matches_host h]
  rw [selectMatchingRule, selectMatchingRule, hturn]

variable [StdHash]

lemma RoutingConfig.selectRoute_host (c : RoutingConfig) (location : IpLocation)
    (player : Option String) (security : Security) (balanceKey : String) (counters : Counters) :
    c.selectRouteWithHostContext location player (some a) security balanceKey counters =
      c.selectRouteWithHostContext location player (some b) security balanceKey counters := by
  rw [selectRouteWithHostContext, selectRouteWithHostContext, c.selectMatchingRule_host h]

lemma AppConfig.selectRoute_host (c : AppConfig) (location : IpLocation)
    (player : Option String) (security : Security) (balanceKey : String) (counters : Counters) :
    c.selectRouteWithHostContext location player (some a) security balanceKey counters =
      c.selectRouteWithHostContext location player (some b) security balanceKey counters := by
  simp only [selectRouteWithHostContext, VhostsConfig.selectRouteWithContext,
    VhostsConfig.selectRouting_host h, RoutingConfig.selectRoute_host h]

end Selection

/-- The choice of the virtual host and the conditions on hosts tell hosts apart by their spelling up
to case and trailing dots, so that two spellings of a host get the same route. -/
theorem route_of_sameSpelling [StdCase] [StdHash] {a b : String} (h : SameSpelling a b) :
    (∀ (P N : List String) (host : Option String),
      matchesHostList P N host = true ↔ ListHolds SameSpelling P N host) ∧
    (∀ (vhosts : VhostsConfig) (entry : String × RoutingConfig),
      vhosts.findRouting a = some entry → SameSpelling entry.1 a) ∧
    (∀ vhosts : VhostsConfig, vhosts.selectRouting (some a) = vhosts.selectRouting (some b)) ∧
    ∀ (c : AppConfig) (location : IpLocation) (player : Option String) (security : Security)
      (balanceKey : String) (counters : Counters),
      c.selectRouteWithHostContext location player (some a) security balanceKey counters =
        c.selectRouteWithHostContext location player (some b) security balanceKey counters := by
  have hspelling : SameHost = SameSpelling := by
    funext s t
    exact propext sameHost_iff_sameSpelling
  have hsame : SameHost a b := sameHost_iff_sameSpelling.mpr h
  refine ⟨?_, ?_, VhostsConfig.selectRouting_host hsame, AppConfig.selectRoute_host hsame⟩
  · rw [← hspelling]
    exact fun P N host => matchesHostList_iff
  · intro vhosts entry hfind
    have hentry := List.find?_some hfind
    exact sameHost_iff_sameSpelling.mp hentry

/-- A host in capitals, and with a dot after it. -/
theorem route_of_sameSpelling_dot :
    letI := asciiCase
    letI : StdHash := ⟨fun _ => 0⟩
    SameSpelling "PLAY.example.com" "play.example.com." ∧
    ∀ (c : AppConfig) (location : IpLocation) (player : Option String) (security : Security)
      (balanceKey : String) (counters : Counters),
      c.selectRouteWithHostContext location player (some "PLAY.example.com") security balanceKey
          counters =
        c.selectRouteWithHostContext location player (some "play.example.com.") security balanceKey
          counters := by
  let _ := asciiCase
  let _ : StdHash := ⟨fun _ => 0⟩
  have hspelling : SameSpelling "PLAY.example.com" "play.example.com." :=
    sameHost_iff_sameSpelling.mp (by decide)
  exact ⟨hspelling, (route_of_sameSpelling hspelling).2.2.2⟩

end TransferGateway
