import TransferGateway.Config.App

/-!
# Allowlisted clients

The selection of a route looks at the block lists through three questions about a location, and
for a location on the allowlist their answers do not depend on the lists.
-/

namespace TransferGateway

section Selection

variable [StdCase]

/-! ### What the selection sees of the lists -/

namespace Security

/-- The lists give the same answers about a location. -/
structure Agree (s s' : Security) (location : IpLocation) : Prop where
  vpn : s.matchesVpn location = s'.matchesVpn location
  tor : s.matchesTor location = s'.matchesTor location
  spam : s.matchesSpam location = s'.matchesSpam location

/-- Nothing matches a location on the allowlist. -/
lemma matches_of_allowlisted {s : Security} {location : IpLocation}
    (h : s.allowlist.contains location.ip = true) :
    s.matchesVpn location = false ∧ s.matchesTor location = false ∧
      s.matchesSpam location = false := by
  simp [matchesVpn, matchesTor, matchesSpam, h]

lemma Agree.of_allowlisted {s s' : Security} {location : IpLocation}
    (h : s.allowlist.contains location.ip = true)
    (h' : s'.allowlist.contains location.ip = true) : s.Agree s' location := by
  obtain ⟨hvpn, htor, hspam⟩ := matches_of_allowlisted h
  obtain ⟨hvpn', htor', hspam'⟩ := matches_of_allowlisted h'
  exact ⟨hvpn.trans hvpn'.symm, htor.trans htor'.symm, hspam.trans hspam'.symm⟩

lemma check_of_allowlisted {s : Security} {location : IpLocation}
    (h : s.allowlist.contains location.ip = true) : s.check location = none := by
  obtain ⟨hvpn, htor, hspam⟩ := matches_of_allowlisted h
  simp [check, hvpn, htor, hspam]

end Security

section Agreement

variable {s s' : Security} {location : IpLocation} (h : s.Agree s' location)
include h

lemma RouteRule.matches_congr (rule : RouteRule) (player requestHost : Option String) :
    rule.matches location player requestHost (some s) =
      rule.matches location player requestHost (some s') := by
  have hsecurity : rule.matchesSecurity location (some s) =
      rule.matchesSecurity location (some s') := by
    simp only [matchesSecurity, Option.any_some, h.vpn, h.tor, h.spam]
  rw [RouteRule.matches, RouteRule.matches, hsecurity]

lemma RoutingConfig.selectMatchingRule_congr (c : RoutingConfig)
    (player requestHost : Option String) :
    c.selectMatchingRule location player requestHost (some s) =
      c.selectMatchingRule location player requestHost (some s') := by
  have hturn : c.considerRule location player requestHost (some s) =
      c.considerRule location player requestHost (some s') := by
    funext selected rule
    simp only [considerRule, rule.matches_congr h]
  rw [selectMatchingRule, selectMatchingRule, hturn]

variable [StdHash]

lemma RoutingConfig.selectRoute_congr (c : RoutingConfig) (player requestHost : Option String)
    (balanceKey : String) (counters : Counters) :
    c.selectRouteWithHostContext location player requestHost s balanceKey counters =
      c.selectRouteWithHostContext location player requestHost s' balanceKey counters := by
  rw [selectRouteWithHostContext, selectRouteWithHostContext, c.selectMatchingRule_congr h]

lemma VhostsConfig.selectRoute_congr (vhosts : VhostsConfig)
    (player requestHost : Option String) (balanceKey : String) (counters : Counters) :
    vhosts.selectRouteWithContext location player requestHost s balanceKey counters =
      vhosts.selectRouteWithContext location player requestHost s' balanceKey counters := by
  simp only [selectRouteWithContext, RoutingConfig.selectRoute_congr h]

/-- Lists that agree about a location give the same route. -/
lemma AppConfig.selectRoute_congr (c : AppConfig) (player requestHost : Option String)
    (balanceKey : String) (counters : Counters) :
    c.selectRouteWithHostContext location player requestHost s balanceKey counters =
      c.selectRouteWithHostContext location player requestHost s' balanceKey counters := by
  simp only [selectRouteWithHostContext, VhostsConfig.selectRoute_congr h,
    RoutingConfig.selectRoute_congr h]

end Agreement

/-! ### No interference -/

/-- A client that the allowlist covers passes the gate, and its route is the same, whatever else the
block lists hold. -/
theorem allowlisted_unaffected [StdHash] {s s' : Security} {location : IpLocation}
    (hsame : s.allowlist = s'.allowlist) (hcovers : s.allowlist.contains location.ip = true) :
    s.check location = none ∧ s'.check location = none ∧
    ∀ (c : AppConfig) (player requestHost : Option String) (balanceKey : String)
      (counters : Counters),
      c.selectRouteWithHostContext location player requestHost s balanceKey counters =
        c.selectRouteWithHostContext location player requestHost s' balanceKey counters := by
  have hcovers' : s'.allowlist.contains location.ip = true := hsame ▸ hcovers
  exact ⟨Security.check_of_allowlisted hcovers, Security.check_of_allowlisted hcovers',
    fun c => c.selectRoute_congr (.of_allowlisted hcovers hcovers')⟩

end Selection

/-- An allowlisted address on no list, and on all of them. -/
theorem allowlisted_unaffected_listed :
    letI := asciiCase
    letI : StdHash := ⟨fun _ => 0⟩
    let own : IpSet := .fromNetworks [.fromIp (.v4 0xcb007108#32)]
    let location : IpLocation := .empty (.v4 0xcb007108#32)
    let lax : Security := ⟨false, false, false, false, own, .default, .default, .default, []⟩
    let strict : Security := ⟨true, true, true, true, own, own, own, own, ["vpn"]⟩
    strict.tor.contains location.ip = true ∧
    lax.check location = none ∧ strict.check location = none ∧
    ∀ (c : AppConfig) (player requestHost : Option String) (balanceKey : String)
      (counters : Counters),
      c.selectRouteWithHostContext location player requestHost lax balanceKey counters =
        c.selectRouteWithHostContext location player requestHost strict balanceKey counters := by
  let _ := asciiCase
  let _ : StdHash := ⟨fun _ => 0⟩
  exact ⟨by decide +kernel, allowlisted_unaffected rfl (by decide +kernel)⟩

end TransferGateway
