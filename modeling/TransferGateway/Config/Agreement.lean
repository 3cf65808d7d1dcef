import TransferGateway.Config.Ranking
import TransferGateway.Server.Interleaving

/-!
# Selections that agree

A status query comes before the gateway knows the name of the player, and the plain selection knows
nothing of the lists either. Both agree with the selection for a login unless a rule that asks for
more wins it.
-/

namespace TransferGateway

/-! ### What a rule asks for -/

namespace RouteRule

/-- The rule looks at the name of the player. -/
def NamesPlayers (rule : RouteRule) : Prop :=
  rule.players ≠ [] ∨ rule.notPlayers ≠ []

/-- The rule looks at the lists of addresses. -/
def AsksSecurity (rule : RouteRule) : Prop :=
  rule.vpn ≠ none ∨ rule.notVpn = true ∨ rule.spam ≠ none ∨ rule.notSpam = true ∨
    rule.tor ≠ none ∨ rule.notTor = true

variable (rule : RouteRule)

lemma matchesPlayer_none : rule.matchesPlayer none = true ↔ ¬rule.NamesPlayers := by
  simp [matchesPlayer, NamesPlayers]

variable {rule} in
lemma matchesPlayer_of_not_namesPlayers (h : ¬rule.NamesPlayers) (player : Option String) :
    rule.matchesPlayer player = true := by
  simp only [NamesPlayers, not_or, not_not] at h
  simp [matchesPlayer, h]

variable [StdCase] (location : IpLocation)

lemma matchesSecurity_none : rule.matchesSecurity location none = true ↔ ¬rule.AsksSecurity := by
  simp [matchesSecurity, AsksSecurity, and_assoc]

variable {rule} in
lemma matchesSecurity_of_not_asksSecurity (h : ¬rule.AsksSecurity)
    (security : Option Security) : rule.matchesSecurity location security = true := by
  simp only [AsksSecurity, not_or, not_not, Bool.not_eq_true] at h
  simp [matchesSecurity, h]

/-- Without the name of the player a rule matches only if it does not look at it. -/
lemma matches_without_player (player requestHost : Option String) (security : Option Security) :
    rule.matches location none requestHost security = true ↔
      ¬rule.NamesPlayers ∧ rule.matches location player requestHost security = true := by
  simp only [«matches», Bool.and_eq_true, matchesPlayer_none]
  constructor
  · rintro ⟨⟨hplace, hplayer⟩, hsecurity⟩
    exact ⟨hplayer, ⟨hplace, matchesPlayer_of_not_namesPlayers hplayer player⟩, hsecurity⟩
  · rintro ⟨hplayer, ⟨hplace, -⟩, hsecurity⟩
    exact ⟨⟨hplace, hplayer⟩, hsecurity⟩

lemma matches_without_security (requestHost : Option String) (security : Option Security) :
    rule.matches location none requestHost none = true ↔
      ¬rule.AsksSecurity ∧ rule.matches location none requestHost security = true := by
  simp only [«matches», Bool.and_eq_true, matchesSecurity_none]
  constructor
  · rintro ⟨hplace, hsecurity⟩
    exact ⟨hsecurity, hplace, matchesSecurity_of_not_asksSecurity location hsecurity security⟩
  · rintro ⟨hsecurity, hplace, -⟩
    exact ⟨hplace, hsecurity⟩

end RouteRule

/-! ### The rule that wins -/

section Selection

variable [StdCase]

namespace RoutingConfig

variable {c : RoutingConfig} {location : IpLocation} {player requestHost : Option String}
  {security : Security}

lemma selectMatchingRule_query (h : ∀ rule,
    c.selectMatchingRule location player requestHost (some security) = some rule →
      ¬rule.NamesPlayers) :
    c.selectMatchingRule location none requestHost (some security) =
      c.selectMatchingRule location player requestHost (some security) := by
  simp only [selectMatchingRule_eq] at h ⊢
  refine Argmax.best_eq_of_imp ?_ ?_
  · intro rule _ hmatch
    exact ((rule.matches_without_player location player ..).mp hmatch).2
  · intro rule hbest
    obtain ⟨before, after, -, hmatch, -⟩ := Argmax.best_eq_some_iff.mp hbest
    exact (rule.matches_without_player location player ..).mpr ⟨h rule hbest, hmatch⟩

lemma selectMatchingRule_plain (h : ∀ rule,
    c.selectMatchingRule location player requestHost (some security) = some rule →
      ¬rule.NamesPlayers ∧ ¬rule.AsksSecurity) :
    c.selectMatchingRule location none requestHost none =
      c.selectMatchingRule location player requestHost (some security) := by
  have hquery := c.selectMatchingRule_query fun rule hrule => (h rule hrule).1
  rw [← hquery] at h ⊢
  simp only [selectMatchingRule_eq] at h ⊢
  refine Argmax.best_eq_of_imp ?_ ?_
  · intro rule _ hmatch
    exact ((rule.matches_without_security location requestHost (some security)).mp hmatch).2
  · intro rule hbest
    obtain ⟨before, after, -, hmatch, -⟩ := Argmax.best_eq_some_iff.mp hbest
    exact (rule.matches_without_security ..).mpr ⟨(h rule hbest).2, hmatch⟩

lemma mem_of_selectMatchingRule {rule : RouteRule}
    (h : c.selectMatchingRule location player requestHost (some security) = some rule) :
    rule ∈ c.rules := by
  rw [selectMatchingRule_eq] at h
  obtain ⟨before, after, hrules, -⟩ := Argmax.best_eq_some_iff.mp h
  simp [hrules]

lemma not_namesPlayers_of_query {rule : RouteRule}
    (h : c.selectMatchingRule location none requestHost (some security) = some rule) :
    ¬rule.NamesPlayers := by
  rw [selectMatchingRule_eq] at h
  obtain ⟨before, after, -, hmatch, -⟩ := Argmax.best_eq_some_iff.mp h
  exact ((rule.matches_without_player location none ..).mp hmatch).1

end RoutingConfig

/-- The routing that serves a host. -/
def AppConfig.routingOf (c : AppConfig) (requestHost : Option String) : Option RoutingConfig :=
  match c.vhosts with
  | some vhosts => (vhosts.selectRouting requestHost).map Prod.snd
  | none => c.routing

/-- The rule that wins the selection for a host. -/
def AppConfig.winner (c : AppConfig) (location : IpLocation) (player requestHost : Option String)
    (security : Option Security) : Option RouteRule :=
  (c.routingOf requestHost).bind fun routing =>
    routing.selectMatchingRule location player requestHost security

lemma AppConfig.winner_query {c : AppConfig} {location : IpLocation}
    {player requestHost : Option String} {security : Security}
    (h : ∀ rule, c.winner location player requestHost (some security) = some rule →
      ¬rule.NamesPlayers) :
    c.winner location none requestHost (some security) =
      c.winner location player requestHost (some security) := by
  rw [winner, winner] at *
  cases hrouting : c.routingOf requestHost with
  | none => rfl
  | some routing =>
    rw [hrouting] at h
    exact routing.selectMatchingRule_query h

variable [StdHash]

/-- The name of the player makes no difference but through the rule that wins. -/
lemma RoutingConfig.selectRoute_player {c : RoutingConfig} {location : IpLocation}
    {player player' requestHost : Option String} {security : Security}
    (h : c.selectMatchingRule location player requestHost (some security) =
      c.selectMatchingRule location player' requestHost (some security)) (balanceKey : String) :
    c.selectRouteWithHostContext location player requestHost security balanceKey =
      c.selectRouteWithHostContext location player' requestHost security balanceKey := by
  funext counters
  rw [selectRouteWithHostContext, selectRouteWithHostContext, h]

lemma AppConfig.selectRoute_player {c : AppConfig} {location : IpLocation}
    {player player' requestHost : Option String} {security : Security}
    (h : c.winner location player requestHost (some security) =
      c.winner location player' requestHost (some security)) (balanceKey : String) :
    c.selectRouteWithHostContext location player requestHost security balanceKey =
      c.selectRouteWithHostContext location player' requestHost security balanceKey := by
  funext counters
  rw [selectRouteWithHostContext, selectRouteWithHostContext]
  rw [winner, winner, routingOf] at h
  cases hvhosts : c.vhosts with
  | some vhosts =>
    dsimp only
    rw [VhostsConfig.selectRouteWithContext, VhostsConfig.selectRouteWithContext]
    cases hrouting : vhosts.selectRouting requestHost with
    | none => rfl
    | some entry =>
      simp only [hvhosts, hrouting, Option.map_some, Option.bind_some] at h
      dsimp only
      rw [RoutingConfig.selectRoute_player h]
  | none =>
    cases hrouting : c.routing with
    | none => rfl
    | some routing =>
      simp only [hvhosts, hrouting, Option.bind_some] at h
      dsimp only
      rw [RoutingConfig.selectRoute_player h]

lemma RoutingGroup.selectTarget_ipHash {group : RoutingGroup}
    (hmode : parseGroupMode group.mode = some .ipHash) (hhosts : group.hosts ≠ [])
    (balanceKey : String) (counters : Counters) :
    group.selectTarget balanceKey counters =
      .ok (group.targetAt ((StdHash.hash balanceKey).toNat % group.hosts.length), counters) := by
  have hpos : 0 < group.hosts.length := List.length_pos_iff.mpr hhosts
  refine selectTarget_of_selectIndex ?_ (Nat.mod_lt _ hpos)
  simp [selectIndex, hmode, remainder_of_pos hpos, bind, Except.bind, pure, Except.pure]

/-- A query is sent where a login of the player from the same address is sent, unless the rule that
wins the login looks at the name; such a rule never wins a query. Whatever other connections do between
the two, both get the same target, unless it is one of a group that goes round its hosts or draws
one. -/
theorem selectRoute_query [Xdb] [Toml.Parse] [UrlParse] {state : RuntimeState}
    (h : state.HasLoaded) (location : IpLocation) (player : String)
    (requestHost : Option String) (balanceKey : String) :
    let winner := fun player =>
      state.config.winner location player requestHost (some state.security)
    let select := fun player => state.config.selectRouteWithHostContext location player requestHost
      state.security balanceKey
    (∀ rule, winner none = some rule → ¬rule.NamesPlayers) ∧
    ((∀ rule, winner (some player) = some rule → ¬rule.NamesPlayers) →
      winner none = winner (some player) ∧ select none = select (some player)) ∧
    ∀ player, (∃ r, ∀ counters, select player counters = .ok (r, counters)) ∨
      ∃ group ∈ state.config.groups, parseGroupMode group.mode ≠ some .ipHash ∧
        group.Routes (select player) := by
  intro winner select
  refine ⟨fun rule hrule => ?_, fun hlogin => ?_, fun player => ?_⟩
  · obtain ⟨routing, -, hrule⟩ := Option.bind_eq_some_iff.mp hrule
    exact routing.not_namesPlayers_of_query hrule
  · have heq := state.config.winner_query hlogin
    exact ⟨heq, state.config.selectRoute_player heq balanceKey⟩
  · rcases state.config.takesFrom_selectRoute location player requestHost state.security
      balanceKey with ⟨group, hgroup, hroutes⟩ | hconstant
    · by_cases hmode : parseGroupMode group.mode = some .ipHash
      · obtain ⟨config, configPath, hloaded, hconfig⟩ := h
        rw [hconfig] at hgroup
        have hvalid := (hloaded.hasGroup hgroup).valid hloaded.spec.1
        obtain ⟨line, balanceKey', hroutes⟩ := hroutes
        refine .inl ⟨some (line, group.targetAt
          ((StdHash.hash balanceKey').toNat % group.hosts.length)), fun counters => ?_⟩
        dsimp only [select]
        rw [hroutes, RoutingGroup.selectTarget_ipHash hmode hvalid.nonempty]
        rfl
      · exact .inr ⟨group, hgroup, hmode, hroutes⟩
    · exact .inl hconstant

/-! ### The plain selection -/

omit [StdCase] [StdHash] in
/-- A checked rule without a line of its own gives the name of a group. -/
lemma RouteRule.Valid.group_of_names {c : RoutingConfig} {rule : RouteRule} (h : rule.Valid c)
    (hline : rule.lineTargetName c = none) {name : String} (hnames : rule.Names name) :
    ∃ group ∈ c.group, group.groupName = name := by
  rw [Names] at hnames
  cases hblank : isBlank rule.line with
  | true =>
    rw [hblank, if_pos rfl] at hnames
    obtain ⟨other, hother, hnonblank⟩ := h.exactlyOne.mp hblank
    obtain rfl : name = other := by simpa [hnames] using hother
    exact h.group name hother hnonblank
  | false =>
    obtain rfl : name = rule.line := by simpa [hblank] using hnames
    have hkey : c.lines.containsKey rule.line = false := by
      simpa [lineTargetName, hblank] using hline
    simpa [RoutingConfig.hasTarget, hkey] using h.line hblank

namespace RoutingConfig

variable {c : RoutingConfig}

/-- The plain selection is that of a login, unless the rule that wins the login asks for more or the
login is sent to a group: it then gives the default line, if that is one. -/
theorem selectRouteForHost_spec (h : c.validate = .ok ())
    {location : IpLocation} {player requestHost : Option String} {security : Security}
    (hplain : ∀ rule,
      c.selectMatchingRule location player requestHost (some security) = some rule →
        ¬rule.NamesPlayers ∧ ¬rule.AsksSecurity) (balanceKey : String) (counters : Counters) :
    ∃ result counters', c.selectRouteWithHostContext location player requestHost security
        balanceKey counters = .ok (result, counters') ∧
      ((∀ group ∈ c.group, ∀ target, result ≠ some (group.groupName, target)) →
        c.selectRouteForHost location requestHost = result ∧ counters' = counters) ∧
      ∀ group ∈ c.group, ∀ target, result = some (group.groupName, target) →
        c.selectRouteForHost location requestHost =
          (c.lines.get c.defaultLine).map (c.defaultLine, ·) := by
  have hvalid := valid_of_validate h
  have hgroup : ∀ {name : String} {target : LineTarget}, c.lines.get name = some target →
      ∀ group ∈ c.group, group.groupName ≠ name := by
    rintro name target hget group hmem rfl
    have hkey := BTreeMap.containsKey_iff.mpr ⟨target, hget⟩
    rw [hvalid.names group hmem] at hkey
    cases hkey
  rw [selectRouteForHost, selectRouteWithHostContext, selectMatchingRule_plain hplain]
  cases hwinner : c.selectMatchingRule location player requestHost (some security) with
  | none =>
    dsimp only [Option.bind_none, Option.getD_none]
    rw [selectTarget]
    cases hline : c.lines.get c.defaultLine with
    | some target =>
      exact ⟨_, _, rfl, fun _ => ⟨rfl, rfl⟩, fun _ _ _ _ => rfl⟩
    | none =>
      cases hfind : c.findGroup c.defaultLine with
      | none => exact ⟨_, _, rfl, fun _ => ⟨rfl, rfl⟩, fun _ _ _ _ => rfl⟩
      | some group =>
        obtain ⟨hmem, hname⟩ := findGroup_eq_some hfind
        obtain ⟨host, -, counters', hselect⟩ :=
          group.selectTarget_eq (hvalid.groups group hmem).nonempty balanceKey counters
        dsimp only
        rw [hselect, ← hname]
        exact ⟨_, _, rfl, fun hno => absurd rfl (hno group hmem _), fun _ _ _ _ => rfl⟩
  | some rule =>
    have hrule := mem_of_selectMatchingRule hwinner
    dsimp only [Option.bind_some]
    cases hline : rule.lineTargetName c with
    | some name =>
      have hkey : c.lines.containsKey name = true := by
        rw [RouteRule.lineTargetName] at hline
        split at hline
        · rename_i hkey
          cases hline
          exact (Bool.and_eq_true _ _ ▸ hkey).2
        · cases hline
      obtain ⟨target, hget⟩ := BTreeMap.containsKey_iff.mp hkey
      refine ⟨some (name, target), counters, ?_, fun _ => ⟨?_, rfl⟩, ?_⟩
      · simp [ruleTarget, hline, hget, pure, Except.pure, bind, Except.bind]
      · simp [hget]
      · intro group hmem target' heq
        cases heq
        exact absurd rfl (hgroup hget group hmem)
    | none =>
      obtain ⟨name, target, counters', htarget, hnames, -⟩ :=
        hvalid.ruleTarget_spec (hvalid.rules rule hrule) balanceKey counters
      obtain ⟨group, hmem, rfl⟩ := (hvalid.rules rule hrule).group_of_names hline hnames
      rw [htarget]
      exact ⟨_, _, rfl, fun hno => absurd rfl (hno group hmem _), fun _ _ _ _ => rfl⟩

end RoutingConfig

end Selection

section Cluster

attribute [local instance] noXdb dottedParse asciiCase noHash noDisplay noMd5 httpsUrl clusterParse

/-- Steve's query and his login are sent alike, to the group that goes round. -/
theorem selectRoute_query_cluster :
    loadedCluster.config.selectRouteWithHostContext (.empty (.v4 0)) none none
        loadedCluster.security "0.0.0.1" =
      loadedCluster.config.selectRouteWithHostContext (.empty (.v4 0)) (some "Steve") none
        loadedCluster.security "0.0.0.1" := by
  refine ((selectRoute_query loadedCluster_hasLoaded (.empty (.v4 0)) "Steve" none
    "0.0.0.1").2.1 ?_).2
  intro rule hrule
  obtain ⟨routing, hrouting, hrule⟩ := Option.bind_eq_some_iff.mp hrule
  cases hrouting
  obtain rfl := List.mem_singleton.mp (RoutingConfig.mem_of_selectMatchingRule hrule)
  simp [RouteRule.NamesPlayers]

/-- The plain selection finds no line in `clusterRouting`, though a login is sent to its group. -/
theorem selectRouteForHost_spec_cluster : ∃ target counters',
    clusterRouting.selectRouteWithHostContext (.empty (.v4 0)) (some "Steve") none
      loadedCluster.security "0.0.0.1" (fun _ => 7) = .ok (some ("cluster", target), counters') ∧
    clusterRouting.selectRouteForHost (.empty (.v4 0)) none = none := by
  have hplain : ∀ rule, clusterRouting.selectMatchingRule (.empty (.v4 0)) (some "Steve") none
      (some loadedCluster.security) = some rule → ¬rule.NamesPlayers ∧ ¬rule.AsksSecurity := by
    intro rule hrule
    obtain rfl := List.mem_singleton.mp (RoutingConfig.mem_of_selectMatchingRule hrule)
    simp [RouteRule.NamesPlayers, RouteRule.AsksSecurity]
  obtain ⟨result, counters', hselect, -, hgroup⟩ := RoutingConfig.selectRouteForHost_spec
    (c := clusterRouting) (by decide) hplain "0.0.0.1" fun _ => 7
  have hresult : ∃ target, result = some ("cluster", target) := by
    rw [clusterRouting_selectRoute, RoutingGroup.selectTarget_roundRobin rfl (by decide)] at hselect
    cases hselect
    exact ⟨_, rfl⟩
  obtain ⟨target, rfl⟩ := hresult
  exact ⟨target, counters', hselect, hgroup clusterGroup (List.head_mem _) target rfl⟩

end Cluster

end TransferGateway
