import TransferGateway.Config.Routing

/-!
# The selection agrees with the validation

What `validate` accepts is stated as a structure, and from it the selection of a route: it never
panics, the winning rule gets the target it names, and every target is one a client can be sent
to.
-/

namespace TransferGateway

/-! ### What validation accepts -/

/-- A host that a target may have. -/
def ValidHost (host : String) : Prop :=
  isBlank host = false ∧ byteLen host ≤ 255

/-- A target a client can be sent to. -/
structure LineTarget.Valid (target : LineTarget) : Prop where
  host : ValidHost target.host
  port : target.port ≠ 0

lemma LineTarget.validate_iff (target : LineTarget) (name : String) :
    target.validate name = .ok () ↔ target.Valid := by
  simp only [LineTarget.validate, check_bind_eq_ok, bailIf_eq_ok]
  constructor
  · rintro ⟨hblank, hlen, hport⟩
    exact ⟨⟨by simpa using hblank, Nat.le_of_not_lt hlen⟩, hport⟩
  · rintro ⟨⟨hblank, hlen⟩, hport⟩
    exact ⟨by simp [hblank], Nat.not_lt_of_le hlen, hport⟩

structure RoutingGroup.Valid [StdCase] (group : RoutingGroup) : Prop where
  name : isBlank group.groupName = false
  nonempty : group.hosts ≠ []
  port : group.port ≠ 0
  mode : parseGroupMode group.mode ≠ none
  hosts : ∀ host ∈ group.hosts, ValidHost host

/-- What is checked of the items of a numbered loop, whatever their numbers. -/
lemma forall_mem_zipIdx {α : Type} {p : α → Prop} {l : List α} :
    (∀ q ∈ l.zipIdx, p q.1) ↔ ∀ a ∈ l, p a := by
  conv_rhs => rw [← List.zipIdx_map_fst 0 l]
  simp only [List.forall_mem_map]

lemma RoutingGroup.validate_iff [StdCase] (group : RoutingGroup) (index : ℕ) :
    group.validate index = .ok () ↔ group.Valid := by
  have hhosts : (∀ q ∈ group.hosts.zipIdx, ¬isBlank q.1 = true ∧ ¬byteLen q.1 > 255) ↔
      ∀ host ∈ group.hosts, ValidHost host := by
    rw [forall_mem_zipIdx (p := fun host => ¬isBlank host = true ∧ ¬byteLen host > 255)]
    simp [ValidHost]
  simp only [RoutingGroup.validate, check_bind_eq_ok, bailIf_eq_ok, forM_eq_ok, hhosts]
  constructor
  · rintro ⟨hname, hempty, hport, hmode, h⟩
    exact ⟨by simpa using hname, by simpa using hempty, hport, hmode, h⟩
  · rintro ⟨hname, hempty, hport, hmode, h⟩
    exact ⟨by simp [hname], by simp [hempty], hport, hmode, h⟩

/-- The rule names a line or a group, not both, and what it names is there. -/
structure RouteRule.Valid (rule : RouteRule) (c : RoutingConfig) : Prop where
  exactlyOne : isBlank rule.line = true ↔ ∃ group ∈ rule.group, isBlank group = false
  line : isBlank rule.line = false → c.hasTarget rule.line = true
  group : ∀ name ∈ rule.group, isBlank name = false →
    ∃ group ∈ c.group, group.groupName = name

lemma RoutingConfig.valid_of_validateRule {c : RoutingConfig} {rule : RouteRule} {index : ℕ}
    (h : c.validateRule rule index = .ok ()) : rule.Valid c := by
  simp only [validateRule, check_bind_eq_ok, bailIf_eq_ok] at h
  obtain ⟨hone, hline, hgroup⟩ := h
  refine ⟨?_, ?_, ?_⟩
  · cases hblank : isBlank rule.line <;> cases hname : rule.group <;> simp_all
  · intro hblank
    simpa [hblank] using hline
  · intro name hname hblank
    rw [Option.mem_def] at hname
    simpa [hname, hblank] using hgroup

structure RoutingConfig.Valid [StdCase] (c : RoutingConfig) : Prop where
  nonempty : c.lines.isEmpty = false ∨ c.group ≠ []
  default : c.defaultLine = "" ∧ c.rules ≠ [] ∨ c.hasTarget c.defaultLine = true
  lines : ∀ entry ∈ c.lines.entries, entry.2.Valid
  groups : ∀ group ∈ c.group, group.Valid
  /-- No group shares its name with a line or with another group. -/
  names : ∀ group ∈ c.group, c.lines.containsKey group.groupName = false
  distinct : c.group.Pairwise fun a b => a.groupName ≠ b.groupName
  rules : ∀ rule ∈ c.rules, rule.Valid c

lemma RoutingConfig.valid_of_validate [StdCase] {c : RoutingConfig} (h : c.validate = .ok ()) :
    c.Valid := by
  simp only [validate, check_bind_eq_ok, bailIf_eq_ok, forM_eq_ok] at h
  obtain ⟨hnonempty, hdefault, hrules, hlines, hgroups, hrule⟩ := h
  have hgroup : ∀ q ∈ c.group.zipIdx, q.1.Valid ∧ c.lines.containsKey q.1.groupName = false ∧
      ∀ r ∈ c.group.zipIdx, r.2 < q.2 → r.1.groupName ≠ q.1.groupName := by
    intro q hq
    have := hgroups q hq
    simp only [validateGroup, check_bind_eq_ok, bailIf_eq_ok, RoutingGroup.validate_iff] at this
    obtain ⟨hvalid, hdup⟩ := this
    simp only [Bool.or_eq_true, not_or, Bool.not_eq_true, List.any_eq_false, Bool.and_eq_true,
      decide_eq_true_eq, beq_iff_eq, not_and] at hdup
    exact ⟨hvalid, hdup.1, hdup.2⟩
  refine ⟨?_, ?_, ?_, ?_, ?_, ?_, ?_⟩
  · by_cases hempty : c.group = []
    · exact .inl (by simpa [hempty] using hnonempty)
    · exact .inr hempty
  · by_cases hblank : c.defaultLine = ""
    · exact .inl ⟨hblank, by simpa [hblank] using hrules⟩
    · exact .inr (by simpa [hblank] using hdefault)
  · exact fun entry hentry => (entry.2.validate_iff entry.1).mp (hlines entry hentry)
  · exact forall_mem_zipIdx.mp fun q hq => (hgroup q hq).1
  · exact forall_mem_zipIdx.mp fun q hq => (hgroup q hq).2.1
  · rw [List.pairwise_iff_getElem]
    intro i j hi hj hij
    exact (hgroup (c.group[j], j) (List.mk_mem_zipIdx_iff_getElem?.mpr (by simp))).2.2
      (c.group[i], i) (List.mk_mem_zipIdx_iff_getElem?.mpr (by simp)) hij
  · exact forall_mem_zipIdx.mp fun q hq => valid_of_validateRule (hrule q hq)

/-! ### Selecting in a group -/

section Group

lemma remainder_of_pos {value : UInt64} {length : ℕ} (h : 0 < length) :
    remainder value length = .ok (value.toNat % length) := by
  simp [remainder, h.ne', pure, Except.pure]

/-- The target of the host at an index. -/
def RoutingGroup.targetAt (group : RoutingGroup) (index : ℕ) : LineTarget :=
  ⟨group.hosts.getD index "", group.port, group.resolveSrv⟩

variable [StdCase] [StdHash]

lemma RoutingGroup.selectTarget_of_selectIndex {group : RoutingGroup} {balanceKey : String}
    {counters counters' : Counters} {index : ℕ}
    (h : group.selectIndex balanceKey counters = .ok (index, counters'))
    (hlt : index < group.hosts.length) :
    group.selectTarget balanceKey counters = .ok (group.targetAt index, counters') := by
  simp [selectTarget, targetAt, h, hlt, bind, Except.bind, pure, Except.pure]

/-- A group with hosts selects one of them, whatever its counter holds. -/
lemma RoutingGroup.selectIndex_lt {group : RoutingGroup} (h : group.hosts ≠ [])
    (balanceKey : String) (counters : Counters) :
    ∃ index counters', group.selectIndex balanceKey counters = .ok (index, counters') ∧
      index < group.hosts.length := by
  have hpos : 0 < group.hosts.length := List.length_pos_iff.mpr h
  rw [selectIndex]
  split
  · simp only [remainder_of_pos hpos]
    exact ⟨_, _, rfl, Nat.mod_lt _ hpos⟩
  · simp only [pseudoRandomIndex, remainder_of_pos hpos]
    exact ⟨_, _, rfl, Nat.mod_lt _ hpos⟩
  · simp only [remainder_of_pos hpos]
    exact ⟨_, _, rfl, Nat.mod_lt _ hpos⟩

lemma RoutingGroup.selectTarget_eq {group : RoutingGroup} (h : group.hosts ≠ [])
    (balanceKey : String) (counters : Counters) :
    ∃ host ∈ group.hosts, ∃ counters', group.selectTarget balanceKey counters =
      .ok (⟨host, group.port, group.resolveSrv⟩, counters') := by
  obtain ⟨index, counters', hindex, hlt⟩ := group.selectIndex_lt h balanceKey counters
  refine ⟨group.hosts[index], List.getElem_mem hlt, counters', ?_⟩
  simp [selectTarget, hindex, List.getElem?_eq_getElem hlt, bind, Except.bind, pure, Except.pure]

end Group

/-! ### Selecting a route -/

/-- The name is that of the line, or of the group and one of its hosts. -/
inductive RoutingConfig.Provides (c : RoutingConfig) : String → LineTarget → Prop where
  | line {name : String} {target : LineTarget} (h : c.lines.get name = some target) :
      Provides c name target
  | group {group : RoutingGroup} {host : String} (hgroup : group ∈ c.group)
      (hhost : host ∈ group.hosts) :
      Provides c group.groupName ⟨host, group.port, group.resolveSrv⟩

/-- The name a rule gives: that of its line, or of its group when the line is blank. -/
def RouteRule.Names (rule : RouteRule) (name : String) : Prop :=
  if isBlank rule.line then rule.group = some name else name = rule.line

namespace RoutingConfig

variable {c : RoutingConfig}

lemma findGroup_eq_some {name : String} {group : RoutingGroup}
    (h : c.findGroup name = some group) : group ∈ c.group ∧ group.groupName = name :=
  ⟨List.mem_of_find?_eq_some h, by simpa using List.find?_some h⟩

lemma findGroup_isSome {group : RoutingGroup} (h : group ∈ c.group) :
    ∃ group', c.findGroup group.groupName = some group' :=
  Option.isSome_iff_exists.mp (List.find?_isSome.mpr ⟨group, h, by simp⟩)

variable [StdCase]

lemma Valid.provides (h : c.Valid) {name : String} {target : LineTarget}
    (ht : c.Provides name target) : target.Valid := by
  cases ht with
  | line hline => exact h.lines _ (BTreeMap.mem_keys_of_get hline)
  | group hgroup hhost => exact ⟨(h.groups _ hgroup).hosts _ hhost, (h.groups _ hgroup).port⟩

/-- A rule that does not match changes nothing; after one that does, something is selected. -/
lemma considerRule_cases (location : IpLocation) (player requestHost : Option String)
    (security : Option Security) (selected : Option (Int × RouteRule)) (rule : RouteRule) :
    let result := c.considerRule location player requestHost security selected rule
    (rule.matches location player requestHost security = false ∧ result = selected) ∨
    rule.matches location player requestHost security = true ∧
      (result = some (rule.effectivePriority c, rule) ∨ result = selected ∧ selected ≠ none) := by
  cases hmatch : rule.matches location player requestHost security with
  | false => exact .inl ⟨rfl, by simp [considerRule, hmatch]⟩
  | true =>
    refine .inr ⟨rfl, ?_⟩
    cases selected with
    | none => exact .inl (by simp [considerRule, hmatch])
    | some entry =>
      by_cases hpriority : rule.effectivePriority c > entry.1
      · exact .inl (by simp [considerRule, hmatch, hpriority])
      · exact .inr (by simp [considerRule, hmatch, hpriority])

/-- The loop ends with what it started with or with a rule that matches, and with nothing only
when no rule does. -/
lemma foldl_considerRule (location : IpLocation) (player requestHost : Option String)
    (security : Option Security) (rules : List RouteRule) (selected : Option (Int × RouteRule)) :
    let result := rules.foldl (c.considerRule location player requestHost security) selected
    (result = selected ∨ ∃ rule ∈ rules, rule.matches location player requestHost security = true ∧
      ∃ priority, result = some (priority, rule)) ∧
    (result = none → selected = none ∧
      ∀ rule ∈ rules, rule.matches location player requestHost security = false) := by
  induction rules generalizing selected with
  | nil => exact ⟨.inl rfl, fun h => ⟨h, by simp⟩⟩
  | cons rule rules ih =>
    obtain ⟨hresult, hnone⟩ := ih (c.considerRule location player requestHost security selected rule)
    simp only [List.foldl_cons, List.forall_mem_cons]
    rcases c.considerRule_cases location player requestHost security selected rule with
      ⟨hmatch, hstep⟩ | ⟨hmatch, hstep⟩
    · rw [hstep] at hresult hnone ⊢
      refine ⟨?_, fun h => ⟨(hnone h).1, hmatch, (hnone h).2⟩⟩
      exact hresult.imp_right fun ⟨rule', hmem, h⟩ => ⟨rule', List.mem_cons_of_mem _ hmem, h⟩
    · have hsome : c.considerRule location player requestHost security selected rule ≠ none := by
        rcases hstep with hstep | ⟨hstep, hselected⟩ <;> simp_all
      refine ⟨?_, fun h => absurd (hnone h).1 hsome⟩
      rcases hresult with hresult | ⟨rule', hmem, h⟩
      · rw [hresult]
        rcases hstep with hstep | ⟨hstep, -⟩
        · exact .inr ⟨rule, List.mem_cons_self, hmatch, _, hstep⟩
        · exact .inl hstep
      · exact .inr ⟨rule', List.mem_cons_of_mem _ hmem, h⟩

/-- Either no rule matches, or the selected rule is one that does. -/
lemma selectMatchingRule_cases (location : IpLocation) (player requestHost : Option String)
    (security : Option Security) :
    (c.selectMatchingRule location player requestHost security = none ∧
      ∀ rule ∈ c.rules, rule.matches location player requestHost security = false) ∨
    ∃ rule ∈ c.rules, rule.matches location player requestHost security = true ∧
      c.selectMatchingRule location player requestHost security = some rule := by
  obtain ⟨hresult, hnone⟩ := c.foldl_considerRule location player requestHost security c.rules none
  rw [selectMatchingRule]
  rcases hresult with hresult | ⟨rule, hmem, hmatch, priority, hresult⟩
  · exact .inl ⟨by rw [hresult]; rfl, (hnone hresult).2⟩
  · exact .inr ⟨rule, hmem, hmatch, by rw [hresult]; rfl⟩

variable [StdHash]

/-- A name selects the target it provides, or nothing when it provides none. -/
lemma Valid.selectTarget_spec (h : c.Valid) (name balanceKey : String) (counters : Counters) :
    ∃ result counters', c.selectTarget name balanceKey counters = .ok (result, counters') ∧
      ((∃ target, c.Provides name target ∧ result = some (name, target)) ∨
        (∀ target, ¬c.Provides name target) ∧ result = none) := by
  rw [selectTarget]
  cases hline : c.lines.get name with
  | some target => exact ⟨_, _, rfl, .inl ⟨target, .line hline, rfl⟩⟩
  | none =>
    cases hfind : c.findGroup name with
    | some group =>
      obtain ⟨hgroup, rfl⟩ := findGroup_eq_some hfind
      obtain ⟨host, hhost, counters', hselect⟩ :=
        group.selectTarget_eq (h.groups group hgroup).nonempty balanceKey counters
      simp only [hselect]
      exact ⟨_, _, rfl, .inl ⟨_, .group hgroup hhost, rfl⟩⟩
    | none =>
      refine ⟨_, _, rfl, .inr ⟨fun target ht => ?_, rfl⟩⟩
      cases ht with
      | line hline' => simp [hline] at hline'
      | group hgroup hhost =>
        have := List.find?_eq_none.mp hfind _ hgroup
        simp at this

/-- A checked rule selects the target of the name it gives. -/
lemma Valid.ruleTarget_spec (h : c.Valid) {rule : RouteRule} (hrule : rule.Valid c)
    (balanceKey : String) (counters : Counters) :
    ∃ name target counters', c.ruleTarget rule balanceKey counters =
        .ok (some (name, target), counters') ∧ rule.Names name ∧ c.Provides name target := by
  have hgroup : ∀ {name : String} {group : RoutingGroup}, rule.lineTargetName c = none →
      rule.groupTargetName = some name → c.findGroup name = some group → rule.Names name →
      ∃ name target counters', c.ruleTarget rule balanceKey counters =
        .ok (some (name, target), counters') ∧ rule.Names name ∧ c.Provides name target := by
    intro name group hline hname hfind hnames
    obtain ⟨hmem, rfl⟩ := findGroup_eq_some hfind
    obtain ⟨host, hhost, counters', hselect⟩ :=
      group.selectTarget_eq (h.groups group hmem).nonempty balanceKey counters
    refine ⟨_, _, counters', ?_, hnames, .group hmem hhost⟩
    simp [ruleTarget, hline, hname, hfind, hselect, bind, Except.bind, pure, Except.pure]
  cases hblank : isBlank rule.line with
  | false =>
    -- the line field gives the name of a line or of a group
    have hnames : rule.Names rule.line := by simp [RouteRule.Names, hblank]
    cases hline : c.lines.get rule.line with
    | some target =>
      have hkey : c.lines.containsKey rule.line = true :=
        BTreeMap.containsKey_iff.mpr ⟨target, hline⟩
      refine ⟨rule.line, target, counters, ?_, hnames, .line hline⟩
      simp [ruleTarget, RouteRule.lineTargetName, hblank, hkey, hline, pure, Except.pure]
    | none =>
      have hkey : c.lines.containsKey rule.line = false := by
        rw [Bool.eq_false_iff, ne_eq, BTreeMap.containsKey_iff]
        simp [hline]
      have hany := hrule.line hblank
      simp only [hasTarget, hkey, Bool.false_or, List.any_eq_true, beq_iff_eq] at hany
      obtain ⟨group, hmem, hname⟩ := hany
      obtain ⟨group', hfind⟩ := findGroup_isSome hmem
      rw [hname] at hfind
      -- the group field is blank, so the group is looked up under the name in the line field
      have hfilter : rule.group.filter (fun group => !isBlank group) = none := by
        rw [Option.filter_eq_none_iff]
        intro name hmem' hnonblank
        have := hrule.exactlyOne.mpr ⟨name, hmem', by simpa using hnonblank⟩
        rw [hblank] at this
        cases this
      refine hgroup ?_ ?_ hfind hnames
      · simp [RouteRule.lineTargetName, hkey]
      · simp [RouteRule.groupTargetName, hfilter, hblank]
  | true =>
    obtain ⟨name, hname, hnonblank⟩ := hrule.exactlyOne.mp hblank
    obtain ⟨group, hmem, rfl⟩ := hrule.group name hname hnonblank
    obtain ⟨group', hfind⟩ := findGroup_isSome hmem
    refine hgroup ?_ ?_ hfind ?_
    · simp [RouteRule.lineTargetName, hblank]
    · simp [RouteRule.groupTargetName, Option.mem_def.mp hname, hnonblank]
    · simpa [RouteRule.Names, hblank] using hname

/-- For an accepted configuration the selection never panics. The winning rule gets the target it
names; without a matching rule it is the default line's, and there is none only if that names
none; a target that is returned can be used. -/
theorem selectRoute_of_validate (h : c.validate = .ok ()) (location : IpLocation)
    (player requestHost : Option String) (security : Security) (balanceKey : String)
    (counters : Counters) :
    ∃ result counters', c.selectRouteWithHostContext location player requestHost security
        balanceKey counters = .ok (result, counters') ∧
      ((∃ rule ∈ c.rules, rule.matches location player requestHost (some security) = true) →
        ∃ rule ∈ c.rules, rule.matches location player requestHost (some security) = true ∧
          c.selectMatchingRule location player requestHost (some security) = some rule ∧
          ∃ name target, rule.Names name ∧ c.Provides name target ∧
            result = some (name, target)) ∧
      ((∀ rule ∈ c.rules, rule.matches location player requestHost (some security) = false) →
        (∃ target, c.Provides c.defaultLine target ∧ result = some (c.defaultLine, target)) ∨
          (∀ target, ¬c.Provides c.defaultLine target) ∧ result = none) ∧
      ∀ name target, result = some (name, target) →
        isBlank target.host = false ∧ byteLen target.host ≤ 255 ∧ target.port ≠ 0 := by
  have hvalid := valid_of_validate h
  have husable : ∀ {name target}, c.Provides name target →
      isBlank target.host = false ∧ byteLen target.host ≤ 255 ∧ target.port ≠ 0 := by
    intro name target ht
    obtain ⟨⟨hblank, hlen⟩, hport⟩ := hvalid.provides ht
    exact ⟨hblank, hlen, hport⟩
  rw [selectRouteWithHostContext]
  rcases selectMatchingRule_cases (c := c) location player requestHost (some security) with
    ⟨hnone, hno⟩ | ⟨rule, hmem, hmatch, hsome⟩
  · -- no rule matches: the default line
    obtain ⟨result, counters', hselect, hresult⟩ :=
      hvalid.selectTarget_spec c.defaultLine balanceKey counters
    rw [hnone]
    refine ⟨result, counters', hselect, ?_, fun _ => hresult, ?_⟩
    · rintro ⟨rule, hmem, hmatch⟩
      rw [hno rule hmem] at hmatch
      cases hmatch
    · rintro name target rfl
      rcases hresult with ⟨target', ht, heq⟩ | ⟨-, heq⟩
      · cases heq
        exact husable ht
      · cases heq
  · -- the winning rule names a target that is there
    obtain ⟨name, target, counters', htarget, hnames, hprovides⟩ :=
      hvalid.ruleTarget_spec (hvalid.rules rule hmem) balanceKey counters
    rw [hsome]
    simp only [htarget]
    refine ⟨some (name, target), counters', rfl, ?_, ?_, ?_⟩
    · exact fun _ => ⟨rule, hmem, hmatch, rfl, name, target, hnames, hprovides, rfl⟩
    · intro hno
      rw [hno rule hmem] at hmatch
      cases hmatch
    · rintro name' target' heq
      cases heq
      exact husable hprovides

end RoutingConfig

/-- One rule for every client, to a group of two hosts. -/
def clusterRouting : RoutingConfig where
  defaultLine := ""
  lines := .empty
  rules :=
    [{ priority := 0, line := "cluster", group := none, hosts := [], notHosts := [],
       countries := [], provinces := [], notProvinces := [], cities := [], notCountries := [],
       notCities := [], ispContains := [], notIspContains := [], players := [], notPlayers := [],
       vpn := none, notVpn := false, spam := none, notSpam := false, tor := none,
       notTor := false }]
  group :=
    [{ priority := 0, groupName := "cluster", mode := "round_robin", port := 25565,
       resolveSrv := false, hosts := ["a.example.com", "b.example.com"], counter := 0 }]

/-- The rule of `clusterRouting` names its group in the line field, and gets one of its hosts. -/
theorem selectRoute_of_validate_cluster :
    letI := asciiCase
    letI : StdHash := ⟨fun _ => 0⟩
    ∃ target counters', clusterRouting.selectRouteWithHostContext (.empty (.v4 0)) none none
        (.ofSets .default .default .default .default .default) "0.0.0.0" (fun _ => 7) =
        .ok (some ("cluster", target), counters') ∧
      clusterRouting.Provides "cluster" target ∧ target.port ≠ 0 := by
  let _ := asciiCase
  let _ : StdHash := ⟨fun _ => 0⟩
  obtain ⟨result, counters', hselect, hmatching, -, husable⟩ :=
    RoutingConfig.selectRoute_of_validate (c := clusterRouting) (by decide) (.empty (.v4 0)) none
      none (.ofSets .default .default .default .default .default) "0.0.0.0" fun _ => 7
  obtain ⟨rule, hmem, -, -, name, target, hnames, hprovides, rfl⟩ :=
    hmatching ⟨_, List.mem_singleton_self _, by decide⟩
  obtain rfl := List.mem_singleton.mp hmem
  obtain rfl : name = "cluster" := hnames
  exact ⟨target, counters', hselect, hprovides, (husable _ _ rfl).2.2⟩

end TransferGateway
