import TransferGateway.Config.Selection
import TransferGateway.Lib.Argmax
import Mathlib.Data.List.Pairwise

/-!
# The rank of a rule

The loop over the rules ends with the first of those that match with the greatest effective
priority. What other rules there are, and in which order, makes no difference to the route.
-/

namespace TransferGateway

/-! ### Effective priorities -/

/-- A checked rule is looked up among the groups under the name it gives. -/
lemma RouteRule.Valid.groupTargetName_eq {rule : RouteRule} {c : RoutingConfig}
    (h : rule.Valid c) : ∃ name, rule.groupTargetName = some name ∧
      ∀ name', rule.Names name' ↔ name' = name := by
  cases hblank : isBlank rule.line with
  | false =>
    have hfilter : rule.group.filter (fun group => !isBlank group) = none := by
      rw [Option.filter_eq_none_iff]
      intro name hname hnonblank
      have := h.exactlyOne.mpr ⟨name, hname, by simpa using hnonblank⟩
      rw [hblank] at this
      cases this
    refine ⟨rule.line, by simp [groupTargetName, hfilter, hblank], fun name' => ?_⟩
    simp [Names, hblank]
  | true =>
    obtain ⟨name, hname, hnonblank⟩ := h.exactlyOne.mp hblank
    rw [Option.mem_def] at hname
    refine ⟨name, by simp [groupTargetName, hname, hnonblank], fun name' => ?_⟩
    simp [Names, hblank, hname, eq_comm]

namespace RoutingConfig

variable [StdCase] {c : RoutingConfig}

lemma Valid.findGroup_eq (h : c.Valid) {group : RoutingGroup} (hmem : group ∈ c.group) :
    c.findGroup group.groupName = some group := by
  obtain ⟨other, hfind⟩ := findGroup_isSome hmem
  obtain ⟨hother, hname⟩ := findGroup_eq_some hfind
  have : Std.Symm fun a b : RoutingGroup => a.groupName ≠ b.groupName := ⟨fun _ _ => Ne.symm⟩
  have heq : other = group := by
    by_contra hne
    exact h.distinct.forall hother hmem hne hname
  rw [hfind, heq]

/-- The rule's own priority, else that of the group it names, else zero. -/
lemma Valid.effectivePriority_spec (h : c.Valid) {rule : RouteRule} (hrule : rule ∈ c.rules) :
    (rule.priority ≠ 0 → rule.effectivePriority c = rule.priority) ∧
    (rule.priority = 0 →
      (∀ group ∈ c.group, rule.Names group.groupName →
        rule.effectivePriority c = group.priority) ∧
      ((∀ group ∈ c.group, ¬rule.Names group.groupName) → rule.effectivePriority c = 0)) := by
  obtain ⟨name, hname, hnames⟩ := (h.rules rule hrule).groupTargetName_eq
  refine ⟨fun hne => by simp [RouteRule.effectivePriority, hne], fun hzero => ⟨?_, ?_⟩⟩
  · intro group hmem hgroup
    obtain rfl := (hnames _).mp hgroup
    simp [RouteRule.effectivePriority, hzero, hname, h.findGroup_eq hmem]
  · intro hnone
    have hfind : c.findGroup name = none := by
      refine List.find?_eq_none.mpr fun group hmem => ?_
      simpa [hnames] using hnone group hmem
    simp [RouteRule.effectivePriority, hzero, hname, hfind]

/-! ### The winning rule -/

section Selection

variable (c) (location : IpLocation) (player requestHost : Option String)
  (security : Option Security)

/-- The rules that match, in the order of the file. -/
def matching (rules : List RouteRule) : List RouteRule :=
  rules.filter fun rule => rule.matches location player requestHost security

lemma foldl_considerRule_eq (rules : List RouteRule) (selected : Option RouteRule) :
    rules.foldl (c.considerRule location player requestHost security)
        (selected.map fun rule => (rule.effectivePriority c, rule)) =
      ((matching location player requestHost security rules).foldl
        (List.argAux fun a b => b.effectivePriority c < a.effectivePriority c) selected).map
          fun rule => (rule.effectivePriority c, rule) := by
  induction rules generalizing selected with
  | nil => rfl
  | cons rule rules ih =>
    rw [List.foldl_cons, matching, List.filter_cons]
    split
    · rename_i hmatch
      rw [List.foldl_cons, ← matching, ← ih]
      refine congrArg (List.foldl _ · rules) ?_
      cases selected with
      | none => simp [considerRule, hmatch, List.argAux]
      | some other =>
        simp only [considerRule, hmatch, Option.map_some, Option.all_some, List.argAux,
          gt_iff_lt, decide_eq_true_eq, Bool.not_true, Bool.false_eq_true, if_false]
        split <;> rfl
    · rename_i hmatch
      rw [← matching, ← ih]
      simp [considerRule, hmatch]

/-- The loop over the rules keeps the first of those with the greatest priority. -/
lemma selectMatchingRule_eq : c.selectMatchingRule location player requestHost security =
    Argmax.best (RouteRule.effectivePriority · c)
      (fun rule => rule.matches location player requestHost security) c.rules := by
  have hloop := c.foldl_considerRule_eq location player requestHost security c.rules none
  rw [Option.map_none] at hloop
  rw [selectMatchingRule, hloop, Option.map_map]
  exact congrFun Option.map_id _

end Selection

variable [StdHash]

/-- The route depends on the rules through the winning one only. -/
lemma selectRoute_rules {rules : List RouteRule} {location : IpLocation}
    {player requestHost : Option String} {security : Security}
    (h : ({ c with rules } : RoutingConfig).selectMatchingRule location player requestHost
        (some security) = c.selectMatchingRule location player requestHost (some security))
    (balanceKey : String) (counters : Counters) :
    ({ c with rules } : RoutingConfig).selectRouteWithHostContext location player requestHost
        security balanceKey counters =
      c.selectRouteWithHostContext location player requestHost security balanceKey counters := by
  rw [selectRouteWithHostContext, selectRouteWithHostContext, h]
  rfl

/-- For an accepted configuration no rule is selected only when none matches, and otherwise the
first of those with the greatest effective priority, with and without block lists. Rules that do not
match or that others outrank may come and go, and rules of different priorities may change places,
without a change of rule or route. -/
theorem selectMatchingRule_spec (h : c.validate = .ok ()) (location : IpLocation)
    (player requestHost : Option String) (security : Option Security) :
    let verdict := fun rule : RouteRule => rule.matches location player requestHost security
    let selected := c.selectMatchingRule location player requestHost security
    (selected = none ↔ ∀ rule ∈ c.rules, verdict rule = false) ∧
    (∀ rule, selected = some rule ↔ ∃ before after, c.rules = before ++ rule :: after ∧
      verdict rule = true ∧
      (∀ other ∈ before, verdict other = true →
        other.effectivePriority c < rule.effectivePriority c) ∧
      ∀ other ∈ after, verdict other = true →
        other.effectivePriority c ≤ rule.effectivePriority c) ∧
    (∀ rule ∈ c.rules,
      (rule.priority ≠ 0 → rule.effectivePriority c = rule.priority) ∧
      (rule.priority = 0 →
        (∀ group ∈ c.group, rule.Names group.groupName →
          rule.effectivePriority c = group.priority) ∧
        ((∀ group ∈ c.group, ¬rule.Names group.groupName) → rule.effectivePriority c = 0))) ∧
    ∀ rules, Argmax.Edited (RouteRule.effectivePriority · c) verdict c.rules rules →
      ({ c with rules } : RoutingConfig).selectMatchingRule location player requestHost security =
        selected ∧
      ∀ lists, security = some lists → ∀ (balanceKey : String) (counters : Counters),
        ({ c with rules } : RoutingConfig).selectRouteWithHostContext location player requestHost
            lists balanceKey counters =
          c.selectRouteWithHostContext location player requestHost lists balanceKey counters := by
  intro verdict selected
  have hselected : selected = Argmax.best (RouteRule.effectivePriority · c) verdict c.rules :=
    c.selectMatchingRule_eq location player requestHost security
  refine ⟨?_, ?_, fun rule => (valid_of_validate h).effectivePriority_spec, ?_⟩
  · rw [hselected, Argmax.best_eq_none]
  · intro rule
    rw [hselected, Argmax.best_eq_some_iff]
  · intro rules hedited
    have hrule : ({ c with rules } : RoutingConfig).selectMatchingRule location player requestHost
        security = selected := by
      rw [hselected, selectMatchingRule_eq]
      exact hedited.best_eq
    refine ⟨hrule, ?_⟩
    rintro lists rfl balanceKey counters
    exact selectRoute_rules hrule balanceKey counters

end RoutingConfig

/-- A rule that does not match may stand before the one of `clusterRouting`. -/
theorem selectMatchingRule_spec_cluster :
    letI := asciiCase
    letI : StdHash := ⟨fun _ => 0⟩
    let location : IpLocation := .empty (.v4 0)
    let security : Security := .ofSets .default .default .default .default .default
    clusterRouting.selectMatchingRule location none none (some security) ≠ none ∧
    ∀ rule : RouteRule, rule.matches location none none (some security) = false →
      ∀ balanceKey counters, ({ clusterRouting with rules := rule :: clusterRouting.rules } :
          RoutingConfig).selectRouteWithHostContext location none none security balanceKey
          counters =
        clusterRouting.selectRouteWithHostContext location none none security balanceKey
          counters := by
  let _ := asciiCase
  let _ : StdHash := ⟨fun _ => 0⟩
  intro location security
  obtain ⟨hnone, -, -, hroute⟩ :=
    RoutingConfig.selectMatchingRule_spec (c := clusterRouting) (by decide) location none none
      (some security)
  refine ⟨fun hselected => ?_, fun rule hrule => (hroute _ ?_).2 security rfl⟩
  · have hfalse := hnone.mp hselected _ (List.mem_singleton_self _)
    revert hfalse
    decide
  · exact .insert [] clusterRouting.rules .refl (.inl hrule)

end TransferGateway
