import TransferGateway.Config.Counters
import TransferGateway.Server.Rotation

/-!
# A group among others

A connection is served with the state that is published when it comes, and a state is published
again with each new database or list. All these states have the same counters. Every selection is one
of a single group or of none, so a group's own selections rotate whatever is selected in between.
-/

namespace TransferGateway

open Protocol

/-! ### The group of a selection -/

section Groups

variable [StdCase] [StdHash]

/-- The selection is one of these groups, or it takes no counter at all. -/
def TakesFrom (groups : List RoutingGroup) (select : Select) : Prop :=
  (∃ group ∈ groups, group.Routes select) ∨ ∃ r, ∀ counters, select counters = .ok (r, counters)

lemma TakesFrom.of_eq {groups : List RoutingGroup} {select select' : Select}
    (h : TakesFrom groups select) (heq : ∀ counters, select' counters = select counters) :
    TakesFrom groups select' := by
  rwa [show select' = select from funext heq]

lemma TakesFrom.mono {groups groups' : List RoutingGroup} {select : Select}
    (h : TakesFrom groups select) (hsub : groups ⊆ groups') : TakesFrom groups' select := by
  rcases h with ⟨group, hgroup, hroutes⟩ | hconstant
  · exact .inl ⟨group, hsub hgroup, hroutes⟩
  · exact .inr hconstant

/-- The name of the line makes no difference. -/
lemma TakesFrom.map {groups : List RoutingGroup} {select : Select} (h : TakesFrom groups select)
    (f : String → String) : TakesFrom groups fun counters => do
      let (selected, counters) ← select counters
      return (selected.map fun (name, target) => (f name, target), counters) := by
  rcases h with ⟨group, hgroup, line, balanceKey, hroutes⟩ | ⟨r, hr⟩
  · refine .inl ⟨group, hgroup, f line, balanceKey, fun counters => ?_⟩
    dsimp only
    rw [hroutes]
    cases group.selectTarget balanceKey counters <;> rfl
  · refine .inr ⟨r.map fun (name, target) => (f name, target), fun counters => ?_⟩
    dsimp only
    rw [hr]
    rfl

namespace RoutingConfig

variable (c : RoutingConfig)

lemma takesFrom_selectTarget (name balanceKey : String) :
    TakesFrom c.group (c.selectTarget name balanceKey) := by
  cases hline : c.lines.get name with
  | some target =>
    refine .inr ⟨some (name, target), fun counters => ?_⟩
    rw [selectTarget, hline]
    rfl
  | none =>
    cases hgroup : c.findGroup name with
    | none =>
      refine .inr ⟨none, fun counters => ?_⟩
      rw [selectTarget, hline, hgroup]
      rfl
    | some group =>
      refine .inl ⟨group, List.mem_of_find?_eq_some hgroup, name, balanceKey, fun counters => ?_⟩
      rw [selectTarget, hline, hgroup]
      dsimp only
      cases group.selectTarget balanceKey counters <;> rfl

lemma takesFrom_selectRoute (location : IpLocation) (player requestHost : Option String)
    (security : Security) (balanceKey : String) :
    TakesFrom c.group
      (c.selectRouteWithHostContext location player requestHost security balanceKey) := by
  cases hrule : c.selectMatchingRule location player requestHost (some security) with
  | none =>
    refine (c.takesFrom_selectTarget c.defaultLine balanceKey).of_eq fun counters => ?_
    rw [selectRouteWithHostContext, hrule]
  | some rule =>
    cases hline : (rule.lineTargetName c).bind fun name => (c.lines.get name).map (name, ·) with
    | some route =>
      refine .inr ⟨some route, fun counters => ?_⟩
      rw [selectRouteWithHostContext, hrule]
      simp only [ruleTarget, hline]
      rfl
    | none =>
      cases hgroup : rule.groupTargetName.bind fun name => (c.findGroup name).map (name, ·) with
      | none =>
        refine (c.takesFrom_selectTarget c.defaultLine balanceKey).of_eq fun counters => ?_
        rw [selectRouteWithHostContext, hrule]
        simp only [ruleTarget, hline, hgroup]
        rfl
      | some named =>
        obtain ⟨name, -, hnamed⟩ := Option.bind_eq_some_iff.mp hgroup
        obtain ⟨group, hfind, rfl⟩ := Option.map_eq_some_iff.mp hnamed
        refine .inl ⟨group, List.mem_of_find?_eq_some hfind, name, balanceKey, fun counters => ?_⟩
        rw [selectRouteWithHostContext, hrule]
        simp only [ruleTarget, hline, hgroup]
        cases group.selectTarget balanceKey counters <;> rfl

end RoutingConfig

lemma VhostsConfig.takesFrom_selectRoute (vhosts : VhostsConfig) (location : IpLocation)
    (player requestHost : Option String) (security : Security) (balanceKey : String) :
    TakesFrom vhosts.groups
      (vhosts.selectRouteWithContext location player requestHost security balanceKey) := by
  cases hrouting : vhosts.selectRouting requestHost with
  | none =>
    refine .inr ⟨none, fun counters => ?_⟩
    rw [selectRouteWithContext, hrouting]
    rfl
  | some entry =>
    obtain ⟨name, routing⟩ := entry
    have hentry : (name, routing) ∈ vhosts.routes.entries := by
      rcases Option.or_eq_some_iff.mp hrouting with hfind | ⟨-, hfind⟩
      · obtain ⟨host, -, hfind⟩ := Option.bind_eq_some_iff.mp hfind
        exact List.mem_of_find?_eq_some hfind
      · exact List.mem_of_find?_eq_some hfind
    have hsub : routing.group ⊆ vhosts.groups := by
      intro group hgroup
      exact List.mem_flatMap.mpr ⟨(name, routing), hentry, hgroup⟩
    refine (((routing.takesFrom_selectRoute location player requestHost security
      balanceKey).map fun line => s!"{name}/{line}").mono hsub).of_eq fun counters => ?_
    rw [selectRouteWithContext, hrouting]

/-- A selection is one of a group of the configuration, or it takes no counter at all. -/
lemma AppConfig.takesFrom_selectRoute (c : AppConfig) (location : IpLocation)
    (player requestHost : Option String) (security : Security) (balanceKey : String) :
    TakesFrom c.groups
      (c.selectRouteWithHostContext location player requestHost security balanceKey) := by
  rw [groups]
  cases hvhosts : c.vhosts with
  | some vhosts =>
    refine (vhosts.takesFrom_selectRoute location player requestHost security balanceKey).of_eq
      fun counters => ?_
    rw [selectRouteWithHostContext, hvhosts]
  | none =>
    cases hrouting : c.routing with
    | some routing =>
      refine (routing.takesFrom_selectRoute location player requestHost security balanceKey).of_eq
        fun counters => ?_
      rw [selectRouteWithHostContext, hvhosts, hrouting]
    | none =>
      refine .inr ⟨none, fun counters => ?_⟩
      rw [selectRouteWithHostContext, hvhosts, hrouting]
      rfl

omit [StdCase] [StdHash] in
lemma AppConfig.HasGroup.mem_groups {c : AppConfig} {group : RoutingGroup}
    (h : c.HasGroup group) : group ∈ c.groups := by
  rw [groups]
  cases hvhosts : c.vhosts with
  | some vhosts =>
    simp only [HasGroup, hvhosts] at h
    obtain ⟨name, -, routing, hrouting, hgroup⟩ := h
    exact List.mem_flatMap.mpr ⟨(name, routing), BTreeMap.mem_keys_of_get hrouting, hgroup⟩
  | none =>
    cases hrouting : c.routing with
    | some routing => simpa only [HasGroup, hvhosts, hrouting] using h
    | none => simp [HasGroup, hvhosts, hrouting] at h

omit [StdHash] in
/-- In a loaded configuration there are no other groups. -/
lemma AppConfig.Loaded.hasGroup [Toml.Parse] [UrlParse] {c : AppConfig} (h : c.Loaded)
    {group : RoutingGroup} (hgroup : group ∈ c.groups) : c.HasGroup group := by
  rw [groups] at hgroup
  cases hvhosts : c.vhosts with
  | some vhosts =>
    rw [hvhosts] at hgroup
    obtain ⟨⟨name, routing⟩, hentry, hgroup⟩ := List.mem_flatMap.mp hgroup
    have hname : name ∈ vhosts.routes.keys := List.mem_map_of_mem (f := Prod.fst) hentry
    obtain ⟨routing', hrouting⟩ := BTreeMap.containsKey_iff.mp
      (by simpa [BTreeMap.containsKey] using hname)
    obtain rfl : routing' = routing := (Prod.ext_iff.mp (List.inj_on_of_nodup_map
      vhosts.routes.nodup (BTreeMap.mem_keys_of_get hrouting) hentry rfl)).2
    simp only [HasGroup, hvhosts]
    exact ⟨name, h.keys hvhosts ▸ hname, routing', hrouting, hgroup⟩
  | none =>
    rw [hvhosts] at hgroup
    cases hrouting : c.routing with
    | some routing => simpa only [HasGroup, hvhosts, hrouting] using hgroup
    | none => simp [hrouting] at hgroup

/-- The selections of a loaded configuration do not panic. -/
lemma AppConfig.Loaded.selectRoute_ok [Toml.Parse] [UrlParse] {c : AppConfig} (h : c.Loaded)
    (location : IpLocation) (player requestHost : Option String) (security : Security)
    (balanceKey : String) (counters : Counters) :
    ∃ r, c.selectRouteWithHostContext location player requestHost security balanceKey counters =
      .ok r := by
  rcases c.takesFrom_selectRoute location player requestHost security balanceKey with
    ⟨group, hgroup, line, balanceKey', hroutes⟩ | ⟨r, hr⟩
  · have hvalid := (h.hasGroup hgroup).valid h.spec.1
    obtain ⟨host, -, counters', hselect⟩ := group.selectTarget_eq hvalid.nonempty balanceKey' counters
    exact ⟨_, by rw [hroutes, hselect]; rfl⟩
  · exact ⟨_, hr counters⟩

/-- A group counts on its own counter only. -/
lemma RoutingGroup.selectTarget_counters {group : RoutingGroup} {balanceKey : String}
    {counters counters' : Counters} {target : LineTarget} {a : ℕ}
    (h : group.selectTarget balanceKey counters = .ok (target, counters'))
    (ha : a ≠ group.counter) : counters' a = counters a := by
  rw [selectTarget, except_bind_eq_ok] at h
  obtain ⟨⟨index, counters''⟩, hindex, h⟩ := h
  obtain rfl : counters'' = counters' := by
    dsimp only at h
    split at h <;> cases h
    rfl
  dsimp only [selectIndex] at hindex
  split at hindex
  · obtain ⟨_, -, heq⟩ := except_bind_eq_ok.mp hindex
    cases heq
    exact Function.update_of_ne ha _ _
  · obtain ⟨_, -, heq⟩ := except_bind_eq_ok.mp hindex
    cases heq
    exact Function.update_of_ne ha _ _
  · obtain ⟨_, -, heq⟩ := except_bind_eq_ok.mp hindex
    cases heq
    rfl

/-- What is selected elsewhere leaves the group's counter alone. -/
lemma TakesFrom.undisturbed {groups : List RoutingGroup} {select : Select} {group : RoutingGroup}
    (h : TakesFrom groups select)
    (hcounter : ∀ other ∈ groups, group.counter = other.counter → group = other)
    (hroutes : ¬group.Routes select) {counters counters' : Counters}
    {r : Option (String × LineTarget)} (hselect : select counters = .ok (r, counters')) :
    counters' group.counter = counters group.counter := by
  rcases h with ⟨other, hother, hroutes'⟩ | ⟨r', hr'⟩
  · have hne : group.counter ≠ other.counter := by
      intro heq
      obtain rfl := hcounter other hother heq
      exact hroutes hroutes'
    obtain ⟨line, balanceKey, hroutes'⟩ := hroutes'
    rw [hroutes'] at hselect
    cases htarget : other.selectTarget balanceKey counters with
    | error panic => simp [htarget, Except.map] at hselect
    | ok taken =>
      rw [htarget] at hselect
      cases hselect
      exact RoutingGroup.selectTarget_counters htarget hne
  · rw [hr'] at hselect
    cases hselect
    rfl

end Groups

/-! ### Published states -/

section Published

variable [Xdb]

/-- The state, or one that was published since with a new database or new lists. -/
inductive RuntimeState.Republished (state : RuntimeState) : RuntimeState → Prop where
  | refl : Republished state state
  | withIp2region {s : RuntimeState} (h : Republished state s) (ip2region : Ip2Region) :
      Republished state (s.withIp2region ip2region)
  | withSecurity {s : RuntimeState} (h : Republished state s) (security : Security) :
      Republished state (s.withSecurity security)

lemma RuntimeState.Republished.config_eq {state s : RuntimeState} (h : state.Republished s) :
    s.config = state.config := by
  induction h with
  | refl => rfl
  | withIp2region h ip2region ih => exact ih
  | withSecurity h security ih => exact ih

lemma Selected.IsFrom.takesFrom [StdCase] [StdHash] {state published : RuntimeState} {n : Selected}
    (h : n.IsFrom published) (hpublished : state.Republished published) :
    TakesFrom state.config.groups n.select := by
  obtain ⟨location, player, requestHost, balanceKey, hselect⟩ := h
  rw [hselect, hpublished.config_eq]
  exact state.config.takesFrom_selectRoute ..

end Published

/-! ### The rotation -/

open Classical in
/-- What is shared, as far as the group's selections go. -/
noncomputable def Shared.only [StdCase] [StdHash] (s : Shared) (group : RoutingGroup) : Shared :=
  { s with selections := s.selections.filter fun n => group.Routes n.select }

/-- The targets of `n` turns in a row are those of the hosts, each once. -/
lemma RoutingGroup.targets_perm {group : RoutingGroup} {targets : List (Option LineTarget)}
    (htargets : targets = (List.range targets.length).map fun k =>
      some (group.targetAt (Rotation.place (2 ^ 64) group.hosts.length k)))
    (hfew : targets.length < 2 ^ 64) {start : ℕ}
    (hstart : start + group.hosts.length ≤ targets.length) :
    ((targets.drop start).take group.hosts.length).Perm
      (group.hosts.map fun host => some ⟨host, group.port, group.resolveSrv⟩) := by
  have hhosts : (group.hosts.map fun host => some ⟨host, group.port, group.resolveSrv⟩) =
      (List.range group.hosts.length).map fun i => some (group.targetAt i) := by
    apply List.ext_getElem (by simp)
    intro i hi _
    rw [List.length_map] at hi
    simp [targetAt, hi]
  have hturns : (targets.drop start).take group.hosts.length =
      ((List.range' start group.hosts.length).map
        (Rotation.place (2 ^ 64) group.hosts.length)).map fun i => some (group.targetAt i) := by
    rw [htargets, List.map_map, ← List.map_drop, ← List.map_take]
    congr 1
    refine List.ext_getElem ?_ fun i _ _ => ?_
    · simp
      omega
    · simp
  rw [hhosts, hturns]
  exact (Rotation.map_place_perm (by omega)).map _

section Running

variable [Xdb] [StdParse] [StdCase] [StdHash] [StdDisplay] [Md5]

/-- The runs of the connections of any clients, each under a state that was published by then. -/
abbrev Connections.RepublishedRun (state : RuntimeState) :
    List (Connections × ConnectionsEvent) → Connections → Prop :=
  Pool.Run (Thread.step Shared.handle Sockets.receive)
    (fun t => ∃ published, state.Republished published ∧ ∃ peer, t = .new published peer) .start

variable {state : RuntimeState} {history : List (Connections × ConnectionsEvent)} {s : Connections}

lemma Connections.RepublishedRun.invariant {I : Shared → Prop}
    (h : Connections.RepublishedRun state history s) (hstart : I .start)
    (hop : ∀ {β} (o : TaskOp β) (published : RuntimeState), state.Republished published →
      SelectsFrom published β o → ∀ c own s, I s → I (Shared.handle β o c (own, s)).2.2) :
    I s.shared := by
  refine Thread.shared_invariant (P := fun β o => ∃ published, state.Republished published ∧
    SelectsFrom published β o) h hstart ?_ ?_
  · rintro _ ⟨published, hpublished, peer, rfl⟩
    exact (all_handleConnection peer).mono fun o ho => ⟨published, hpublished, ho⟩
  · rintro β o ⟨published, hpublished, ho⟩
    exact hop o published hpublished ho

lemma Connections.RepublishedRun.isFrom (h : Connections.RepublishedRun state history s) :
    ∀ n ∈ s.shared.selections, ∃ published, state.Republished published ∧ n.IsFrom published := by
  refine h.invariant (I := fun s => ∀ n ∈ s.selections, ∃ published,
    state.Republished published ∧ n.IsFrom published) (by simp [Shared.start])
    fun o published hpublished ho c own s hfrom => ?_
  rcases Shared.handle_cases ho c own s with ⟨-, hselections⟩ | ⟨n, hn, hselections, -⟩
  · rw [hselections]
    exact hfrom
  · rw [hselections, List.forall_mem_append, List.forall_mem_singleton]
    exact ⟨hfrom, published, hpublished, hn⟩

lemma Connections.RepublishedRun.rotated {group : RoutingGroup}
    (h : Connections.RepublishedRun state history s)
    (hcounter : ∀ other ∈ state.config.groups, group.counter = other.counter → group = other)
    (hmode : parseGroupMode group.mode = some .roundRobin) (hhosts : group.hosts ≠ []) :
    group.Rotated (s.shared.only group) := by
  refine h.invariant (I := fun s => group.Rotated (s.only group)) ⟨rfl, rfl⟩
    fun o published hpublished ho c own s hrotated => ?_
  generalize hs' : (Shared.handle _ o c (own, s)).2.2 = s'
  have hcases := Shared.handle_cases ho c own s
  rw [hs'] at hcases
  dsimp only at hcases
  rcases hcases with ⟨hcounters, hselections⟩ | ⟨n, hn, hselections, hresult, hcounters, hpanic⟩
  · simpa only [RoutingGroup.Rotated, Shared.only, hcounters, hselections] using hrotated
  by_cases hroutes : group.Routes n.select
  · have honly : (s'.only group).selections = (s.only group).selections ++ [n] := by
      simp [Shared.only, hselections, hroutes]
    exact hrotated.next hmode hhosts hroutes honly hresult hcounters
  · -- a selection of another group, or of a line
    have honly : (s'.only group).selections = (s.only group).selections := by
      simp [Shared.only, hselections, hroutes]
    have hkept : s'.counters group.counter = s.counters group.counter := by
      cases hselect : n.select s.counters with
      | error panic => rw [hpanic panic hselect]
      | ok r =>
        rw [hcounters r.1 r.2 hselect]
        exact (hn.takesFrom hpublished).undisturbed hcounter hroutes hselect
    rw [RoutingGroup.Rotated, honly]
    exact ⟨hkept.trans hrotated.1, hrotated.2⟩

/-- However the connections of all clients are interleaved, and whatever is published meanwhile, each
selection of a group takes the next of its hosts. Any `n` of them in a row take every host once, no
host is ahead of another by more than one, and no other selection moves the counter. -/
theorem group_rotates_among_others [Toml.Parse] [UrlParse] {group : RoutingGroup}
    (hloaded : state.HasLoaded) (hgroup : state.config.HasGroup group)
    (hmode : parseGroupMode group.mode = some .roundRobin)
    (h : Connections.RepublishedRun state history s)
    (hfew : (s.shared.only group).selections.length < 2 ^ 64) :
    let n := group.hosts.length
    let own := (s.shared.only group).selections
    0 < n ∧ (s.shared.counters group.counter).toNat = own.length ∧
    own.map Selected.target =
      (List.range own.length).map (fun k => some (group.targetAt (k % n))) ∧
    (∀ start, start + n ≤ own.length → (((own.map Selected.target).drop start).take n).Perm
      (group.hosts.map fun host => some ⟨host, group.port, group.resolveSrv⟩)) ∧
    (∀ i < n, ∀ j < n, Nat.count (fun k => k % n = i) own.length ≤
      Nat.count (fun k => k % n = j) own.length + 1) ∧
    ∀ x ∈ s.shared.selections, (∃ published, state.Republished published ∧ x.IsFrom published) ∧
      (¬group.Routes x.select → ∀ counters r counters',
        x.select counters = .ok (r, counters') →
          counters' group.counter = counters group.counter) := by
  intro n own
  obtain ⟨config, configPath, hloaded, hconfig⟩ := hloaded
  have hvalid : group.Valid :=
    AppConfig.HasGroup.valid (c := config) (by rwa [hconfig] at hgroup) hloaded.spec.1
  have hcounter : ∀ other ∈ state.config.groups, group.counter = other.counter → group = other := by
    have hmem := hgroup.mem_groups
    rw [hconfig] at hmem ⊢
    exact fun other hother => hloaded.eq_of_counter hmem hother
  obtain ⟨hcount, htargets⟩ := h.rotated hcounter hmode hvalid.nonempty
  have htimes : ∀ i, Nat.count (fun k => k % n = i) own.length =
      Rotation.times (2 ^ 64) n i own.length := by
    intro i
    exact Rotation.count_congr fun k hk => by rw [Rotation.place_of_lt (hk.trans hfew)]
  refine ⟨List.length_pos_iff.mpr hvalid.nonempty, ?_, ?_, fun start hstart => ?_,
    fun i hi j hj => ?_, fun x hx => ?_⟩
  · exact (congrArg UInt64.toNat hcount).trans (UInt64.toNat_ofNat_of_lt' hfew)
  · refine htargets.trans (List.map_congr_left fun k hk => ?_)
    rw [Rotation.place_of_lt ((List.mem_range.mp hk).trans hfew)]
  · exact RoutingGroup.targets_perm (by simpa using htargets) (by simpa using hfew)
      (by simpa using hstart)
  · have hle := Rotation.times_le (Nat.two_pow_pos 64) hi hj own.length
    rwa [Nat.div_eq_of_lt hfew, ← htimes, ← htimes] at hle
  · obtain ⟨published, hpublished, hfrom⟩ := h.isFrom x hx
    exact ⟨⟨published, hpublished, hfrom⟩, fun hroutes counters r counters' hselect =>
      (hfrom.takesFrom hpublished).undisturbed hcounter hroutes hselect⟩

end Running

/-! ### Two states -/

section Cluster

/-- The parser, as far as the file of `clusterRouting` goes. -/
@[reducible] def clusterParse : Toml.Parse where
  fromStr _ := some
    [("server", .table []),
     ("routing", .table [("default_line", .string ""),
       ("rules", .array [.table [("line", .string "cluster")]]),
       ("group", .array [.table [("group_name", .string "cluster"),
         ("hosts", .array [.string "a.example.com", .string "b.example.com"])]])])]

attribute [local instance] noXdb dottedParse asciiCase noHash noDisplay noMd5 httpsUrl clusterParse

def loadedCluster : RuntimeState :=
  { clusterState with config := clusterState.config.resolvePaths torPath }

lemma loadedCluster_hasLoaded : loadedCluster.HasLoaded := by
  have hrun := Prog.outcome_run_alone (h := Sys.handle) (AppConfig.load torPath)
    (fun _ => Choice.calm) torGateway
  have hload : ((AppConfig.load torPath).run Sys.handle (fun _ => ⟨id, .calm⟩) torGateway).1 =
      .ok clusterState.config := rfl
  rw [hload] at hrun
  exact ⟨_, torPath, ⟨_, _, _, _, hrun⟩, rfl⟩

lemma loadedCluster_routes {n : Selected} {published : RuntimeState}
    (hpublished : loadedCluster.Republished published) (h : n.IsFrom published) :
    clusterGroup.Routes n.select := by
  obtain ⟨location, player, requestHost, balanceKey, hselect⟩ := h
  refine ⟨"cluster", balanceKey, fun counters => ?_⟩
  rw [hselect, hpublished.config_eq]
  exact clusterRouting_selectRoute ..

/-- Two clients query the status at once, the second one after the databases were replaced. -/
def republishedEvents : List ConnectionsEvent :=
  let query := handshakeFrame 1 ++ frame 0 []
  [.enter (.new loadedCluster ⟨.v4 1, 1⟩),
    .enter (.new (loadedCluster.withIp2region ⟨none, none⟩) ⟨.v4 2, 1⟩),
    .move 0 (.receives (.client query)), .move 1 (.receives (.client query))] ++
  calmly 1 7 ++ calmly 0 7

/-- The first one of them takes the second host. -/
theorem group_rotates_among_others_cluster :
    ∃ history s, Connections.RepublishedRun loadedCluster history s ∧
      history.map Prod.snd = republishedEvents ∧
      (s.shared.only clusterGroup).selections.map Selected.target =
        [0, 1].map fun index => some (clusterGroup.targetAt index) := by
  have hend : (Pool.follow (Thread.step Shared.handle Sockets.receive) ⟨[], .start⟩
      republishedEvents).map (fun s : Connections => s.shared.selections.length) = some 2 := by
    decide +kernel
  obtain ⟨s, hs, hlength⟩ := Option.map_eq_some_iff.mp hend
  have henters : ∀ t, .enter t ∈ republishedEvents →
      ∃ published, loadedCluster.Republished published ∧ ∃ peer, t = .new published peer := by
    intro t ht
    have ht : t = .new loadedCluster ⟨.v4 1, 1⟩ ∨
        t = .new (loadedCluster.withIp2region ⟨none, none⟩) ⟨.v4 2, 1⟩ := by
      simpa [republishedEvents, calmly] using ht
    rcases ht with rfl | rfl
    · exact ⟨_, .refl, _, rfl⟩
    · exact ⟨_, .withIp2region .refl _, _, rfl⟩
  obtain ⟨history, hrun, hevents⟩ := Pool.Run.follow .start henters hs
  have hrun : Connections.RepublishedRun loadedCluster history s := hrun
  have hown : (s.shared.only clusterGroup).selections.length = 2 := by
    rw [Shared.only, List.filter_eq_self.mpr, hlength]
    intro n hn
    obtain ⟨published, hpublished, hfrom⟩ := hrun.isFrom n hn
    simpa using loadedCluster_routes hpublished hfrom
  have hgroup : loadedCluster.config.HasGroup clusterGroup := List.head_mem _
  have htargets := (group_rotates_among_others loadedCluster_hasLoaded hgroup (by decide) hrun
    (by rw [hown]; decide)).2.2.1
  rw [hown] at htargets
  exact ⟨history, s, hrun, hevents, htargets⟩

end Cluster

end TransferGateway
