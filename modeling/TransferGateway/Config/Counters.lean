import TransferGateway.Config.Vhosts

/-!
# The counters of a configuration

Every group that is decoded gets a counter of its own: the counters of a loaded configuration are
numbered one after the other, over all its virtual hosts.
-/

namespace TransferGateway

/-! ### Decoding -/

lemma RoutingGroup.counter_of_decode {counter : ℕ} {v : Toml.Value} {group : RoutingGroup}
    (h : decode counter v = some group) : group.counter = counter := by
  simp only [decode, Option.bind_eq_bind, Option.bind_eq_some_iff, Option.pure_def,
    Option.some.injEq] at h
  obtain ⟨t, -, priority, -, groupName, -, mode, -, port, -, resolveSrv, -, hosts, -, rfl⟩ := h
  rfl

lemma RoutingGroup.counters_of_mapM {base k : ℕ} {values : List Toml.Value}
    {groups : List RoutingGroup}
    (h : (values.zipIdx k).mapM (fun (v, index) => decode (base + index) v) = some groups) :
    groups.map (·.counter) = List.range' (base + k) groups.length := by
  induction values generalizing k groups with
  | nil =>
    cases h
    rfl
  | cons v values ih =>
    rw [List.zipIdx_cons, List.mapM_cons] at h
    simp only [Option.bind_eq_bind, Option.bind_eq_some_iff, Option.pure_def,
      Option.some.injEq] at h
    obtain ⟨group, hgroup, rest, hrest, rfl⟩ := h
    rw [List.map_cons, List.length_cons, List.range'_succ, counter_of_decode hgroup, ih hrest,
      Nat.add_assoc]

namespace RoutingConfig

/-- The numbers of the groups' counters follow each other. -/
def NumberedFrom (base : ℕ) (c : RoutingConfig) : Prop :=
  c.group.map (·.counter) = List.range' base c.group.length

lemma numbered_of_decode {base : ℕ} {v : Toml.Value} {c : RoutingConfig}
    (h : decode base v = some c) : c.NumberedFrom base := by
  simp only [decode, decodeTable, Option.bind_eq_bind, Option.bind_eq_some_iff, Option.pure_def,
    Option.some.injEq] at h
  obtain ⟨t, -, defaultLine, -, lines, -, rules, -, groups, -, group, hgroup, rfl⟩ := h
  exact RoutingGroup.counters_of_mapM hgroup

lemma numbered_of_vhostRouting {base : ℕ} {document : Toml.Value} {c : RoutingConfig}
    (h : vhostRouting base document = .ok c) : c.NumberedFrom base := by
  rw [vhostRouting] at h
  split at h
  · split at h
    · cases h
      rfl
    · cases h
  · split at h
    · rename_i hdecode
      cases h
      exact numbered_of_decode hdecode
    · cases h

end RoutingConfig

/-! ### Loading -/

namespace VhostsConfig

/-- The groups of all virtual hosts. -/
def groups (vhosts : VhostsConfig) : List RoutingGroup :=
  vhosts.routes.entries.flatMap fun entry => entry.2.group

variable [Toml.Parse]

lemma returns_loadVhostRouting (path : Path) (base : ℕ) :
    (loadVhostRouting path base).Returns (RoutingConfig.NumberedFrom base) := by
  refine Prog.returns_bind fun _ => Prog.returns_bind fun source => ?_
  split
  · trivial
  · exact Prog.returns_ofExcept fun _ => RoutingConfig.numbered_of_vhostRouting

/-- So far the counters are numbered from zero. -/
lemma returns_loadRoutes_counters (configPath : Path) (files : List (String × Path)) (base : ℕ)
    (routes : BTreeMap RoutingConfig) (h : (routes.keys ++ files.map Prod.fst).Nodup)
    (hroutes : (routes.entries.flatMap fun entry => entry.2.group).map (·.counter) =
      List.range base) :
    (loadRoutes configPath files base routes).Returns fun routes' =>
      ((routes'.entries.flatMap fun entry => entry.2.group).map (·.counter)).Nodup := by
  induction files generalizing base routes with
  | nil =>
    rw [loadRoutes]
    change List.Nodup _
    rw [hroutes]
    exact List.nodup_range
  | cons file files ih =>
    obtain ⟨name, path⟩ := file
    refine Prog.returns_bind fun _ => Prog.Returns.bind (R := RoutingConfig.NumberedFrom base)
      (Prog.Returns.mapError _ (returns_loadVhostRouting _ base)) fun routing hrouting => ?_
    have hname : name ∉ routes.keys := by
      intro hmem
      exact List.disjoint_of_nodup_append h hmem List.mem_cons_self
    have hentries := BTreeMap.entries_insert hname routing
    refine ih _ _ ?_ ?_
    · rw [BTreeMap.keys, hentries, List.map_append, List.append_assoc]
      exact h
    · rw [hentries, List.flatMap_append, List.map_append, hroutes, List.flatMap_singleton]
      change _ ++ routing.group.map (·.counter) = _
      rw [hrouting]
      simpa only [List.range_eq_range', Nat.zero_add] using
        List.range'_append_1 (s := 0) (m := base) (n := routing.group.length)

lemma returns_load_counters (vhosts : VhostsConfig) (configPath : Path) :
    (vhosts.load configPath).Returns fun vhosts' => (vhosts'.groups.map (·.counter)).Nodup := by
  refine .bind (returns_loadRoutes_counters configPath vhosts.files.entries 0 .empty ?_ rfl)
    fun routes hroutes => hroutes
  simpa [BTreeMap.empty, BTreeMap.keys] using vhosts.files.nodup

end VhostsConfig

namespace AppConfig

/-- The groups of the configuration, of all its virtual hosts or of its routing. -/
def groups (c : AppConfig) : List RoutingGroup :=
  match c.vhosts, c.routing with
  | some vhosts, _ => vhosts.groups
  | none, some routing => routing.group
  | none, none => []

variable [Toml.Parse] [UrlParse] [StdCase]

/-- The configuration is the result of a load. -/
def Loaded (c : AppConfig) : Prop :=
  ∃ (path : Path) (E : Env Choice Sys) (s s' : Sys),
    (load path).Outcome Sys.handle E s (.ok c) s'

omit [Toml.Parse] [UrlParse] [StdCase] in
lemma numbered_of_decode {t : Toml.Table} {c : AppConfig} (h : decode t = some c)
    {routing : RoutingConfig} (hrouting : c.routing = some routing) : routing.NumberedFrom 0 := by
  simp only [decode, Option.bind_eq_bind, Option.bind_eq_some_iff, Option.pure_def,
    Option.some.injEq] at h
  obtain ⟨server, -, ip2region, -, security, -, decoded, hdecoded, vhosts, -, language, -, logging,
    -, rfl⟩ := h
  obtain rfl : decoded = some routing := hrouting
  rw [Toml.Table.optional, Toml.Table.field] at hdecoded
  split at hdecoded
  · cases hdecoded
  · rename_i v _
    obtain ⟨routing', hdecode, heq⟩ := Option.map_eq_some_iff.mp hdecoded
    cases heq
    exact RoutingConfig.numbered_of_decode hdecode
  · cases hdecoded

omit [UrlParse] [StdCase] in
lemma returns_loadVhosts {config : AppConfig} {t : Toml.Table} (h : decode t = some config)
    (path : Path) :
    (config.loadVhosts path).Returns fun c => (c.groups.map (·.counter)).Nodup := by
  rw [loadVhosts]
  cases hvhosts : config.vhosts with
  | some vhosts =>
    exact .bind (vhosts.returns_load_counters path) fun vhosts' hvhosts' => hvhosts'
  | none =>
    change List.Nodup _
    rw [groups, hvhosts]
    cases hrouting : config.routing with
    | none => exact List.nodup_nil
    | some routing =>
      dsimp only
      rw [numbered_of_decode h hrouting]
      exact List.nodup_range'

/-- A loaded configuration is accepted, and no two of its groups share a counter. -/
lemma Loaded.spec {c : AppConfig} (h : c.Loaded) :
    c.validate = .ok () ∧ (c.groups.map (·.counter)).Nodup := by
  obtain ⟨path, E, s, s', hout⟩ := h
  have hreturns : (load path).Returns fun c =>
      c.validate = .ok () ∧ (c.groups.map (·.counter)).Nodup := by
    refine Prog.returns_bind fun _ => Prog.returns_bind fun source => ?_
    split
    · trivial
    · rename_i config hdecode
      obtain ⟨t, -, hdecode⟩ := Option.bind_eq_some_iff.mp hdecode
      refine .bind (returns_loadVhosts hdecode path) fun config' hcounters => ?_
      exact Prog.Returns.bind (R := fun _ => config'.validate = .ok ())
        (Prog.returns_ofExcept fun _ hvalid => hvalid) fun _ hvalid => ⟨hvalid, hcounters⟩
  exact Prog.wp_iff_outcome.mp (hreturns.wp s) _ _ hout

/-- The virtual hosts of a loaded configuration all have a routing, and there are no others. -/
lemma Loaded.keys {c : AppConfig} (h : c.Loaded) {vhosts : VhostsConfig}
    (hvhosts : c.vhosts = some vhosts) : vhosts.routes.keys = vhosts.files.keys := by
  obtain ⟨path, E, s, s', hout⟩ := h
  have hkeys : ∀ config : AppConfig, (config.loadVhosts path).Returns fun c =>
      ∀ vhosts, c.vhosts = some vhosts → vhosts.routes.keys = vhosts.files.keys := by
    intro config
    rw [loadVhosts]
    cases hconfigured : config.vhosts with
    | some configured =>
      refine .bind (configured.returns_load_keys path) fun loaded hloaded vhosts hvhosts => ?_
      rwa [← Option.some.inj hvhosts]
    | none =>
      intro vhosts hvhosts
      rw [hconfigured] at hvhosts
      cases hvhosts
  have hreturns : (load path).Returns fun c =>
      ∀ vhosts, c.vhosts = some vhosts → vhosts.routes.keys = vhosts.files.keys := by
    refine Prog.returns_bind fun _ => Prog.returns_bind fun source => ?_
    split
    · trivial
    · exact .bind (hkeys _) fun config' hconfig' => Prog.returns_bind fun _ => hconfig'
  exact Prog.wp_iff_outcome.mp (hreturns.wp s) _ _ hout vhosts hvhosts

lemma Loaded.eq_of_counter {c : AppConfig} (h : c.Loaded) {group other : RoutingGroup}
    (hgroup : group ∈ c.groups) (hother : other ∈ c.groups)
    (heq : group.counter = other.counter) : group = other :=
  List.inj_on_of_nodup_map h.spec.2 hgroup hother heq

end AppConfig

end TransferGateway
