import TransferGateway.Config.App
import TransferGateway.Config.Selection
import Mathlib.Data.List.Find
import Mathlib.Data.List.Pairwise

/-!
# The choice of the virtual host

Validation and selection compare host names in the same way, so the names of an accepted
configuration are distinct for the selection, and the first entry it finds is the only one.
-/

namespace TransferGateway

/-! ### Host names -/

/-- The host names are equal up to the case of ASCII letters and trailing dots. -/
def SameHost (a b : String) : Prop :=
  eqIgnoreAsciiCase (normalizeHost a) (normalizeHost b) = true

instance (a b : String) : Decidable (SameHost a b) :=
  inferInstanceAs (Decidable (_ = true))

/-- What a comparison looks at. -/
def hostKey (host : String) : List Char :=
  (normalizeHost host).toList.map Char.toLower

lemma sameHost_iff {a b : String} : SameHost a b ↔ hostKey a = hostKey b := by
  simp [SameHost, eqIgnoreAsciiCase, hostKey]

lemma SameHost.symm {a b : String} (h : SameHost a b) : SameHost b a :=
  sameHost_iff.mpr (sameHost_iff.mp h).symm

lemma SameHost.trans {a b c : String} (h : SameHost a b) (h' : SameHost b c) : SameHost a c :=
  sameHost_iff.mpr ((sameHost_iff.mp h).trans (sameHost_iff.mp h'))

@[simp] lemma sameHost_self (a : String) : SameHost a a :=
  sameHost_iff.mpr rfl

/-! ### Entries with distinct names -/

section Entries

variable {α : Type} {entries : List (String × α)}

/-- No two entries have the same host. -/
def DistinctHosts (entries : List (String × α)) : Prop :=
  entries.Pairwise fun a b => ¬SameHost a.1 b.1

lemma DistinctHosts.eq_of_sameHost (h : DistinctHosts entries) {a b : String × α}
    (ha : a ∈ entries) (hb : b ∈ entries) (hab : SameHost a.1 b.1) : a = b := by
  have : Std.Symm fun a b : String × α => ¬SameHost a.1 b.1 := ⟨fun _ _ h h' => h h'.symm⟩
  by_contra hne
  exact h.forall ha hb hne hab

/-- The entry of a host, in the order of the list. -/
def findHost (entries : List (String × α)) (host : String) : Option (String × α) :=
  entries.find? fun entry => eqIgnoreAsciiCase (normalizeHost entry.1) (normalizeHost host)

lemma findHost_eq_none {host : String} :
    findHost entries host = none ↔ ∀ entry ∈ entries, ¬SameHost entry.1 host :=
  List.find?_eq_none

lemma mem_of_findHost {host : String} {entry : String × α}
    (h : findHost entries host = some entry) : entry ∈ entries ∧ SameHost entry.1 host := by
  have hsame := List.find?_some h
  exact ⟨List.mem_of_find?_eq_some h, hsame⟩

lemma findHost_eq_some_iff (h : DistinctHosts entries) {host : String} {entry : String × α} :
    findHost entries host = some entry ↔ entry ∈ entries ∧ SameHost entry.1 host := by
  refine ⟨mem_of_findHost, fun ⟨hmem, hsame⟩ => ?_⟩
  cases hfind : findHost entries host with
  | none => exact absurd hsame (findHost_eq_none.mp hfind entry hmem)
  | some other =>
    obtain ⟨hother, hsame'⟩ := mem_of_findHost hfind
    rw [h.eq_of_sameHost hother hmem (hsame'.trans hsame.symm)]

/-- The order of the entries makes no difference. -/
lemma findHost_perm (h : DistinctHosts entries) {entries' : List (String × α)}
    (hperm : entries'.Perm entries) (host : String) :
    findHost entries' host = findHost entries host := by
  refine (List.find?_eq_find?_of_perm hperm.symm ?_).symm
  intro a ha b hb
  have hab : SameHost a.1 b.1 := SameHost.trans (b := host) ha.2 (SameHost.symm hb.2)
  exact h.eq_of_sameHost ha.1 hb.1 hab

/-- A further entry is found for its own host only. -/
lemma findHost_append_singleton (entry : String × α) (host : String) :
    findHost (entries ++ [entry]) host =
      (findHost entries host).or (if SameHost entry.1 host then some entry else none) := by
  rw [findHost, List.find?_append, List.find?_singleton]
  rfl

end Entries

/-! ### Loaded configurations -/

lemma BTreeMap.entries_insert {α : Type} {m : BTreeMap α} {name : String} (h : name ∉ m.keys)
    (value : α) : (m.insert name value).entries = m.entries ++ [(name, value)] := by
  have hfilter : m.entries.filter (fun e => e.1 != name) = m.entries := by
    apply List.filter_eq_self.mpr
    intro e he
    have hne : e.1 ≠ name := fun heq => h (List.mem_map.mpr ⟨e, he, heq⟩)
    simpa using hne
  dsimp only [BTreeMap.insert]
  rw [hfilter]

namespace VhostsConfig

variable [Toml.Parse]

/-- The configuration is the result of a load. -/
def Loaded (vhosts : VhostsConfig) : Prop :=
  ∃ (configured : VhostsConfig) (configPath : Path) (E : Env Choice Sys) (s s' : Sys),
    (configured.load configPath).Outcome Sys.handle E s (.ok vhosts) s'

/-- The loop gives every name a routing, in the order of the files. -/
lemma returns_loadRoutes (configPath : Path) (files : List (String × Path)) (base : ℕ)
    (routes : BTreeMap RoutingConfig) (h : (routes.keys ++ files.map Prod.fst).Nodup) :
    (loadRoutes configPath files base routes).Returns fun routes' =>
      routes'.keys = routes.keys ++ files.map Prod.fst := by
  induction files generalizing base routes with
  | nil => exact (List.append_nil _).symm
  | cons file files ih =>
    obtain ⟨name, path⟩ := file
    refine Prog.returns_bind fun _ => Prog.returns_bind fun routing => ?_
    have hname : name ∉ routes.keys := by
      intro hmem
      exact List.disjoint_of_nodup_append h hmem List.mem_cons_self
    have hkeys : (routes.insert name routing).keys = routes.keys ++ [name] := by
      rw [BTreeMap.keys, BTreeMap.entries_insert hname, List.map_append]
      rfl
    have hih := ih (base + routing.group.length) (routes.insert name routing)
    rw [hkeys, List.append_assoc] at hih
    exact hih h

lemma returns_load_keys (configured : VhostsConfig) (configPath : Path) :
    (configured.load configPath).Returns fun v => v.routes.keys = v.files.keys := by
  refine .bind (returns_loadRoutes configPath configured.files.entries 0 .empty ?_)
    fun routes hroutes => ?_
  · simpa [BTreeMap.empty, BTreeMap.keys] using configured.files.nodup
  · change routes.keys = configured.files.keys
    simpa [BTreeMap.empty, BTreeMap.keys] using hroutes

lemma Loaded.keys {vhosts : VhostsConfig} (h : vhosts.Loaded) :
    vhosts.routes.keys = vhosts.files.keys := by
  obtain ⟨configured, configPath, E, s, s', hout⟩ := h
  exact Prog.wp_iff_outcome.mp ((returns_load_keys configured configPath).wp s) _ _ hout

end VhostsConfig

/-! ### Accepted configurations -/

namespace VhostsConfig

variable [StdCase]

/-- What validation checks. -/
structure Valid (vhosts : VhostsConfig) : Prop where
  default : ∃ name ∈ vhosts.files.keys, SameHost name vhosts.default
  names : ∀ name ∈ vhosts.files.keys, normalizeHost name ≠ "" ∧ byteLen (normalizeHost name) ≤ 255
  distinct : vhosts.files.keys.Pairwise fun a b => ¬SameHost a b
  routes : ∀ name ∈ vhosts.files.keys, ∃ routing, vhosts.routes.get name = some routing ∧
    routing.validate = .ok ()

lemma validateHost_ok {vhosts : VhostsConfig} {name : String} {index : ℕ}
    (h : vhosts.validateHost name index = .ok ()) :
    (normalizeHost name ≠ "" ∧ byteLen (normalizeHost name) ≤ 255) ∧
    (∀ previous ∈ vhosts.files.keys.take index, ¬SameHost previous name) ∧
    ∃ routing, vhosts.routes.get name = some routing ∧ routing.validate = .ok () := by
  simp only [validateHost, check_bind_eq_ok, bailIf_eq_ok] at h
  obtain ⟨hempty, hlong, hduplicated, hrouting⟩ := h
  refine ⟨⟨hempty, Nat.le_of_not_lt hlong⟩, fun previous hprevious hsame => ?_, ?_⟩
  · exact hduplicated (List.any_eq_true.mpr ⟨_, List.mem_map_of_mem hprevious, hsame⟩)
  · cases hget : vhosts.routes.get name with
    | none => simp [hget] at hrouting
    | some routing =>
      simp only [hget, mapError_eq_ok] at hrouting
      exact ⟨routing, rfl, hrouting⟩

lemma valid_of_validate {vhosts : VhostsConfig} (h : vhosts.validate = .ok ()) : vhosts.Valid := by
  simp only [validate, check_bind_eq_ok, bailIf_eq_ok, forM_eq_ok] at h
  obtain ⟨-, -, hdefault, hhosts⟩ := h
  have hhost := fun q hq => validateHost_ok (hhosts q hq)
  refine ⟨?_, forall_mem_zipIdx.mp fun q hq => (hhost q hq).1, ?_,
    forall_mem_zipIdx.mp fun q hq => (hhost q hq).2.2⟩
  · simpa [SameHost] using hdefault
  · rw [List.pairwise_iff_getElem]
    intro i j hi hj hij
    have hj' : (vhosts.files.keys[j], j) ∈ vhosts.files.keys.zipIdx :=
      List.mk_mem_zipIdx_iff_getElem?.mpr (by simp)
    refine (hhost _ hj').2.1 _ ?_
    rw [List.mem_take_iff_getElem]
    exact ⟨i, by simpa using ⟨hij, hi⟩, rfl⟩

lemma Valid.distinctHosts {vhosts : VhostsConfig} (h : vhosts.Valid)
    (hkeys : vhosts.routes.keys = vhosts.files.keys) : DistinctHosts vhosts.routes.entries := by
  have := h.distinct
  rw [← hkeys, BTreeMap.keys, List.pairwise_map] at this
  exact this

/-! ### The choice -/

/-- `select_routing`, on the entries in any order. -/
def selectAmong (entries : List (String × RoutingConfig)) (default : String)
    (requestHost : Option String) : Option (String × RoutingConfig) :=
  (requestHost.bind (findHost entries)).or (findHost entries default)

omit [StdCase] in
lemma selectRouting_eq (vhosts : VhostsConfig) (requestHost : Option String) :
    vhosts.selectRouting requestHost =
      selectAmong vhosts.routes.entries vhosts.default requestHost := rfl

/-- The configuration with a further host. -/
def withVhost (vhosts : VhostsConfig) (name : String) (path : Path) (routing : RoutingConfig) :
    VhostsConfig :=
  { vhosts with
    files := vhosts.files.insert name path
    routes := vhosts.routes.insert name routing }

/-- The one host that is asked for, or the one that is the default. -/
def Chooses (vhosts : VhostsConfig) (requestHost : Option String) (chosen : String) : Prop :=
  (∃ host ∈ requestHost, SameHost chosen host ∧
    ∀ name ∈ vhosts.files.keys, SameHost name host → name = chosen) ∨
  (∀ host ∈ requestHost, ∀ name ∈ vhosts.files.keys, ¬SameHost name host) ∧
    SameHost chosen vhosts.default ∧
    ∀ name ∈ vhosts.files.keys, SameHost name vhosts.default → name = chosen

section Chosen

variable {vhosts : VhostsConfig}

/-- Among the names of a valid configuration a host has at most one. -/
lemma Valid.eq_of_sameHost (h : vhosts.Valid) {a b host : String} (ha : a ∈ vhosts.files.keys)
    (hb : b ∈ vhosts.files.keys) (hah : SameHost a host) (hbh : SameHost b host) : a = b := by
  have : Std.Symm fun a b : String => ¬SameHost a b := ⟨fun _ _ h h' => h h'.symm⟩
  by_contra hne
  exact h.distinct.forall ha hb hne (hah.trans hbh.symm)

lemma Valid.selectRouting_spec (h : vhosts.Valid)
    (hkeys : vhosts.routes.keys = vhosts.files.keys) (requestHost : Option String) :
    ∃ entry ∈ vhosts.routes.entries, vhosts.selectRouting requestHost = some entry ∧
      vhosts.Chooses requestHost entry.1 := by
  have hdistinct := h.distinctHosts hkeys
  have hmem : ∀ {name}, name ∈ vhosts.files.keys ↔ ∃ entry ∈ vhosts.routes.entries,
      entry.1 = name := by
    intro name
    rw [← hkeys, BTreeMap.keys, List.mem_map]
  -- the default is there, and it is taken when no name is the host that was asked for
  obtain ⟨name, hname, hdefault⟩ := h.default
  obtain ⟨entry, hentry, rfl⟩ := hmem.mp hname
  have hfind := (findHost_eq_some_iff hdistinct).mpr ⟨hentry, hdefault⟩
  have helse : (∀ host ∈ requestHost, findHost vhosts.routes.entries host = none) →
      ∃ entry ∈ vhosts.routes.entries, vhosts.selectRouting requestHost = some entry ∧
        vhosts.Chooses requestHost entry.1 := by
    intro hnone
    have hbind : requestHost.bind (findHost vhosts.routes.entries) = none :=
      Option.bind_eq_none_iff.mpr hnone
    refine ⟨entry, hentry, by rw [selectRouting_eq, selectAmong, hbind, hfind]; rfl,
      .inr ⟨fun host hhost name hname => ?_, hdefault,
        fun name hname hsame => h.eq_of_sameHost hname (hmem.mpr ⟨entry, hentry, rfl⟩) hsame
          hdefault⟩⟩
    obtain ⟨other, hother, rfl⟩ := hmem.mp hname
    exact findHost_eq_none.mp (hnone host hhost) other hother
  cases requestHost with
  | none => exact helse nofun
  | some host =>
    cases hhost : findHost vhosts.routes.entries host with
    | none => exact helse fun _ hmem => by rwa [← Option.some.inj hmem]
    | some entry =>
      obtain ⟨hentry, hsame⟩ := mem_of_findHost hhost
      refine ⟨entry, hentry, by rw [selectRouting_eq, selectAmong, Option.bind_some, hhost]; rfl,
        .inl ⟨host, rfl, hsame, fun name hname hsame' => ?_⟩⟩
      exact h.eq_of_sameHost hname (hmem.mpr ⟨entry, hentry, rfl⟩) hsame' hsame

omit [StdCase] in
lemma selectAmong_perm {entries entries' : List (String × RoutingConfig)}
    (h : DistinctHosts entries) (hperm : entries'.Perm entries) (default : String)
    (requestHost : Option String) :
    selectAmong entries' default requestHost = selectAmong entries default requestHost := by
  rw [selectAmong, selectAmong, findHost_perm h hperm,
    Option.bind_congr fun host _ => findHost_perm h hperm host]

/-- A further host is chosen when it is asked for, and only then. -/
lemma Valid.selectRouting_withVhost {name : String} {path : Path} {routing : RoutingConfig}
    (h : vhosts.Valid) (h' : (vhosts.withVhost name path routing).Valid)
    (hkeys : vhosts.routes.keys = vhosts.files.keys) (hname : name ∉ vhosts.files.keys)
    (requestHost : Option String) :
    (vhosts.withVhost name path routing).selectRouting requestHost =
      if ∃ host ∈ requestHost, SameHost name host then some (name, routing)
      else vhosts.selectRouting requestHost := by
  have hentries : (vhosts.withVhost name path routing).routes.entries =
      vhosts.routes.entries ++ [(name, routing)] :=
    BTreeMap.entries_insert (hkeys ▸ hname) routing
  have hfiles : (vhosts.withVhost name path routing).files.keys = vhosts.files.keys ++ [name] := by
    change List.map Prod.fst _ = _
    rw [show (vhosts.withVhost name path routing).files.entries = _ from
      BTreeMap.entries_insert hname path, List.map_append]
    rfl
  have hnew : ∀ other ∈ vhosts.files.keys, ¬SameHost other name := by
    have := h'.distinct
    rw [hfiles, List.pairwise_append] at this
    exact fun other hother => this.2.2 other hother name (List.mem_singleton_self _)
  -- the default is among the old names
  obtain ⟨entry, -, hchosen, -⟩ := h.selectRouting_spec hkeys none
  rw [selectRouting_eq, selectAmong, Option.bind_none, Option.none_or] at hchosen
  have hdefault : findHost (vhosts.routes.entries ++ [(name, routing)]) vhosts.default =
      some entry := by
    rw [findHost_append_singleton, hchosen, Option.some_or]
  rw [selectRouting_eq, selectRouting_eq, selectAmong, selectAmong, hentries,
    show (vhosts.withVhost name path routing).default = vhosts.default from rfl, hdefault, hchosen]
  cases requestHost with
  | none => simp
  | some host =>
    rw [Option.bind_some, Option.bind_some, findHost_append_singleton]
    by_cases hsame : SameHost name host
    · have hnone : findHost vhosts.routes.entries host = none := by
        apply findHost_eq_none.mpr
        intro other hother hsame'
        refine hnew other.1 ?_ (hsame'.trans hsame.symm)
        rw [← hkeys]
        exact List.mem_map_of_mem hother
      simp [hsame, hnone]
    · simp [hsame]

end Chosen

/-- In an accepted configuration exactly one host is chosen for every request: the one that was
asked for or the default, in whatever order the map is searched. Every host chooses itself, and a
further one changes the choice for its own requests only. -/
theorem selectRouting_of_validate {vhosts : VhostsConfig} [Toml.Parse] (hloaded : vhosts.Loaded)
    (h : vhosts.validate = .ok ()) :
    (∀ requestHost : Option String, ∃ entry ∈ vhosts.routes.entries,
      vhosts.selectRouting requestHost = some entry ∧ vhosts.Chooses requestHost entry.1 ∧
      ∀ entries : List (String × RoutingConfig), entries.Perm vhosts.routes.entries →
        selectAmong entries vhosts.default requestHost = some entry) ∧
    (∀ name ∈ vhosts.files.keys, ∃ routing, vhosts.routes.get name = some routing ∧
      vhosts.selectRouting (some name) = some (name, routing)) ∧
    ∀ (name : String) (path : Path) (routing : RoutingConfig), name ∉ vhosts.files.keys →
      (vhosts.withVhost name path routing).validate = .ok () →
      ∀ requestHost : Option String,
        (vhosts.withVhost name path routing).selectRouting requestHost =
          if ∃ host ∈ requestHost, SameHost name host then some (name, routing)
          else vhosts.selectRouting requestHost := by
  have hvalid := valid_of_validate h
  have hdistinct := hvalid.distinctHosts hloaded.keys
  refine ⟨fun requestHost => ?_, fun name hname => ?_, fun name path routing hname h' => ?_⟩
  · obtain ⟨entry, hentry, hselect, hchooses⟩ := hvalid.selectRouting_spec hloaded.keys requestHost
    exact ⟨entry, hentry, hselect, hchooses,
      fun entries hperm => (selectAmong_perm hdistinct hperm _ _).trans hselect⟩
  · obtain ⟨routing, hget, -⟩ := hvalid.routes name hname
    have hfind := (findHost_eq_some_iff hdistinct).mpr
      ⟨BTreeMap.mem_keys_of_get hget, sameHost_self name⟩
    refine ⟨routing, hget, ?_⟩
    rw [selectRouting_eq, selectAmong, Option.bind_some, hfind]
    rfl
  · exact hvalid.selectRouting_withVhost (valid_of_validate h') hloaded.keys hname

end VhostsConfig

/-- A host's file that holds the name of its backend. -/
@[reducible] def backendParse : Toml.Parse where
  fromStr text := some [("host", .string text)]

/-- Two hosts, and the default written with another case and a trailing dot. -/
def twoVhosts : VhostsConfig where
  default := "Lobby.example.com."
  files := ⟨[("lobby.example.com", ⟨false, ["lobby.toml"]⟩),
    ("survival.example.com", ⟨false, ["survival.toml"]⟩)], by decide⟩
  routes := .empty

/-- Both are loaded, and one of them is chosen for every request. -/
theorem selectRouting_of_validate_two :
    letI := backendParse
    letI := asciiCase
    ∃ vhosts : VhostsConfig, vhosts.Loaded ∧ vhosts.validate = .ok () ∧
      (vhosts.selectRouting (some "SURVIVAL.example.com.")).map Prod.fst =
        some "survival.example.com" ∧
      ∀ requestHost : Option String, ∃ entry ∈ vhosts.routes.entries,
        vhosts.selectRouting requestHost = some entry ∧ vhosts.Chooses requestHost entry.1 := by
  let _ := backendParse
  let _ := asciiCase
  let disk : Sys := ⟨fun _ => some (asBytes "backend.example.com"), none, [], none, [], 0, []⟩
  have hrun := Prog.outcome_run_alone (h := Sys.handle)
    (twoVhosts.load ⟨false, ["config.toml"]⟩) (fun _ => Choice.calm) disk
  obtain ⟨vhosts, hok, hvalidate, hsurvival⟩ : ∃ vhosts : VhostsConfig,
      ((twoVhosts.load ⟨false, ["config.toml"]⟩).run Sys.handle (fun _ => ⟨id, .calm⟩) disk).1 =
        .ok vhosts ∧ vhosts.validate = .ok () ∧
      (vhosts.selectRouting (some "SURVIVAL.example.com.")).map Prod.fst =
        some "survival.example.com" :=
    ⟨_, rfl, by decide +kernel, by decide +kernel⟩
  rw [hok] at hrun
  have hloaded : vhosts.Loaded := ⟨_, _, _, _, _, hrun⟩
  refine ⟨vhosts, hloaded, hvalidate, hsurvival, fun requestHost => ?_⟩
  obtain ⟨entry, hentry, hselect, hchooses, -⟩ :=
    (VhostsConfig.selectRouting_of_validate hloaded hvalidate).1 requestHost
  exact ⟨entry, hentry, hselect, hchooses⟩

end TransferGateway
