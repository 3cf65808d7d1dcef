import TransferGateway.Runtime.Coherence

/-!
# The first run

A run without a configuration writes the default files, the configuration first. Where nothing
fails, it writes all that are missing, and the next run can load them.
-/

namespace TransferGateway

/-! ### The default files -/

/-- A path below the directory of the configuration. -/
def pathBelow (configPath : Path) (names : List String) : Path :=
  ⟨(configDirectory configPath).absolute, (configDirectory configPath).components ++ names⟩

lemma isEmpty_configDirectory (configPath : Path) : (configDirectory configPath).isEmpty = false := by
  rw [configDirectory]
  cases hparent : configPath.parent.filter fun parent => !parent.isEmpty with
  | none => rfl
  | some parent => simpa using (Option.filter_eq_some_iff.mp hparent).2

lemma join_configDirectory (configPath : Path) (names : List String) :
    (configDirectory configPath).join ⟨false, names⟩ =
      pathBelow configPath (names.filter (· != ".")) := by
  simp [Path.join, isEmpty_configDirectory, pathBelow]

lemma join_pathBelow (configPath : Path) {names : List String} (h : names ≠ []) (name : String)
    (hname : name ≠ ".") :
    (pathBelow configPath names).join ⟨false, [name]⟩ = pathBelow configPath (names ++ [name]) := by
  simp [Path.join, Path.isEmpty, pathBelow, h, hname]

@[simp] lemma pathBelow_inj {configPath : Path} {names names' : List String} :
    pathBelow configPath names = pathBelow configPath names' ↔ names = names' := by
  simp [pathBelow]

lemma length_components_le (configPath : Path) :
    configPath.components.length ≤ (configDirectory configPath).components.length + 1 := by
  rw [configDirectory]
  cases hparent : configPath.parent.filter fun parent => !parent.isEmpty with
  | some parent =>
    obtain ⟨hsome, -⟩ := Option.filter_eq_some_iff.mp hparent
    obtain ⟨-, rfl⟩ : configPath.components ≠ [] ∧ _ = parent := by
      simpa [Path.parent] using hsome
    simp
    omega
  | none =>
    by_contra hlong
    have hne : configPath.components ≠ [] := by
      rintro heq
      simp [heq] at hlong
    have hparts : configPath.components.dropLast ≠ [] := by
      rintro heq
      have := congrArg List.length heq
      simp only [List.length_dropLast, List.length_nil] at this
      simp only [Option.getD_none, List.length_singleton] at hlong
      omega
    simp [Path.parent, hne, hparts, Path.isEmpty, Option.filter] at hparent

/-- The configuration itself is in its directory, and not below a further one. -/
lemma ne_pathBelow (configPath : Path) {names : List String} (h : 2 ≤ names.length) :
    configPath ≠ pathBelow configPath names := by
  intro heq
  have hlength := congrArg (fun p : Path => p.components.length) heq
  have hle := length_components_le configPath
  simp only [pathBelow, List.length_append] at hlength
  omega

section Builtin

variable [Builtin]

/-- The files a first run writes behind the configuration, with their contents. -/
def otherDefaultFiles (configPath : Path) : List (Path × List UInt8) :=
  (pathBelow configPath ["lang", "zh-CN.toml"], asBytes Builtin.zhCN) ::
    (pathBelow configPath ["lang", "en-US.toml"], asBytes Builtin.enUS) ::
    Builtin.vhostTemplates.map fun (name, template) =>
      (pathBelow configPath ["vhosts", s!"{name}.toml"], asBytes template)

/-- All files a first run writes. -/
def defaultFiles (configPath : Path) : List (Path × List UInt8) :=
  (configPath, asBytes Builtin.configTemplate) :: otherDefaultFiles configPath

/-- The names under which the virtual hosts are written are distinct. -/
lemma nodup_defaultFiles (configPath : Path)
    (h : (Builtin.vhostTemplates.map Prod.fst).Nodup) :
    ((defaultFiles configPath).map Prod.fst).Nodup := by
  have hname : ∀ a b : String, s!"{a}.toml" = s!"{b}.toml" → a = b := by
    intro a b hab
    exact (String.append_left_inj _).mp hab
  have hvhosts : ((Builtin.vhostTemplates.map Prod.fst).map fun name =>
      pathBelow configPath ["vhosts", s!"{name}.toml"]).Nodup := by
    refine List.Nodup.map_on (fun a _ b _ hab => hname a b ?_) h
    rw [pathBelow_inj] at hab
    exact (List.cons.inj (List.cons.inj hab).2).1
  have hconfig : configPath ∉ (otherDefaultFiles configPath).map Prod.fst := by
    intro hmem
    obtain ⟨file, hfile, heq⟩ := List.mem_map.mp hmem
    simp only [otherDefaultFiles, List.mem_cons, List.mem_map] at hfile
    rcases hfile with rfl | rfl | ⟨vhost, -, rfl⟩ <;> exact ne_pathBelow _ (by simp) heq.symm
  rw [defaultFiles, List.map_cons, List.nodup_cons]
  refine ⟨hconfig, ?_⟩
  rw [List.map_map] at hvhosts
  simp only [otherDefaultFiles, List.map_cons, List.map_map, List.nodup_cons, List.mem_cons,
    List.mem_map, pathBelow_inj]
  exact ⟨by simp, by simp, hvhosts⟩

end Builtin

/-! ### Installing -/

abbrev Files := Path → Option (List UInt8)

/-- The files with one more, unless it was there. -/
def install (files : Files) (file : Path × List UInt8) : Files :=
  Function.update files file.1 (some ((files file.1).getD file.2))

lemma install_apply (files : Files) (file : Path × List UInt8) (q : Path) :
    install files file q =
      if q = file.1 then some ((files file.1).getD file.2) else files q :=
  Function.update_apply ..

lemma install_of_present {files : Files} {file : Path × List UInt8} {bytes : List UInt8}
    (h : files file.1 = some bytes) : install files file = files := by
  rw [install, h, Option.getD_some, ← h, Function.update_eq_self]

lemma install_installs {files : Files} {l : List (Path × List UInt8)}
    (h : (l.map Prod.fst).Nodup) {file : Path × List UInt8} (hfile : file ∈ l) :
    l.foldl install files file.1 = some ((files file.1).getD file.2) := by
  induction l generalizing files with
  | nil => cases hfile
  | cons first l ih =>
    rw [List.map_cons, List.nodup_cons] at h
    rcases List.mem_cons.mp hfile with rfl | hfile
    · have hkept : ∀ (l : List (Path × List UInt8)) (files : Files), file.1 ∉ l.map Prod.fst →
          l.foldl install files file.1 = files file.1 := by
        intro l
        induction l with
        | nil => exact fun _ _ => rfl
        | cons other l ih =>
          intro files hnot
          rw [List.map_cons, List.mem_cons, not_or] at hnot
          rw [List.foldl_cons, ih _ hnot.2, install, Function.update_of_ne hnot.1]
      rw [List.foldl_cons, hkept l _ h.1, install, Function.update_self]
    · rw [List.foldl_cons, ih h.2 hfile, install, Function.update_of_ne]
      intro heq
      exact h.1 (heq ▸ List.mem_map_of_mem hfile)

/-! ### A run where nothing fails -/

/-- The file system works, and nobody else changes anything. The network may fail. -/
def World.working : World where
  interferes s s' := s' = s
  admits c := c.fault = none ∧ c.hidden = false
  noAccess := ⟨fun h => h ▸ rfl, fun h => h ▸ rfl⟩

lemma steady_working (q : Path) : Sys.Steady World.working.toEnv q :=
  ⟨fun h => h ▸ rfl, And.right⟩

/-- A program that writes other files leaves this one as it is. -/
lemma WritesIn.keeps_working {α : Type} {F : Set Path} {p : SysProg α} (hp : WritesIn F p)
    {q : Path} (hq : q ∉ F) (content : Option (List UInt8)) :
    Prog.Keeps Sys.handle World.working.toEnv (fun s => s.files q = content) p :=
  hp.keeps hq (steady_working q) content

lemma keeps_log (level : Level) (message : String) (q : Path) (content : Option (List UInt8)) :
    Prog.Keeps Sys.handle World.working.toEnv (fun s => s.files q = content)
      (ask (.log level message) : SysProg Unit) :=
  WritesIn.keeps_working (F := ∅) (by simp [WritesIn]) (by simp) content

section Working

/-- An operation whose result is only its success. -/
lemma wp_working {β α : Type} {o : SysOp (Except IoError β)} {message : String}
    {f : β → SysProg α} {Q : Except String α → Sys → Prop} {s : Sys}
    (h : ∀ c : Choice, c.fault = none → ∃ b, (s.step o c).1 = .ok b ∧
      (f b).wp Sys.handle World.working.toEnv Q (s.step o c).2) :
    (ask o >>= fun r => context r message >>= f).wp Sys.handle World.working.toEnv Q s := by
  rw [Prog.wp_bind]
  intro s₁ hs c hc
  obtain ⟨b, hb, hf⟩ := h c hc.1
  rw [show s₁ = s from hs]
  simp only [hb]
  exact hf

lemma wp_createParent_working (path : Path) (noun : String) (s : Sys) :
    (createParent path noun).wp Sys.handle World.working.toEnv (fun r s' => r = .ok () ∧ s' = s)
      s := by
  rw [createParent]
  split
  · rw [Prog.wp_bind]
    intro s₁ hs c hc
    rw [show s₁ = s from hs]
    simp [Sys.step, hc.1, Except.mapError]
  · exact ⟨rfl, rfl⟩

lemma wp_createFile_working (path : Path) (content : List UInt8) (noun : String) (s : Sys) :
    (createFile path content noun).wp Sys.handle World.working.toEnv (fun r s' =>
      r = .ok (s.files path).isNone ∧ s'.files = install s.files (path, content)) s := by
  rw [createFile, Prog.wp_bind]
  intro s₁ hs c hc
  have hfault := hc.1
  rw [show s₁ = s from hs]
  cases hfile : s.files path with
  | some bytes =>
    simp only [Sys.step, hfault, hfile]
    exact ⟨rfl, (install_of_present hfile).symm⟩
  | none =>
    simp only [Sys.step, hfault, hfile]
    refine wp_working fun c hc => ⟨(), by simp [Sys.step, hc], ?_⟩
    have hwritten : ((s.set path (some [])).modify path (· ++ content)).files =
        install s.files (path, content) := by
      simp [Sys.modify, install, hfile]
    simp only [Sys.step, hc]
    refine wp_working fun c hc => ⟨(), by simp [Sys.step, hc], ?_⟩
    simp only [Sys.step, hc]
    refine wp_working fun c hc => ⟨(), by simp [Sys.step, hc], ?_⟩
    simp only [Sys.step, hc]
    exact ⟨rfl, hwritten⟩

lemma wp_create_working (path : Path) (content : List UInt8) (noun noun' : String) (s : Sys) :
    (createParent path noun >>= fun _ => createFile path content noun').wp Sys.handle
      World.working.toEnv (fun r s' =>
        r = .ok (s.files path).isNone ∧ s'.files = install s.files (path, content)) s := by
  apply Prog.wp_seq_value (wp_createParent_working ..)
  rintro s₁ rfl
  exact wp_createFile_working path content noun' s₁

lemma languageDirectory_eq (configPath : Path) :
    (configDirectory configPath).join (Path.ofString DEFAULT_LANGUAGE_DIRECTORY) =
      pathBelow configPath ["lang"] := by
  rw [show Path.ofString DEFAULT_LANGUAGE_DIRECTORY = ⟨false, [".", "lang"]⟩ by decide,
    join_configDirectory]
  rfl

lemma toml_ne_dot (name : String) : s!"{name}.toml" ≠ "." := by
  intro heq
  have hlength := congrArg String.length heq
  simp only [String.length_append, show (toString ".toml").length = 5 by decide,
    show ".".length = 1 by decide] at hlength
  omega

variable [Builtin]

lemma wp_ensureFile_working (path : Path) (locale : String) (s : Sys) :
    (Language.ensureFile path locale).wp Sys.handle World.working.toEnv (fun r s' =>
      r = .ok (s.files path).isNone ∧
        s'.files = install s.files (path, asBytes (Language.builtinTemplate locale))) s :=
  wp_create_working ..

lemma wp_ensureVhostFiles_working (configPath : Path) (s : Sys) :
    (ensureVhostFiles configPath).wp Sys.handle World.working.toEnv (fun _ s' =>
      s'.files = (Builtin.vhostTemplates.map fun (name, template) =>
        (pathBelow configPath ["vhosts", s!"{name}.toml"], asBytes template)).foldl install
          s.files) s := by
  have hdirectory : (configDirectory configPath).join ⟨false, ["vhosts"]⟩ =
      pathBelow configPath ["vhosts"] := join_configDirectory ..
  rw [ensureVhostFiles, hdirectory]
  refine wp_working fun c hc => ⟨(), by simp [Sys.step, hc], ?_⟩
  simp only [Sys.step, hc]
  generalize Builtin.vhostTemplates = templates
  induction templates generalizing s with
  | nil => exact rfl
  | cons vhost templates ih =>
    obtain ⟨name, template⟩ := vhost
    rw [List.forM_cons]
    dsimp only
    rw [join_pathBelow _ (by simp) _ (toml_ne_dot name)]
    rw [bind_assoc]
    apply Prog.wp_seq_value (wp_createFile_working _ _ _ s)
    intro s₁ h₁
    have hrest := ih s₁
    rw [h₁] at hrest
    exact hrest

variable [Toml.Parse]

/-- Where there is no configuration, a run installs all default files, and goes no further. -/
lemma wp_bootstrap_working {configPath : Path} {s : Sys} (h : s.files configPath = none) :
    (bootstrap configPath).wp Sys.handle World.working.toEnv (fun r s' =>
      r ≠ .ok none ∧ s'.files = (defaultFiles configPath).foldl install s.files) s := by
  rw [bootstrap, Prog.wp_bind]
  intro s₁ hs c hc
  rw [show s₁ = s from hs]
  simp only [Sys.step, h, Option.isSome_none, Bool.false_and]
  apply Prog.wp_seq_value (wp_create_working ..)
  intro s₂ h₂
  simp only [h, Option.isNone_none, if_true, languageDirectory_eq]
  rw [join_pathBelow _ (by simp) _ (by decide), join_pathBelow _ (by simp) _ (by decide)]
  apply Prog.wp_seq_value (wp_ensureFile_working _ _ s₂)
  intro s₃ h₃
  apply Prog.wp_seq_value (wp_ensureFile_working _ _ s₃)
  intro s₄ h₄
  have hlanguages : s₄.files = install (install (install s.files
      (configPath, asBytes Builtin.configTemplate))
      (pathBelow configPath ["lang", "zh-CN.toml"], asBytes Builtin.zhCN))
      (pathBelow configPath ["lang", "en-US.toml"], asBytes Builtin.enUS) := by
    rw [h₄, h₃, h₂]
    rfl
  refine Prog.wp_seq (wp_ensureVhostFiles_working configPath s₄) (fun _ s₅ h₅ => ?_)
    fun e s₅ h₅ => ⟨by simp, by rw [h₅, hlanguages]; rfl⟩
  rw [hlanguages] at h₅
  split
  · exact ⟨by simp, h₅⟩
  · exact ⟨by simp, h₅⟩

/-- With a configuration the first part of a run does nothing. -/
lemma wp_bootstrap_configured {configPath : Path} {s : Sys} {bytes : List UInt8}
    (h : s.files configPath = some bytes) :
    (bootstrap configPath).wp Sys.handle World.working.toEnv (fun r s' => r = .ok none ∧ s' = s)
      s := by
  rw [bootstrap, Prog.wp_bind]
  intro s₁ hs c hc
  rw [show s₁ = s from hs]
  simp only [Sys.step, h, hc.2]
  exact ⟨rfl, rfl⟩

end Working

/-! ### Loading the default files -/

/-- The document of `config.example.toml`. -/
def exampleTable : Toml.Table :=
  [("server", .table
    [("bind", .string "0.0.0.0:25565"), ("max_connections", .integer 4096),
     ("login_timeout_ms", .integer 10000), ("max_frame_length", .integer 2097152),
     ("supported_protocols", .array []), ("status_version_name", .string "1.20.5 - 26.3"),
     ("status_protocol", .integer 777), ("max_players", .integer 100),
     ("motd", .string "&6Transfer &aGateway\n&7IP routing gateway"),
     ("strict_error_handling", .boolean false)]),
   ("language", .table [("locale", .string "zh-CN"), ("directory", .string "./lang")]),
   ("logging", .table [("file", .string "./logs/gateway.log")]),
   ("ip2region", .table
    [("v4_db", .string "./data/ip2region_v4.xdb"), ("v6_db", .string "./data/ip2region_v6.xdb"),
     ("auto_download", .boolean true), ("auto_update", .boolean true),
     ("update_interval_secs", .integer 86400),
     ("download_base_url",
      .string "https://raw.githubusercontent.com/lionsoul2014/ip2region/master/data")]),
   ("security", .table
    [("enabled", .boolean true), ("block_vpn", .boolean true), ("block_tor", .boolean true),
     ("block_spam", .boolean true), ("auto_download", .boolean true),
     ("auto_update", .boolean true), ("update_interval_secs", .integer 86400),
     ("tor_exit_list", .string "./data/tor-exit-list.txt"),
     ("tor_exit_list_url", .string "https://check.torproject.org/torbulkexitlist"),
     ("spam_list", .string "./data/spam-ip-list.txt"),
     ("spam_list_url", .string "https://blackip.ustc.edu.cn/list.php?txt"),
     ("vpn_ipv4_list", .string "./data/vpn-ipv4.txt"),
     ("vpn_ipv4_list_url", .string
      "https://raw.githubusercontent.com/X4BNet/lists_vpn/main/output/vpn/ipv4.txt"),
     ("vpn_ipv6_list", .string "./data/vpn-ipv6.txt"),
     ("vpn_ipv6_list_url", .string
      "https://raw.githubusercontent.com/X4BNet/lists_vpn/main/output/vpn/ipv6.txt"),
     ("allowlist", .array []), ("vpn_isp_contains", .array [])]),
   ("vhosts", .table
    [("default", .string "alpha"), ("alpha", .string "./vhosts/alpha.toml"),
     ("beta", .string "./vhosts/beta.toml")])]

/-- The virtual hosts of `config.example.toml`, before their files are loaded. -/
def exampleVhosts : VhostsConfig where
  default := "alpha"
  files := ⟨[("alpha", ⟨false, [".", "vhosts", "alpha.toml"]⟩),
    ("beta", ⟨false, [".", "vhosts", "beta.toml"]⟩)], by decide⟩
  routes := .empty

def exampleConfig : AppConfig where
  server := { ServerConfig.default with motd := "&6Transfer &aGateway\n&7IP routing gateway" }
  ip2region := { Ip2RegionConfig.default with autoUpdate := true }
  security := { SecurityConfig.default with autoUpdate := true }
  routing := none
  vhosts := some exampleVhosts
  language := .default
  logging := .default

lemma decode_exampleTable : AppConfig.decode exampleTable = some exampleConfig := rfl

def backendTable (host : String) : Toml.Table :=
  [("host", .string host), ("port", .integer 25565), ("resolve_srv", .boolean false)]

lemma vhostRouting_backendTable (base : ℕ) (host : String) :
    vhostRouting base (vhostDocument (backendTable host)) =
      .ok (.fromSingleTarget ⟨host, 25565, false⟩) := rfl

section Load

/-- A text file that is there is read. -/
lemma wp_readToString_working {α : Type} {path : Path} {message text : String}
    {f : String → SysProg α} {Q : Except String α → Sys → Prop} {s : Sys} {bytes : List UInt8}
    (hfile : s.files path = some bytes) (htext : fromUtf8 bytes = some text)
    (hf : ∀ s', s'.files = s.files → (f text).wp Sys.handle World.working.toEnv Q s') :
    (ask (.readToString path) >>= fun r => context r message >>= f).wp Sys.handle
      World.working.toEnv Q s := by
  refine wp_working fun c hc => ⟨text, ?_⟩
  simp only [Sys.step, hc, hfile, htext]
  exact ⟨trivial, hf _ rfl⟩

/-- The paths of the two virtual hosts are those a first run writes to. -/
lemma resolve_exampleVhosts (configPath : Path) {file : String × Path}
    (hfile : file ∈ exampleVhosts.files.entries) : file.2.isEmpty = false ∧
      resolveRelativePath configPath file.2 =
        pathBelow configPath ["vhosts", s!"{file.1}.toml"] := by
  have hfile : file = ("alpha", ⟨false, [".", "vhosts", "alpha.toml"]⟩) ∨
      file = ("beta", ⟨false, [".", "vhosts", "beta.toml"]⟩) := by
    simpa [exampleVhosts] using hfile
  rcases hfile with rfl | rfl
  · exact ⟨rfl, join_configDirectory ..⟩
  · exact ⟨rfl, join_configDirectory ..⟩

variable [Toml.Parse] [StdCase]

/-- A file that a virtual host can be loaded from. -/
def IsVhostFile (bytes : List UInt8) : Prop :=
  ∃ text table, fromUtf8 bytes = some text ∧ Toml.Parse.fromStr text = some table ∧
    ∀ base, ∃ routing, vhostRouting base (vhostDocument table) = .ok routing ∧
      routing.validate = .ok ()

lemma wp_loadVhostRouting_working {path : Path} {bytes : List UInt8} {s : Sys}
    (hfile : s.files path = some bytes) (hbytes : IsVhostFile bytes) (base : ℕ) :
    (loadVhostRouting path base).wp Sys.handle World.working.toEnv (fun r s' =>
      (∃ routing, r = .ok routing ∧ routing.validate = .ok ()) ∧ s'.files = s.files) s := by
  obtain ⟨text, table, htext, hparse, hrouting⟩ := hbytes
  obtain ⟨routing, hrouting, hvalid⟩ := hrouting base
  apply wp_readToString_working hfile htext
  intro s' hs'
  simp only [hparse, hrouting]
  exact ⟨⟨routing, rfl, hvalid⟩, hs'⟩

/-- The loop gives each name a routing that passes its check. -/
lemma wp_loadRoutes_working {configPath : Path} {files : List (String × Path)} {s : Sys}
    (hfiles : ∀ file ∈ files, file.2.isEmpty = false ∧ ∃ bytes,
      s.files (resolveRelativePath configPath file.2) = some bytes ∧ IsVhostFile bytes) (base : ℕ)
    (routes : BTreeMap RoutingConfig) :
    (loadRoutes configPath files base routes).wp Sys.handle World.working.toEnv (fun r s' =>
      (∃ routes', r = .ok routes' ∧ ∀ name, (name ∈ files.map Prod.fst ∨
          ∃ routing, routes.get name = some routing ∧ routing.validate = .ok ()) →
        ∃ routing, routes'.get name = some routing ∧ routing.validate = .ok ()) ∧
      s'.files = s.files) s := by
  induction files generalizing base routes s with
  | nil => exact ⟨⟨routes, rfl, by simp⟩, rfl⟩
  | cons file files ih =>
    obtain ⟨name, path⟩ := file
    obtain ⟨⟨hempty, bytes, hfile, hbytes⟩, hfiles⟩ := List.forall_mem_cons.mp hfiles
    rw [loadRoutes, failIf, (bailIf_eq_ok (u := ())).mpr (by simp [hempty]), Prog.ofExcept_ok,
      pure_bind]
    refine Prog.wp_seq (R := fun r s' => (∃ routing, r = .ok routing ∧ routing.validate = .ok ()) ∧
      s'.files = s.files) ?_ (fun routing s₂ h₂ => ?_) fun e s₂ h₂ => ?_
    · rw [Prog.wp_mapError]
      apply Prog.wp_mono (wp_loadVhostRouting_working hfile hbytes base)
      rintro r s' ⟨⟨routing, rfl, hvalid⟩, hs'⟩
      exact ⟨⟨routing, rfl, hvalid⟩, hs'⟩
    · obtain ⟨⟨_, hrouting, hvalid⟩, hs₂⟩ := h₂
      cases hrouting
      refine Prog.wp_mono (ih (by rwa [hs₂]) (base + routing.group.length)
        (routes.insert name routing)) ?_
      rintro r s' ⟨⟨routes', hr, hroutes'⟩, hs'⟩
      refine ⟨⟨routes', hr, fun other hother => hroutes' other ?_⟩, hs'.trans hs₂⟩
      rw [BTreeMap.get_insert]
      split
      · exact .inr ⟨routing, rfl, hvalid⟩
      next hne =>
        rw [List.map_cons, List.mem_cons] at hother
        exact hother.imp_left fun h => h.resolve_left hne
    · obtain ⟨⟨_, hr, -⟩, -⟩ := h₂
      cases hr

/-- The virtual hosts of the example are loaded under their names. -/
lemma wp_loadVhosts_example {configPath : Path} {s : Sys}
    (hfiles : ∀ file ∈ exampleVhosts.files.entries, file.2.isEmpty = false ∧ ∃ bytes,
      s.files (resolveRelativePath configPath file.2) = some bytes ∧ IsVhostFile bytes) :
    (exampleConfig.loadVhosts configPath).wp Sys.handle World.working.toEnv (fun r s' =>
      (∃ routes, r = .ok { exampleConfig with vhosts := some { exampleVhosts with routes } } ∧
        ∀ name ∈ ["alpha", "beta"], ∃ routing, routes.get name = some routing ∧
          routing.validate = .ok ()) ∧ s'.files = s.files) s := by
  refine Prog.wp_seq (R := fun r s' => (∃ routes, r = .ok { exampleVhosts with routes } ∧
    ∀ name ∈ ["alpha", "beta"], ∃ routing, routes.get name = some routing ∧
      routing.validate = .ok ()) ∧ s'.files = s.files) ?_ ?_ ?_
  · refine Prog.wp_seq (wp_loadRoutes_working hfiles 0 .empty) (fun routes s₁ h₁ => ?_)
      fun e s₁ h₁ => ?_
    · obtain ⟨⟨_, hr, hroutes⟩, hs₁⟩ := h₁
      cases hr
      exact ⟨⟨routes, rfl, fun name hname => hroutes name (.inl hname)⟩, hs₁⟩
    · obtain ⟨⟨_, hr, -⟩, -⟩ := h₁
      cases hr
  · rintro vhosts s₁ ⟨⟨routes, hr, hroutes⟩, hs₁⟩
    cases hr
    exact ⟨⟨routes, rfl, hroutes⟩, hs₁⟩
  · rintro e s₁ ⟨⟨routes, hr, -⟩, -⟩
    cases hr

variable [Builtin] [UrlParse]

/-- What the parsers make of the files and the addresses that are part of the program. -/
structure BuiltinParses : Prop where
  config : Toml.Parse.fromStr Builtin.configTemplate = some exampleTable
  names : Builtin.vhostTemplates.map Prod.fst = ["alpha", "beta"]
  vhosts : ∀ vhost ∈ Builtin.vhostTemplates,
    Toml.Parse.fromStr vhost.2 = some (backendTable s!"{vhost.1}-backend.example.com")
  urls : ∀ url ∈ [Ip2RegionConfig.default.downloadBaseUrl, SecurityConfig.default.torExitListUrl,
    SecurityConfig.default.spamListUrl, SecurityConfig.default.vpnIpv4ListUrl,
    SecurityConfig.default.vpnIpv6ListUrl], UrlParse.scheme url = some "https"

/-- The example is accepted with any routings that are. -/
lemma BuiltinParses.validate (h : BuiltinParses) {routes : BTreeMap RoutingConfig}
    (hroutes : ∀ name ∈ ["alpha", "beta"], ∃ routing, routes.get name = some routing ∧
      routing.validate = .ok ()) :
    ({ exampleConfig with vhosts := some { exampleVhosts with routes } } : AppConfig).validate =
      .ok () := by
  have hurl := h.urls
  simp only [List.forall_mem_cons] at hurl hroutes
  obtain ⟨h₁, h₂, h₃, h₄, h₅, -⟩ := hurl
  obtain ⟨⟨alpha, halpha, halpha'⟩, ⟨beta, hbeta, hbeta'⟩, -⟩ := hroutes
  have hok : ∀ {field url}, UrlParse.scheme url = some "https" →
      validateHttpUrl field url = .ok () := by
    intro field url h
    simp [validateHttpUrl, h, pure, Except.pure]
  have hserver : exampleConfig.server.validate = .ok () := by decide
  have hip2region : exampleConfig.ip2region.validate = .ok () := by
    simp only [exampleConfig, Ip2RegionConfig.validate, hok h₁]
    decide
  have hsecurity : exampleConfig.security.validate = .ok () := by
    simp only [exampleConfig, SecurityConfig.validate, hok h₂, hok h₃, hok h₄, hok h₅]
    decide
  have hvhosts : ({ exampleVhosts with routes } : VhostsConfig).validate = .ok () := by
    simp only [VhostsConfig.validate, check_bind_eq_ok, bailIf_eq_ok, forM_eq_ok]
    refine ⟨by decide, by decide, by decide, fun q hq => ?_⟩
    have hq : q = ("alpha", 0) ∨ q = ("beta", 1) := by
      simpa [exampleVhosts, BTreeMap.keys] using hq
    rcases hq with rfl | rfl
    · simp only [VhostsConfig.validateHost, check_bind_eq_ok, bailIf_eq_ok, halpha, halpha']
      exact ⟨by decide, by decide, by decide, rfl⟩
    · simp only [VhostsConfig.validateHost, check_bind_eq_ok, bailIf_eq_ok, hbeta, hbeta']
      exact ⟨by decide, by decide, by decide, rfl⟩
  simp only [AppConfig.validate, check_bind_eq_ok]
  exact ⟨hserver, hip2region, hsecurity, check_bind_eq_ok.mpr ⟨hvhosts, by decide⟩⟩

/-- The configuration of the first run is loaded, with the virtual hosts as they are. -/
lemma BuiltinParses.wp_load (h : BuiltinParses) {configPath : Path} {s : Sys}
    (hconfig : s.files configPath = some (asBytes Builtin.configTemplate))
    (hvhosts : ∀ name ∈ ["alpha", "beta"], ∃ bytes,
      s.files (pathBelow configPath ["vhosts", s!"{name}.toml"]) = some bytes ∧ IsVhostFile bytes) :
    (AppConfig.load configPath).wp Sys.handle World.working.toEnv (fun r s' =>
      (∃ vhosts, r = .ok { exampleConfig with vhosts := some vhosts }) ∧ s'.files = s.files) s := by
  rw [AppConfig.load]
  apply wp_readToString_working hconfig (fromUtf8_eq_some.mpr rfl)
  intro s₁ h₁
  simp only [h.config, Option.bind_some, decode_exampleTable]
  have hfiles : ∀ file ∈ exampleVhosts.files.entries, file.2.isEmpty = false ∧ ∃ bytes,
      s₁.files (resolveRelativePath configPath file.2) = some bytes ∧ IsVhostFile bytes := by
    intro file hfile
    obtain ⟨hempty, hpath⟩ := resolve_exampleVhosts configPath hfile
    rw [hpath, h₁]
    refine ⟨hempty, hvhosts file.1 ?_⟩
    have hname := List.mem_map_of_mem (f := Prod.fst) hfile
    exact hname
  refine Prog.wp_seq (wp_loadVhosts_example hfiles) (fun config s₂ h₂ => ?_) fun e s₂ h₂ => ?_
  · obtain ⟨⟨routes, hconfig, hroutes⟩, hs₂⟩ := h₂
    cases hconfig
    rw [h.validate hroutes]
    exact ⟨⟨_, rfl⟩, hs₂.trans h₁⟩
  · obtain ⟨⟨_, hr, -⟩, -⟩ := h₂
    cases hr

end Load

/-! ### Starting with the default files -/

section Start

lemma resolve_below (configPath : Path) {text directory name : String}
    (h : Path.ofString text = ⟨false, [".", directory, name]⟩) (hdirectory : directory ≠ ".")
    (hname : name ≠ ".") :
    resolveRelativePath configPath (Path.ofString text) = pathBelow configPath [directory, name] := by
  rw [h]
  refine (join_configDirectory ..).trans ?_
  simp [hdirectory, hname]

/-- The files of the example's downloads have their own directory. -/
lemma exampleConfig_data {configPath path : Path}
    (h : path ∈ (exampleConfig.resolvePaths configPath).ip2region.databasePaths ∨
      path ∈ (exampleConfig.resolvePaths configPath).security.listPaths) :
    ∃ name, name ≠ "." ∧ name ≠ ".." ∧ path = pathBelow configPath ["data", name] := by
  have hresolve : ∀ text name, Path.ofString text = ⟨false, [".", "data", name]⟩ → name ≠ "." →
      name ≠ ".." → path ∈ configuredPath
        ((some (Path.ofString text)).map (resolveIp2regionPath configPath)) →
      ∃ name, name ≠ "." ∧ name ≠ ".." ∧ path = pathBelow configPath ["data", name] := by
    intro text name htext hdot hdots hpath
    have hpath := (Option.filter_eq_some_iff.mp hpath).1
    rw [Option.map_some, Option.some.injEq, resolveIp2regionPath,
      if_neg (by simp [htext, Path.isEmpty]), resolve_below configPath htext (by decide) hdot] at hpath
    exact ⟨name, hdot, hdots, hpath.symm⟩
  rcases h with (h | h) | h | h | h | h
  · exact hresolve _ "ip2region_v4.xdb" (by decide) (by decide) (by decide) h
  · exact hresolve _ "ip2region_v6.xdb" (by decide) (by decide) (by decide) h
  · exact hresolve _ "vpn-ipv4.txt" (by decide) (by decide) (by decide) h
  · exact hresolve _ "vpn-ipv6.txt" (by decide) (by decide) (by decide) h
  · exact hresolve _ "tor-exit-list.txt" (by decide) (by decide) (by decide) h
  · exact hresolve _ "spam-ip-list.txt" (by decide) (by decide) (by decide) h

lemma withFileName_pathBelow (configPath : Path) {directory name : String} (hdot : name ≠ ".")
    (hdots : name ≠ "..") (other : String) :
    (pathBelow configPath [directory, name]).withFileName other =
      pathBelow configPath [directory, other] := by
  simp [Path.withFileName, Path.fileName, pathBelow, hdot, hdots]

/-- The log is switched on, and only its file may be new. -/
lemma wp_apply_working (configPath : Path) (s : Sys) :
    (LogController.apply configPath .default).wp Sys.handle World.working.toEnv (fun r s' =>
      r = .ok () ∧ ∀ q, q ≠ pathBelow configPath ["logs", "gateway.log"] →
        s'.files q = s.files q) s := by
  have hpath : LoggingConfig.default.filePath configPath =
      some (pathBelow configPath ["logs", "gateway.log"]) :=
    congrArg some (resolve_below configPath (by decide) (by decide) (by decide))
  rw [LogController.apply, hpath]
  refine Prog.wp_seq_value (a := ()) (R := fun s' => ∀ q,
    q ≠ pathBelow configPath ["logs", "gateway.log"] → s'.files q = s.files q) ?_
    fun s₁ h₁ => ?_
  · apply Prog.wp_seq_value (wp_createParent_working ..)
    rintro s rfl
    rw [Prog.wp_bind]
    intro s₂ hs₂ c hc
    rw [show s₂ = s from hs₂]
    have hok : (s.step (.openAppend (pathBelow configPath ["logs", "gateway.log"])) c).1 = .ok () := by
      cases hfile : s.files (pathBelow configPath ["logs", "gateway.log"]) <;>
        simp [Sys.step, hc.1, hfile]
    simp only [hok]
    refine ⟨rfl, fun q hq => Sys.step_files ?_ c s⟩
    exact hq
  · rw [Prog.wp_bind]
    intro s₂ hs₂ c hc
    rw [show s₂ = s₁ from hs₂]
    simp only [Sys.step, hc.1]
    exact ⟨rfl, h₁⟩

variable [Builtin]

/-- Where the default files are. -/
lemma ne_of_mem_defaultFiles {configPath : Path} {file : Path × List UInt8}
    (hfile : file ∈ defaultFiles configPath) {directory : String} (hlang : directory ≠ "lang")
    (hvhosts : directory ≠ "vhosts") (name : String) :
    file.1 ≠ pathBelow configPath [directory, name] := by
  simp only [defaultFiles, otherDefaultFiles, List.mem_cons, List.mem_map] at hfile
  rcases hfile with rfl | rfl | rfl | ⟨vhost, -, rfl⟩
  · exact ne_pathBelow _ (by simp)
  · simp [hlang.symm]
  · simp [hlang.symm]
  · simp [hvhosts.symm]

/-- The language file that a run with the example loads. -/
def loadedLanguageFile (configPath : Path) : Path × List UInt8 :=
  (pathBelow configPath ["lang", "zh-CN.toml"], asBytes Builtin.zhCN)

variable [StdParse] [StdCase] [Toml.Parse] [Xdb]

/-- A load with the example creates at most the language file. -/
lemma wp_load_example (configPath : Path) (vhosts : Option VhostsConfig) {s : Sys}
    {file : Path × List UInt8} (hfile : file ∈ defaultFiles configPath) {bytes : List UInt8}
    (hbytes : install s.files (loadedLanguageFile configPath) file.1 = some bytes) :
    (RuntimeState.load { exampleConfig with vhosts } configPath).wp Sys.handle
      World.working.toEnv (fun _ s' => s'.files file.1 = some bytes) s := by
  have hdata : ∀ path, path ∈ (exampleConfig.resolvePaths configPath).ip2region.databasePaths ∨
      path ∈ (exampleConfig.resolvePaths configPath).security.listPaths →
      ∀ name, file.1 ≠ path.withFileName name := by
    intro path hpath other
    obtain ⟨name, hdot, hdots, rfl⟩ := exampleConfig_data hpath
    rw [withFileName_pathBelow _ hdot hdots]
    exact ne_of_mem_defaultFiles hfile (by decide) (by decide) _
  have hpath : LanguageConfig.default.filePath configPath = (loadedLanguageFile configPath).1 := by
    have hdirectory : resolveRelativePath configPath LanguageConfig.default.directory =
        pathBelow configPath ["lang"] := languageDirectory_eq configPath
    rw [LanguageConfig.filePath, hdirectory]
    exact join_pathBelow _ (by simp) _ (by decide)
  refine RuntimeState.wp_load_keeps { exampleConfig with vhosts } configPath
    (steady_working file.1)
    (fun path hpath _ => hdata path (.inl hpath) _)
    (fun path hpath _ => hdata path (.inr hpath) _) ?_
  refine Prog.wp_seq (wp_ensureFile_working _ _ s) (fun _ s₁ h₁ => ?_) fun e s₁ h₁ => ?_
  · have h₁ : s₁.files file.1 = some bytes := by
      rw [h₁.2, ← hbytes]
      exact congrArg (fun p => install s.files (p, asBytes Builtin.zhCN) file.1) hpath
    exact Prog.Keeps.bind ((Language.writesIn_load ..).keeps_working (by simp) _) (fun _ =>
      .bind ((writesIn_logIf (F := ∅) ..).keeps_working (by simp) _) fun _ => .ret _) s₁ h₁
  · cases h₁.1

variable [UrlParse]

/-- With the example and its virtual hosts, a start leaves the default files alone and creates at
most the one language file. -/
lemma BuiltinParses.wp_startup (h : BuiltinParses) {configPath : Path} {s : Sys}
    (hconfig : s.files configPath = some (asBytes Builtin.configTemplate))
    (hvhosts : ∀ name ∈ ["alpha", "beta"], ∃ bytes,
      s.files (pathBelow configPath ["vhosts", s!"{name}.toml"]) = some bytes ∧ IsVhostFile bytes)
    {file : Path × List UInt8} (hfile : file ∈ defaultFiles configPath) {bytes : List UInt8}
    (hbytes : install s.files (loadedLanguageFile configPath) file.1 = some bytes) :
    (startup configPath).wp Sys.handle World.working.toEnv
      (fun _ s' => s'.files file.1 = some bytes) s := by
  rw [startup]
  refine Prog.wp_seq (R := fun r s' => (∃ vhosts,
    r = .ok { exampleConfig with vhosts := some vhosts }) ∧ s'.files = s.files) ?_
    (fun config s₂ h₂ => ?_) fun e s₂ h₂ => ?_
  · rw [Prog.wp_mapError]
    apply Prog.wp_mono (h.wp_load hconfig hvhosts)
    rintro r s' ⟨⟨vhosts, rfl⟩, hs'⟩
    exact ⟨⟨vhosts, rfl⟩, hs'⟩
  · obtain ⟨⟨vhosts, hconfig⟩, hs₂⟩ := h₂
    cases hconfig
    apply Prog.wp_seq_value (wp_apply_working configPath s₂)
    intro s₃ h₃
    have hsame : install s₃.files (loadedLanguageFile configPath) file.1 = some bytes := by
      have hlanguage : (loadedLanguageFile configPath).1 ≠
          pathBelow configPath ["logs", "gateway.log"] := by
        simp [loadedLanguageFile]
      rw [← hbytes, ← hs₂, install_apply, install_apply, h₃ _ hlanguage,
        h₃ _ (ne_of_mem_defaultFiles hfile (by decide) (by decide) _)]
    refine Prog.wp_seq (wp_load_example configPath vhosts hfile hsame) (fun runtime s₄ h₄ => ?_)
      fun _ _ h₄ => h₄
    exact Prog.Keeps.bind (keeps_log _ _ _ _) (fun _ => .ret _) s₄ h₄
  · obtain ⟨⟨_, hr⟩, -⟩ := h₂
    cases hr

/-- So does a whole run. -/
lemma BuiltinParses.wp_main (h : BuiltinParses) {configPath : Path} {s : Sys}
    (hconfig : s.files configPath = some (asBytes Builtin.configTemplate))
    (hvhosts : ∀ name ∈ ["alpha", "beta"], ∃ bytes,
      s.files (pathBelow configPath ["vhosts", s!"{name}.toml"]) = some bytes ∧ IsVhostFile bytes)
    {file : Path × List UInt8} (hfile : file ∈ defaultFiles configPath) {bytes : List UInt8}
    (hbytes : install s.files (loadedLanguageFile configPath) file.1 = some bytes) :
    (main configPath).wp Sys.handle World.working.toEnv (fun _ s' => s'.files file.1 = some bytes)
      s := by
  apply Prog.wp_seq_value (wp_bootstrap_configured hconfig)
  rintro s₁ rfl
  refine Prog.wp_seq (h.wp_startup hconfig hvhosts hfile hbytes) (fun runtime s₂ h₂ => ?_)
    fun e s₂ h₂ => h₂
  refine Prog.Keeps.bind ?_ (fun _ => .bind (keeps_log _ _ _ _) fun _ => .ret _) s₂ h₂
  exact ConfigWatcher.keeps_new (fun hs h => hs ▸ h) (fun _ _ h => h) configPath

end Start

end TransferGateway
