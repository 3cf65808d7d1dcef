import TransferGateway.Runtime.Jobs

/-!
# Starting the program

The first run writes the default files and ends. Every other one loads the configuration, starts
the log, loads the state and registers the watcher before it serves anything.
-/

namespace TransferGateway

/-! ### The first run -/

section Bootstrap

variable [Builtin]

def ensureConfigFile (path : Path) : SysProg Bool := do
  createParent path "configuration"
  createFile path (asBytes Builtin.configTemplate) "configuration file"

def ensureVhostFiles (configPath : Path) : SysProg Unit := do
  let directory := (configDirectory configPath).join ⟨false, ["vhosts"]⟩
  context (← ask (.createDirAll directory))
    s!"unable to create vhost configuration directory {directory.display}"
  forM Builtin.vhostTemplates fun (name, template) => do
    let path := directory.join ⟨false, [s!"{name}.toml"]⟩
    let _ ← createFile path (asBytes template) "vhost configuration file"

variable [Toml.Parse]

/-- The message of a first run, or nothing when there is a configuration. -/
def bootstrap (configPath : Path) : SysProg (Option String) := do
  if ← ask (.pathExists configPath) then return none
  else if ← ensureConfigFile configPath then do
    let languageDirectory :=
      (configDirectory configPath).join (Path.ofString DEFAULT_LANGUAGE_DIRECTORY)
    let _ ← Language.ensureFile (languageDirectory.join ⟨false, ["zh-CN.toml"]⟩) "zh-CN"
    let _ ← Language.ensureFile (languageDirectory.join ⟨false, ["en-US.toml"]⟩) "en-US"
    ensureVhostFiles configPath
    match Language.builtin DEFAULT_LOCALE with
    | some language =>
      return some (language.render "log.first_run"
        [("config", configPath.display), ("directory", languageDirectory.display)])
    | none => .fail "invalid TOML"
  else return none

end Bootstrap

/-! ### The watcher -/

/-- `ConfigWatcher::new`. -/
def ConfigWatcher.new (configPath : Path) : SysProg Unit :=
  match configPath.fileName with
  | none => .fail "configuration path has no file name"
  | some _ => do
    let watchDirectory := configDirectory configPath
    context (← ask .createWatcher) "unable to create configuration file watcher"
    context (← ask (.watch configPath))
      s!"unable to watch configuration directory {watchDirectory.display}"

/-- Besides registering the watcher, `new` changes nothing. -/
lemma ConfigWatcher.keeps_new {E : Env Choice Sys} {I : Sys → Prop}
    (hrely : ∀ {s s'}, E.interferes s s' → I s → I s')
    (hwatcher : ∀ s configPath, I s → I { s with watcher := some configPath })
    (configPath : Path) : Prog.Keeps Sys.handle E I (ConfigWatcher.new configPath) := by
  rw [ConfigWatcher.new]
  split
  · exact .fail _
  · refine .bind ?_ fun _ => .bind (.ofExcept _) fun _ => .bind ?_ fun _ => .ofExcept _
    · intro s hs s₁ hs₁ c _
      cases hfault : c.fault <;> simp only [Prog.wp_ret, Sys.step, hfault] <;> exact hrely hs₁ hs
    · intro s hs s₁ hs₁ c _
      cases hfault : c.fault <;> simp only [Prog.wp_ret, Sys.step, hfault]
      · exact hwatcher _ _ (hrely hs₁ hs)
      · exact hrely hs₁ hs

/-- A watcher is there where `new` succeeds. -/
lemma ConfigWatcher.wp_new {E : Env Choice Sys} (configPath : Path) (s : Sys) :
    (ConfigWatcher.new configPath).wp Sys.handle E (Prog.onOk fun _ s' =>
      s'.watcher = some configPath ∧ configPath.fileName.isSome = true) s := by
  rw [ConfigWatcher.new]
  cases hname : configPath.fileName with
  | none => trivial
  | some name =>
    refine Prog.wp_seq_onOk (Prog.wp_onOk_true _ s) fun _ s₁ _ =>
      Prog.wp_seq_onOk (Prog.wp_onOk_true _ s₁) fun _ s₂ _ => ?_
    simp only [Prog.wp_bind, Prog.wp_perform, wp_context]
    intro s₃ _ c _
    cases hfault : c.fault <;> simp [Sys.step, hfault, Except.mapError]

/-! ### The start -/

/-- What `main` has when it comes to serving. -/
inductive Started [Xdb] where
  | firstRun (message : String)
  | running (runtime : RuntimeState)

/-- The state a start leads to. -/
def Started.state [Xdb] : Except String Started → Option RuntimeState
  | .ok (.running runtime) => some runtime
  | _                      => none

lemma Started.state_eq_some [Xdb] {r : Except String Started} {runtime : RuntimeState}
    (h : Started.state r = some runtime) : r = .ok (.running runtime) := by
  match r with
  | .ok (.running runtime') => rw [Option.some.inj h]

section Main

variable [Xdb] [StdParse] [StdCase] [Toml.Parse] [Builtin] [UrlParse]

def startup (configPath : Path) : SysProg RuntimeState := do
  let config ← (AppConfig.load configPath).mapError fun _ => s!"failed to load {configPath.display}"
  LogController.apply configPath config.logging
  let runtime ← RuntimeState.load config configPath
  ask (.log .info (runtime.language.render "log.starting"
    [("locale", runtime.config.language.locale)]))
  return runtime

def main (configPath : Path) : SysProg Started := do
  match ← bootstrap configPath with
  | some message => return .firstRun message
  | none => do
    let runtime ← startup configPath
    ConfigWatcher.new configPath
    ask (.log .info "configuration hot reload and ip2region auto-update are enabled")
    return .running runtime

/-- What the parts of a start establish, the start does: `N` of the state it loaded, and `A` of the
one that it comes to serve with. -/
lemma wp_main_running {E : Env Choice Sys} {P L : AppConfig → Sys → Prop}
    {N A : RuntimeState → Sys → Prop} {configPath : Path} (hN : ∀ runtime, Stable E (N runtime))
    (hA : ∀ runtime, Stable E (A runtime))
    (hconfig : ∀ s, (AppConfig.load configPath).wp Sys.handle E (Prog.onOk P) s)
    (hlog : ∀ config s, P config s → (LogController.apply configPath config.logging).wp Sys.handle E
      (Prog.onOk fun _ => L config) s)
    (hstate : ∀ config s, L config s → (RuntimeState.load config configPath).wp Sys.handle E
      (Prog.onOk N) s)
    (hwatcher : ∀ runtime s, N runtime s → (ConfigWatcher.new configPath).wp Sys.handle E
      (Prog.onOk fun _ => A runtime) s) (s : Sys) :
    (main configPath).wp Sys.handle E (Prog.onOk fun started s' => ∀ runtime,
      started = .running runtime → A runtime s') s := by
  apply Prog.wp_seq_onOk (Prog.wp_onOk_true _ s)
  intro message s₁ _
  cases message with
  | some message =>
    intro runtime hrunning
    cases hrunning
  | none =>
    have hstartup : (startup configPath).wp Sys.handle E (Prog.onOk N) s₁ := by
      have hload : ((AppConfig.load configPath).mapError fun _ =>
          s!"failed to load {configPath.display}").wp Sys.handle E (Prog.onOk P) s₁ := by
        rw [Prog.wp_mapError]
        apply Prog.wp_mono (hconfig s₁)
        intro r s' h
        cases r <;> exact h
      apply Prog.wp_seq_onOk hload
      intro config s₂ h₂
      apply Prog.wp_seq_onOk (hlog config s₂ h₂)
      intro _ s₃ h₃
      apply Prog.wp_seq_onOk (hstate config s₃ h₃)
      intro runtime s₄ h₄
      exact ((hN runtime).keeps_log _ _).seq h₄ (fun _ _ _ => trivial) fun _ _ h₅ => h₅
    apply Prog.wp_seq_onOk hstartup
    intro runtime s₂ h₂
    apply Prog.wp_seq_onOk (hwatcher runtime s₂ h₂)
    intro _ s₃ h₃
    refine ((hA runtime).keeps_log _ _).seq h₃ (fun _ _ _ => trivial) fun _ s₄ h₄ => ?_
    intro runtime' hrunning
    cases hrunning
    exact h₄

end Main

/-! ### A small gateway -/

/-- A configuration file, as a text and parsed. -/
def torToml : String :=
  "[server]\n[security]\nauto_update=true\nblock_vpn=false\nblock_spam=false\n" ++
    "[routing.lines.default]\nhost=\"mc\"\n"

def torTable : Toml.Table :=
  [("server", .table []),
   ("security", .table [("auto_update", .boolean true), ("block_vpn", .boolean false),
     ("block_spam", .boolean false)]),
   ("routing", .table [("lines", .table [("default", .table [("host", .string "mc")])])])]

/-- The parser, as far as these files go. -/
@[reducible] def torParse : Toml.Parse where
  fromStr text := if text = torToml then some torTable else if text = "" then some [] else none

/-- No database is there. -/
@[reducible] def noXdb : Xdb where
  Searcher := Unit
  new _ := none
  search _ _ := .ok ""

@[reducible] def noBuiltin : Builtin where
  zhCN := ""
  enUS := ""
  configTemplate := ""
  vhostTemplates := []

@[reducible] def httpsUrl : UrlParse where
  scheme _ := some "https"

def torPath : Path := ⟨false, ["config.toml"]⟩

def torListPath : Path := ⟨false, [".", "data", "tor-exit-list.txt"]⟩

/-- The configuration, its list with one exit address, and its language file. -/
def torGateway : Sys where
  files p :=
    if p = torPath then some (asBytes torToml)
    else if p = torListPath then some (asBytes "203.0.113.8")
    else if p = ⟨false, [".", "lang", "zh-CN.toml"]⟩ then some []
    else none
  sink := none
  log := []
  watcher := none
  queue := []
  edits := 0
  seen := []

section Tor

attribute [local instance] noXdb dottedParse asciiCase torParse noBuiltin httpsUrl

private lemma torGateway_quiet :
    let r := (main torPath).run Sys.handle (fun _ => ⟨id, .calm⟩) torGateway
    ((Started.state r.1).any fun runtime =>
      runtime.config.vhosts.isNone && r.2.queue.isEmpty) = true := by
  decide +kernel

/-- The small gateway starts without virtual hosts, and no event waits. -/
lemma torGateway_starts : ∃ runtime : RuntimeState,
    ((main torPath).run Sys.handle (fun _ => ⟨id, .calm⟩) torGateway).1 =
      .ok (.running runtime) ∧ runtime.config.vhosts = none ∧
    ((main torPath).run Sys.handle (fun _ => ⟨id, .calm⟩) torGateway).2.queue = [] := by
  obtain ⟨runtime, hruntime, hquiet⟩ := (Option.any_eq_true _ _).mp torGateway_quiet
  obtain ⟨hvhosts, hqueue⟩ := (Bool.and_eq_true _ _).mp hquiet
  exact ⟨runtime, Started.state_eq_some hruntime, Option.isNone_iff_eq_none.mp hvhosts,
    List.isEmpty_iff.mp hqueue⟩

end Tor

end TransferGateway
