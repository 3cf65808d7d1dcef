import TransferGateway.Config.Counters
import TransferGateway.Dns
import TransferGateway.Ip2region.Update
import TransferGateway.Messages
import TransferGateway.Security.Update

/-!
# The runtime state

Everything a connection is served with, loaded together from one configuration.
-/

namespace TransferGateway

namespace RuntimeState

/-! ### The parts of a load -/

/-- The language file of a configuration, created if it is missing. -/
def loadLanguage [Toml.Parse] [Builtin] (config : LanguageConfig) (configPath : Path) :
    SysProg Language := do
  let languagePath := config.filePath configPath
  let languageCreated ← Language.ensureFile languagePath config.locale
  let language ← Language.load languagePath config.locale
  logIf languageCreated .info
    (language.render "log.language_created" [("path", languagePath.display)])
  return language

/-- Missing databases are downloaded; a failure is logged and the rest goes on. -/
def downloadDatabases [Xdb] (config : Ip2RegionConfig) (language : Language) : SysProg Unit :=
  if !config.autoDownload then pure ()
  else do
    match ← (Ip2Region.downloadMissing config).attempt with
    | .ok downloaded =>
      forM downloaded fun database =>
        ask (.log .info (language.render "log.ip2region_downloaded"
          [("version", database.version.name), ("path", database.path.display)]))
    | .error error =>
      ask (.log .error (language.render "log.ip2region_download_failed" [("error", error)]))

/-- The same for missing block lists. -/
def downloadLists [StdParse] (config : SecurityConfig) (language : Language) : SysProg Unit :=
  if !config.autoDownload then pure ()
  else do
    match ← (Security.downloadMissing config).attempt with
    | .ok downloaded =>
      forM downloaded fun list =>
        ask (.log .info (language.render "log.security_list_downloaded"
          [("kind", list.kind), ("path", list.path.display)]))
    | .error error =>
      ask (.log .error (language.render "log.security_list_download_failed" [("error", error)]))

/-- The log lines about a state's lists. -/
def logLists (security : Security) (language : Language) : SysProg Unit := do
  logIf (security.isEnabled && !security.hasData) .warn (language.render "log.no_security_data" [])
  ask (.log .info "security blocklists loaded")

lemma writesIn_loadLanguage [Toml.Parse] [Builtin] (config : LanguageConfig) (configPath : Path) :
    WritesIn {config.filePath configPath} (loadLanguage config configPath) :=
  .bind (Language.writesIn_ensureFile ..) fun _ =>
    .bind ((Language.writesIn_load ..).mono (by simp)) fun _ =>
    .bind (writesIn_logIf ..) fun _ => trivial

lemma writesIn_downloadDatabases [Xdb] (config : Ip2RegionConfig) (language : Language) :
    WritesIn (Ip2Region.writable config) (downloadDatabases config language) := by
  rw [downloadDatabases]
  split
  · trivial
  · refine .bind ((Prog.all_attempt _).mpr (Ip2Region.writesIn_downloadMissing config)) fun r => ?_
    split
    · exact Prog.all_forM fun _ _ => by simp
    · simp

lemma writesIn_downloadLists [StdParse] (config : SecurityConfig) (language : Language) :
    WritesIn (Security.writable config) (downloadLists config language) := by
  rw [downloadLists]
  split
  · trivial
  · refine .bind ((Prog.all_attempt _).mpr (Security.writesIn_downloadMissing config)) fun r => ?_
    split
    · exact Prog.all_forM fun _ _ => by simp
    · simp

lemma writesIn_logLists (security : Security) (language : Language) :
    WritesIn ∅ (logLists security language) :=
  .bind (writesIn_logIf ..) fun _ => by simp

end RuntimeState

/-! ### Loading a state -/

variable [Xdb]

structure RuntimeState where
  config : AppConfig
  dns : MinecraftDnsResolver
  ip2region : Ip2Region
  security : Security
  language : Language

namespace RuntimeState

def withIp2region (s : RuntimeState) (ip2region : Ip2Region) : RuntimeState :=
  { s with ip2region }

def withSecurity (s : RuntimeState) (security : Security) : RuntimeState :=
  { s with security }

/-- The configuration is one that was loaded. -/
def HasLoaded [Toml.Parse] [UrlParse] [StdCase] (state : RuntimeState) : Prop :=
  ∃ (config : AppConfig) (configPath : Path), config.Loaded ∧
    state.config = config.resolvePaths configPath

section Load

variable [StdParse] [StdCase] [Toml.Parse] [Builtin]

def load (config : AppConfig) (configPath : Path) : SysProg RuntimeState := do
  let config := config.resolvePaths configPath
  let language ← loadLanguage config.language configPath
  downloadDatabases config.ip2region language
  let ip2region ← Ip2Region.open config.ip2region
  logIf (!ip2region.isConfigured) .warn (language.render "log.no_ip2region" [])
  downloadLists config.security language
  let security ← Security.open config.security
  logLists security language
  let dns ← MinecraftDnsResolver.fromSystemConfig
  return { config, dns, ip2region, security, language }

variable {E : Env Choice Sys} (config : AppConfig) (configPath : Path)

lemma writesIn_load :
    WritesIn ({(config.resolvePaths configPath).language.filePath configPath} ∪
      Ip2Region.writable (config.resolvePaths configPath).ip2region ∪
      Security.writable (config.resolvePaths configPath).security) (load config configPath) :=
  .bind ((writesIn_loadLanguage ..).mono fun _ h => .inl (.inl h)) fun _ =>
    .bind ((writesIn_downloadDatabases ..).mono fun _ h => .inl (.inr h)) fun _ =>
    .bind ((Ip2Region.writesIn_open _).mono (by simp)) fun _ =>
    .bind (writesIn_logIf ..) fun _ =>
    .bind ((writesIn_downloadLists ..).mono fun _ h => .inr h) fun _ =>
    .bind ((Security.writesIn_open _).mono (by simp)) fun _ =>
    .bind ((writesIn_logLists ..).mono (by simp)) fun _ =>
    .bind (writesIn_fromSystemConfig.mono (by simp)) fun _ => trivial

section Keeps

variable {q : Path} {bytes : List UInt8} (hq : Sys.Steady E q)
  (hdatabases : ∀ path ∈ (config.resolvePaths configPath).ip2region.databasePaths, ∀ uuid,
    q ≠ Ip2Region.temporaryPath path uuid)
  (hlists : ∀ path ∈ (config.resolvePaths configPath).security.listPaths, ∀ uuid,
    q ≠ Security.temporaryPath path uuid)

include hq hdatabases hlists

/-- Behind the language file a load leaves the files that are there alone, except where it would put a
temporary one. -/
lemma wp_load_keeps {s : Sys} (hlanguage : (loadLanguage (config.resolvePaths configPath).language
      configPath).wp Sys.handle E (fun _ s' => s'.files q = some bytes) s) :
    (load config configPath).wp Sys.handle E (fun _ s' => s'.files q = some bytes) s := by
  have hnone : ∀ {α : Type} {p : SysProg α}, WritesIn ∅ p →
      Prog.Keeps Sys.handle E (fun s => s.files q = some bytes) p :=
    fun hp => hp.keeps (by simp) hq _
  have hlog : ∀ {ι : Type} (l : List ι) (message : ι → String), WritesIn ∅
      (forM l fun item => ask (.log .info (message item)) : SysProg PUnit) :=
    fun l _ => Prog.all_forM fun _ _ => by simp
  have hdownloads : ∀ language, Prog.Keeps Sys.handle E (fun s => s.files q = some bytes)
      (downloadDatabases (config.resolvePaths configPath).ip2region language) := by
    intro language
    rw [downloadDatabases]
    split
    · exact .ret _
    · refine .bind (.attempt (Ip2Region.keeps_downloadMissing hq hdatabases)) fun r => ?_
      cases r with
      | ok downloaded => exact hnone (hlog _ _)
      | error e => exact hnone (by simp [WritesIn])
  have hlistDownloads : ∀ language, Prog.Keeps Sys.handle E (fun s => s.files q = some bytes)
      (downloadLists (config.resolvePaths configPath).security language) := by
    intro language
    rw [downloadLists]
    split
    · exact .ret _
    · refine .bind (.attempt (Security.keeps_downloadMissing hq hlists)) fun r => ?_
      cases r with
      | ok downloaded => exact hnone (hlog _ _)
      | error e => exact hnone (by simp [WritesIn])
  refine Prog.wp_seq hlanguage (fun language s₁ h₁ => ?_) fun _ _ h => h
  refine Prog.Keeps.bind (hdownloads language) (fun _ => .bind (hnone (Ip2Region.writesIn_open _))
    fun ip2region => .bind (hnone (writesIn_logIf ..)) fun _ => .bind (hlistDownloads language)
    fun _ => .bind (hnone (Security.writesIn_open _)) fun security =>
    .bind (hnone (writesIn_logLists ..)) fun _ =>
    .bind (hnone writesIn_fromSystemConfig) fun _ => .ret _) s₁ h₁

lemma keeps_load : Prog.Keeps Sys.handle E (fun s => s.files q = some bytes)
    (load config configPath) := by
  refine fun s hs => wp_load_keeps config configPath hq hdatabases hlists ?_
  exact Prog.Keeps.bind (Language.keeps_ensureFile hq _ _) (fun _ =>
    .bind ((Language.writesIn_load ..).keeps (by simp) hq _) fun _ =>
    .bind ((writesIn_logIf (F := ∅) ..).keeps (by simp) hq _) fun _ => .ret _) s hs

end Keeps

/-- What opening establishes holds of a loaded state, if the steps that follow it keep it. -/
lemma wp_load {P : Ip2Region → Sys → Prop} {Q : Security → Sys → Prop}
    (hopen : ∀ s, (Ip2Region.open (config.resolvePaths configPath).ip2region).wp Sys.handle E
      (Prog.onOk P) s)
    (hkeep : ∀ {α : Type} {p : SysProg α} {ip2region},
      WritesIn (Security.writable (config.resolvePaths configPath).security) p →
        Prog.Keeps Sys.handle E (P ip2region) p)
    (hopen' : ∀ s, (Security.open (config.resolvePaths configPath).security).wp Sys.handle E
      (Prog.onOk Q) s)
    (hkeep' : ∀ {α : Type} {p : SysProg α} {security},
      WritesIn ∅ p → Prog.Keeps Sys.handle E (Q security) p) (s : Sys) :
    (load config configPath).wp Sys.handle E (Prog.onOk fun state s' =>
      state.config = config.resolvePaths configPath ∧ P state.ip2region s' ∧
        Q state.security s') s := by
  refine Prog.wp_seq_onOk (Prog.wp_onOk_true _ s) fun language s₁ _ =>
    Prog.wp_seq_onOk (Prog.wp_onOk_true _ s₁) fun _ s₂ _ =>
    Prog.wp_seq_onOk (hopen s₂) fun ip2region s₃ h₃ => ?_
  refine (hkeep (writesIn_logIf ..)).seq h₃ (fun _ _ _ => trivial) fun _ s₄ h₄ =>
    (hkeep (writesIn_downloadLists ..)).seq h₄ (fun _ _ _ => trivial) fun _ s₅ h₅ => ?_
  -- from here on both are there
  have hopened := Prog.wp_onOk_and (hopen' s₅)
    (hkeep ((Security.writesIn_open _).mono (by simp)) s₅ h₅)
  apply Prog.wp_seq_onOk hopened
  intro security s₆ h₆
  have hboth : ∀ {α : Type} {p : SysProg α}, WritesIn ∅ p →
      Prog.Keeps Sys.handle E (fun t => Q security t ∧ P ip2region t) p := fun hp t ht =>
    Prog.wp_and (hkeep' hp t ht.1) (hkeep (hp.mono (by simp)) t ht.2)
  refine (hboth (writesIn_logLists ..)).seq h₆ (fun _ _ _ => trivial) fun _ s₇ h₇ =>
    (hboth writesIn_fromSystemConfig).seq h₇ (fun _ _ _ => trivial) fun _ s₈ h₈ =>
    ⟨rfl, h₈.2, h₈.1⟩

/-- A loaded state has the configuration it was loaded with. -/
lemma wp_load_config (s : Sys) :
    (load config configPath).wp Sys.handle E (Prog.onOk fun state _ =>
      state.config = config.resolvePaths configPath) s := by
  refine Prog.wp_onOk_mono (wp_load config configPath (P := fun _ _ => True)
    (Q := fun _ _ => True) (fun s => Prog.wp_onOk_true _ s) ?_ (fun s => Prog.wp_onOk_true _ s)
    ?_ s) fun _ _ h => h.1
  · exact fun _ s _ => Prog.wp_always (fun _ _ => trivial) _ s
  · exact fun _ s _ => Prog.wp_always (fun _ _ => trivial) _ s

end Load

end RuntimeState

end TransferGateway
