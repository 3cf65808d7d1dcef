import TransferGateway.Permits
import TransferGateway.Runtime.Freshness
import TransferGateway.Runtime.Interrupted
import TransferGateway.Runtime.Watcher

/-!
# What the gateway reaches out for

The configuration says which files the gateway writes and what it fetches. Every operation of the
program, wherever it comes to, keeps to a configuration that it has read by then, or to the one that
is published.
-/

namespace TransferGateway

open Permit

/-! ### The permits of a configuration -/

namespace AppConfig

/-- To download the databases and lists that are missing. -/
def downloadPermit (config : AppConfig) : Permit :=
  when config.ip2region.autoDownload (Ip2Region.permit config.ip2region) ∪
    when (config.security.enabled && config.security.autoDownload) (Security.permit config.security)

/-- To load a state from it, and to log. -/
def loadPermit (config : AppConfig) (configPath : Path) : Permit :=
  file (config.language.filePath configPath) ∪ config.downloadPermit ∪
    LogController.permit (config.logging.filePath configPath)

/-- To bring its databases and lists up to date. -/
def updatePermit (config : AppConfig) : Permit :=
  when config.ip2region.autoUpdate (Ip2Region.permit config.ip2region) ∪
    when (config.security.enabled && config.security.autoUpdate) (Security.permit config.security)

end AppConfig

/-- To watch this configuration. -/
def Permit.watch (configPath : Path) : Permit := ⟨∅, ∅, ∅, {configPath}⟩

/-! ### Loading -/

lemma within_logIf (condition : Bool) (level : Level) (message : String) :
    Within none (logIf condition level message) := by
  cases condition <;> simp [logIf, Within]

section Load

variable [Toml.Parse]

lemma Language.within_load [Builtin] (path : Path) (locale : String) :
    Within none (Language.load path locale) := by
  rw [Language.load]
  refine .bind (by simp) fun _ => .bind (by simp) fun source => ?_
  split <;> trivial

lemma within_loadVhosts (c : AppConfig) (configPath : Path) :
    Within none (c.loadVhosts configPath) := by
  have hrouting : ∀ path base, Within none (loadVhostRouting path base) := by
    intro path base
    rw [loadVhostRouting]
    refine .bind (by simp) fun _ => .bind (by simp) fun source => ?_
    split
    · trivial
    · simp
  have hroutes : ∀ files base routes, Within none (loadRoutes configPath files base routes) := by
    intro files
    induction files with
    | nil => exact fun _ _ => trivial
    | cons file files ih =>
      exact fun _ _ => .bind (by simp [failIf]) fun _ =>
        .bind ((Prog.all_mapError ..).mpr (hrouting ..)) fun _ => ih _ _
  rw [AppConfig.loadVhosts]
  split
  · exact .bind (.bind (hroutes ..) fun _ => trivial) fun _ => trivial
  · trivial

lemma AppConfig.within_load [UrlParse] [StdCase] (configPath : Path) :
    Within none (AppConfig.load configPath) := by
  rw [AppConfig.load]
  refine .bind (by simp) fun _ => .bind (by simp) fun source => ?_
  split
  · trivial
  · exact .bind (within_loadVhosts ..) fun _ => .bind (by simp) fun _ => trivial

namespace RuntimeState

variable [Xdb] [StdParse] [StdCase] [Builtin] (config : AppConfig) (configPath : Path)

omit [Xdb] [StdParse] [StdCase] in
lemma within_loadLanguage (config : LanguageConfig) :
    Within (file (config.filePath configPath)) (loadLanguage config configPath) :=
  .bind (Language.writesBlind_ensureFile ..).within fun _ =>
    .bind ((Language.within_load ..).mono (covers_none _)) fun _ =>
    .bind ((within_logIf ..).mono (covers_none _)) fun _ => trivial

/-- Behind the language file a load needs no more than the downloads do. -/
lemma exists_within_load : ∃ f, load config configPath =
    loadLanguage (config.resolvePaths configPath).language configPath >>= f ∧
      ∀ language, Within (config.resolvePaths configPath).downloadPermit (f language) := by
  have hnone : ∀ {α : Type} {p : SysProg α}, Within none p →
      Within (config.resolvePaths configPath).downloadPermit p :=
    fun hp => hp.mono (covers_none _)
  have hlog : ∀ {ι : Type} (l : List ι) (message : ι → String), Within none
      (forM l fun item => ask (.log .info (message item)) : SysProg PUnit) :=
    fun l _ => Prog.all_forM fun _ _ => by simp
  have hdatabases : ∀ (config : Ip2RegionConfig) language,
      Within (when config.autoDownload (Ip2Region.permit config))
        (downloadDatabases config language) := by
    intro config language
    rw [downloadDatabases]
    split
    · trivial
    · refine .bind ((Prog.all_attempt _).mpr (Ip2Region.within_downloadMissing config)) fun r => ?_
      cases r with
      | ok downloaded => exact (hlog ..).mono (covers_none _)
      | error e => simp
  have hlists : ∀ (config : SecurityConfig) language,
      Within (when (config.enabled && config.autoDownload) (Security.permit config))
        (downloadLists config language) := by
    intro config language
    rw [downloadLists]
    split
    · trivial
    · refine .bind ((Prog.all_attempt _).mpr (Security.within_downloadMissing config)) fun r => ?_
      cases r with
      | ok downloaded => exact (hlog ..).mono (covers_none _)
      | error e => simp
  have hdns : Within none MinecraftDnsResolver.fromSystemConfig := by
    refine .bind (by simp) fun r => ?_
    cases r with
    | ok resolver => trivial
    | error message => exact .bind (by simp) fun _ => trivial
  refine ⟨_, rfl, fun language => ?_⟩
  exact .bind ((hdatabases ..).mono (covers_left ..)) fun _ =>
    .bind (hnone (Ip2Region.within_open _)) fun _ => .bind (hnone (within_logIf ..)) fun _ =>
    .bind ((hlists ..).mono (covers_right ..)) fun _ =>
    .bind (hnone (Security.within_open _)) fun _ =>
    .bind (hnone (.bind (within_logIf ..) fun _ => by simp)) fun _ =>
    .bind (hnone hdns) fun _ => trivial

lemma within_load : Within ((config.resolvePaths configPath).loadPermit configPath)
    (load config configPath) := by
  obtain ⟨f, hload, hf⟩ := exists_within_load config configPath
  rw [hload]
  exact .bind ((within_loadLanguage ..).mono ((covers_left ..).trans (covers_left ..)))
    fun language => (hf language).mono ((covers_left ..).trans (covers_right ..))

lemma returns_load :
    (load config configPath).Returns fun state => state.config = config.resolvePaths configPath :=
  Prog.returns_bind fun _ => Prog.returns_bind fun _ => Prog.returns_bind fun _ =>
    Prog.returns_bind fun _ => Prog.returns_bind fun _ => Prog.returns_bind fun _ =>
    Prog.returns_bind fun _ => Prog.returns_bind fun _ => rfl

end RuntimeState

end Load

/-! ### Starting -/

/-- To write the files of a first run. -/
def Permit.firstRun [Builtin] (configPath : Path) : Permit :=
  ⟨{q | ∃ file ∈ defaultFiles configPath, q = file.1}, ∅, ∅, ∅⟩

lemma writesBlind_bootstrap [Builtin] [Toml.Parse] (configPath : Path) :
    WritesBlind (firstRun configPath) (bootstrap configPath) := by
  have hfile : ∀ {file : Path × List UInt8} {α : Type} {p : SysProg α},
      file ∈ defaultFiles configPath → WritesBlind (Permit.file file.1) p →
      WritesBlind (firstRun configPath) p :=
    fun hfile hp => hp.mono (covers_file ⟨_, hfile, rfl⟩)
  have hnone : ∀ {α : Type} {p : SysProg α}, WritesBlind none p →
      WritesBlind (firstRun configPath) p :=
    fun hp => hp.mono (covers_none _)
  have hvhosts : WritesBlind (firstRun configPath) (ensureVhostFiles configPath) := by
    rw [ensureVhostFiles, show (configDirectory configPath).join ⟨false, ["vhosts"]⟩ =
      pathBelow configPath ["vhosts"] from join_configDirectory ..]
    refine .bind (by simp) fun _ => .bind (by simp) fun _ => Prog.all_forM fun vhost hvhost => ?_
    dsimp only
    rw [join_pathBelow _ (by simp) _ (toml_ne_dot _)]
    exact .bind (hfile (vhost_mem_defaultFiles configPath hvhost) (writesBlind_createFile ..))
      fun _ => trivial
  rw [bootstrap]
  refine .bind (by simp) fun present => ?_
  cases present with
  | true => trivial
  | false =>
    refine .bind (.bind (hnone (writesBlind_createParent ..)) fun _ =>
      hfile List.mem_cons_self (writesBlind_createFile ..)) fun created => ?_
    cases created with
    | false => trivial
    | true =>
      simp only [if_true, languageDirectory_eq]
      rw [join_pathBelow _ (by simp) _ (by decide), join_pathBelow _ (by simp) _ (by decide)]
      refine .bind (hfile (List.mem_cons_of_mem _ List.mem_cons_self)
        (Language.writesBlind_ensureFile ..)) fun _ => .bind (hfile (List.mem_cons_of_mem _
        (List.mem_cons_of_mem _ List.mem_cons_self)) (Language.writesBlind_ensureFile ..)) fun _ =>
        .bind hvhosts fun _ => ?_
      cases Language.builtin DEFAULT_LOCALE with
      | none => trivial
      | some language => trivial

/-! ### The task -/

section RtWithin

variable [Xdb]

/-- What an operation of the watcher task does to the system is within the permit, and what it
publishes satisfies `K`. -/
@[simp] def RtOp.Within (g : Permit) (K : RuntimeState → Prop) {β : Type} : RtOp β → Prop
  | .inl o => g.Allows o
  | .inr .borrow => True
  | .inr (.sendReplace state) => K state

def RtWithin (g : Permit) (K : RuntimeState → Prop) {α : Type} (p : RtProg α) : Prop :=
  p.All fun _ o => RtOp.Within g K o

/-- What an operation of the watcher task does to the system satisfies `A`. -/
@[simp] def RtOp.OnSystem (A : (β : Type) → SysOp β → Rt → Prop) {β : Type} : RtOp β → Rt → Prop
  | .inl o, t => A β o t
  | .inr _, _ => True

variable {g : Permit} {K : RuntimeState → Prop} {α : Type}

lemma Within.onSys {p : SysProg α} (hp : TransferGateway.Within g p) : RtWithin g K (onSys p) :=
  (Prog.all_attempt _).mpr (hp.lift fun _ ho => ho)

lemma rtWithin_logLine (level : Level) (message : String) : RtWithin g K (logLine level message) := by
  simp [RtWithin, logLine]

lemma rtWithin_sendReplace {state : RuntimeState} (h : K state) :
    RtWithin g K (sendReplace state) := by
  simpa [RtWithin, sendReplace] using h

lemma returns_onSys {R : α → Prop} {p : SysProg α} (hp : p.Returns R) :
    (onSys p).Returns fun r => ∀ a, r = .ok a → R a := by
  rw [onSys]
  induction p with
  | ret a =>
    intro a' ha
    cases ha
    exact hp
  | fail e =>
    intro a ha
    cases ha
  | call o k ih => exact fun r => ih r (hp r)

end RtWithin

/-! ### What was read -/

section Read

variable [Toml.Parse] [UrlParse] [StdCase] {configPath : Path}

namespace AppConfig

/-- A load returned this configuration, and all that it read is on record. -/
def ReadFrom (config : AppConfig) (configPath : Path) (s : Sys) : Prop :=
  ∃ s₀ s₁, (load configPath).Outcome Sys.handle writers s₀ (.ok config) s₁ ∧ s₁.seen ⊆ s.seen

lemma ReadFrom.mono {config : AppConfig} {s s' : Sys} (h : config.ReadFrom configPath s)
    (hseen : s.seen ⊆ s'.seen) : config.ReadFrom configPath s' := by
  obtain ⟨s₀, s₁, hload, hs⟩ := h
  exact ⟨s₀, s₁, hload, List.Subset.trans hs hseen⟩

lemma ReadFrom.rely {config : AppConfig} {s s' : Sys} (h : config.ReadFrom configPath s)
    (hs : writers.interferes s s') : config.ReadFrom configPath s' :=
  h.mono (by rw [writers_private.seen hs]; exact fun _ => id)

lemma ReadFrom.step {config : AppConfig} {s : Sys} (h : config.ReadFrom configPath s) {β : Type}
    (o : SysOp β) (c : Choice) : config.ReadFrom configPath (s.step o c).2 :=
  Sys.step_of_set (fun _ _ _ _ h => h.mono fun _ => id)
    (fun _ _ _ _ h => h.mono fun _ => List.mem_cons_of_mem _) (fun _ _ h => h.mono fun _ => id)
    (fun _ _ _ h => h.mono fun _ => id) (fun _ _ _ h => h.mono fun _ => id) h

lemma wp_load_readFrom (configPath : Path) (s : Sys) :
    (load configPath).wp Sys.handle writers
      (Prog.onOk fun config s' => config.ReadFrom configPath s') s := by
  apply Prog.wp_mono (Prog.wp_outcome _ s)
  intro r s' hout
  cases r with
  | ok config => exact ⟨s, s', hout, fun _ => id⟩
  | error e => trivial

end AppConfig

/-- The operation needs no permit, or a configuration that was read gives it. -/
def Permitted (configPath : Path) (permit : AppConfig → Permit) {β : Type} (o : SysOp β) (s : Sys) :
    Prop :=
  Permit.none.Allows o ∨ ∃ config : AppConfig, config.ReadFrom configPath s ∧
    (permit (config.resolvePaths configPath)).Allows o

/-- So may the start of the program do, and it writes its default files as long as it has read
none. -/
def StartPermitted [Builtin] (configPath : Path) {β : Type} (o : SysOp β) (s : Sys) : Prop :=
  s.seen = [] ∧ (firstRun configPath).Allows o ∨
    Permitted configPath (fun config => config.loadPermit configPath ∪ watch configPath) o s

end Read

/-! ### The parts of the program -/

lemma ConfigWatcher.within_new (configPath : Path) :
    Within (watch configPath) (ConfigWatcher.new configPath) := by
  rw [ConfigWatcher.new]
  split
  · trivial
  · exact .bind (by simp) fun _ => .bind (by simp) fun _ => .bind (by simp [watch]) fun _ => by simp

section Task

variable [Xdb]

/-- The program reads the published state, and from then on it keeps to its configuration and
publishes the same one. -/
def KeepsToPublished {α : Type} (p : RtProg α) : Prop :=
  ∃ f : RuntimeState → RtProg α, p = borrow >>= f ∧ ∀ current, RtWithin current.config.updatePermit
    (fun state => state.config = current.config) (f current)

lemma keepsToPublished_updateCycle {ι δ : Type} {autoUpdate : RuntimeState → Bool}
    {update : RuntimeState → SysProg (Report ι)} {reopen : RuntimeState → SysProg δ}
    {replace : RuntimeState → δ → RuntimeState} {failedKey upToDate updatedKey : String}
    {replacements : ι → List (String × String)}
    (hupdate : ∀ current, Within current.config.updatePermit (update current))
    (hreopen : ∀ current, Within none (reopen current))
    (hreplace : ∀ current opened, (replace current opened).config = current.config) :
    KeepsToPublished (updateCycle autoUpdate update reopen replace failedKey upToDate updatedKey
      replacements) := by
  refine ⟨_, rfl, fun current => ?_⟩
  dsimp only
  split
  · trivial
  · refine .bind (hupdate current).onSys fun r => ?_
    cases r with
    | error error => exact .bind (rtWithin_logLine ..) fun _ => trivial
    | ok report =>
      refine .bind (Prog.all_forM fun _ _ => rtWithin_logLine ..) fun _ => ?_
      split
      · exact .bind (rtWithin_logLine ..) fun _ => trivial
      · refine .bind ((hreopen current).mono (covers_none _)).onSys fun r => ?_
        cases r with
        | error error => exact .bind (rtWithin_logLine ..) fun _ => trivial
        | ok opened =>
          exact .bind (rtWithin_sendReplace (hreplace ..)) fun _ =>
            .bind (Prog.all_forM fun _ _ => rtWithin_logLine ..) fun _ => trivial

lemma keepsToPublished_updateIp2region : KeepsToPublished updateIp2region := by
  refine keepsToPublished_updateCycle (fun current => ?_) (fun _ => Ip2Region.within_open _) ?_
  · exact (Ip2Region.within_update _).mono (covers_left ..)
  · exact fun _ _ => rfl

lemma keepsToPublished_updateSecurity [StdParse] [StdCase] : KeepsToPublished updateSecurity := by
  refine keepsToPublished_updateCycle (fun current => ?_) (fun _ => Security.within_open _) ?_
  · exact (Security.within_update _).mono (covers_right ..)
  · exact fun _ _ => rfl

/-- What holds of the operations that the published configuration permits, where `I` holds all the
way. -/
lemma KeepsToPublished.issues {α : Type} {E : Env Choice Sys} {P : (β : Type) → RtOp β → Rt → Prop}
    {I : Rt → Prop} {p : RtProg α} (hp : KeepsToPublished p)
    (hrely : ∀ {t t'}, (Rt.env E).interferes t t' → I t → I t')
    (hop : ∀ {β} (o : RtOp β) t, RtOp.Within t.published.config.updatePermit
      (fun state => state.config = t.published.config) o → I t → P β o t ∧ ∀ c, I (t.step o c).2)
    {t : Rt} (ht : I t) : p.issues Rt.handle (Rt.env E) P t := by
  obtain ⟨f, rfl, hf⟩ := hp
  have hborrow : borrow.wp Rt.handle (Rt.env E)
      (Prog.onOk fun current t => t.published.config = current.config ∧ I t) t :=
    fun t' ht' _ _ => ⟨rfl, hrely ht' ht⟩
  have hfirst : borrow.issues Rt.handle (Rt.env E) P t :=
    fun t' ht' => ⟨(hop (.inr .borrow) t' trivial (hrely ht' ht)).1, fun _ _ => trivial⟩
  refine Prog.issues_seq hfirst hborrow fun current t₁ ht₁ => ?_
  refine Prog.issues_of_all (I := fun t => t.published.config = current.config ∧ I t) (hf current)
    ?_ ?_ ht₁
  · exact fun {t t'} (ht' : (Rt.env E).interferes t t') h => ⟨ht'.2 ▸ h.1, hrely ht' h.2⟩
  · intro β o ho t ht
    rw [← ht.1] at ho
    obtain ⟨hP, hI⟩ := hop o t ho ht.2
    refine ⟨hP, fun c _ => ⟨?_, hI c⟩⟩
    rcases o with o | o
    · exact ht.1
    · cases o with
      | borrow => exact ht.1
      | sendReplace state => exact Eq.trans ho ht.1

/-- An update cycle keeps to the configuration that is published. -/
lemma KeepsToPublished.permitted {p : RtProg CycleEnd} (hp : KeepsToPublished p) (t : Rt) :
    p.issues Rt.handle (Rt.env writers) (fun _ o => RtOp.OnSystem
      (fun _ o t => t.published.config.updatePermit.Allows o) o) t := by
  refine hp.issues (I := fun _ => True) (fun _ _ => trivial) (fun o t ho _ => ⟨?_, fun _ => trivial⟩)
    trivial
  rcases o with o | o
  · exact ho
  · trivial

variable [StdParse] [StdCase] [Toml.Parse] [Builtin] [UrlParse] {configPath : Path}

/-- The program keeps to its default files, and then to its configuration. -/
lemma issues_main (configPath : Path) {s : Sys} (hs : s.seen = []) :
    (main configPath).issues Sys.handle writers (fun _ o => StartPermitted configPath o) s := by
  have hbootstrap : (bootstrap configPath).issues Sys.handle writers
      (fun _ o => StartPermitted configPath o) s :=
    Prog.issues_of_all (writesBlind_bootstrap configPath)
      (fun h hs => (writers_private.seen h).trans hs)
      (fun o ho s hs => ⟨.inl ⟨hs, ho.1⟩, fun c _ => (Sys.step_seen ho.2 c s).trans hs⟩) hs
  refine Prog.issues_seq hbootstrap (Prog.wp_onOk_true _ s) fun message s₁ _ => ?_
  cases message with
  | some message => trivial
  | none =>
    dsimp only
    rw [startup]
    simp only [bind_assoc]
    have hload : ((AppConfig.load configPath).mapError fun _ =>
        s!"failed to load {configPath.display}").wp Sys.handle writers
          (Prog.onOk fun config s' => config.ReadFrom configPath s') s₁ := by
      rw [Prog.wp_mapError]
      apply Prog.wp_mono (AppConfig.wp_load_readFrom configPath s₁)
      intro r s' h
      cases r <;> exact h
    refine Prog.issues_seq ?_ hload fun config s₂ h₂ => ?_
    · refine Prog.issues_mapError (Prog.issues_of_all (I := fun _ => True)
        (AppConfig.within_load configPath) (fun _ _ => trivial) ?_ trivial)
      exact fun o ho _ _ => ⟨.inr (.inl ho), fun _ _ => trivial⟩
    · -- the rest is what the configuration permits
      refine Prog.issues_of_all (I := config.ReadFrom configPath)
        (Q := fun _ o => ((config.resolvePaths configPath).loadPermit configPath ∪
          watch configPath).Allows o) ?_ (fun hs h => h.rely hs) ?_ h₂
      · exact .bind ((LogController.within_apply configPath config.logging).mono
          ((covers_left ..).trans (covers_right ..))) fun _ =>
          .bind ((RuntimeState.within_load ..).mono (covers_left ..)) fun runtime =>
          .bind (by simp) fun _ => .bind trivial fun runtime =>
          .bind ((ConfigWatcher.within_new _).mono (covers_right ..)) fun _ =>
          .bind (by simp) fun _ => trivial
      · exact fun o ho s' hs' => ⟨.inr (.inr ⟨config, hs', ho⟩), fun c _ => hs'.step o c⟩

/-- A reload keeps to the configuration it has read. -/
lemma issues_reloadConfig (configPath : Path) (t : Rt) :
    (reloadConfig configPath).issues Rt.handle (Rt.env writers) (fun _ o => RtOp.OnSystem
      (fun _ o t => Permitted configPath (·.loadPermit configPath) o t.sys) o) t := by
  have hload : ∀ t, (onSys (AppConfig.load configPath)).wp Rt.handle (Rt.env writers)
      (Prog.onOk fun r t' => ∀ config, r = .ok config → config.ReadFrom configPath t'.sys) t := by
    intro t
    rw [wp_onSys]
    apply Prog.wp_mono (AppConfig.wp_load_readFrom configPath t.sys)
    intro r s' h config hconfig
    rw [hconfig] at h
    exact h
  rw [reloadConfig]
  refine Prog.issues_seq (R := fun _ _ => True) (fun _ _ => ⟨trivial, fun _ _ => trivial⟩)
    (Prog.wp_onOk_true _ t) fun previous t₁ _ => ?_
  refine Prog.issues_seq ?_ (hload t₁) fun r t₂ hread => ?_
  · refine Prog.issues_of_all (I := fun _ => True)
      (Within.onSys (K := fun _ => True) (AppConfig.within_load configPath))
      (fun _ _ => trivial) (fun o ho _ _ => ⟨?_, fun _ _ => trivial⟩) trivial
    rcases o with o | o
    · exact .inl ho
    · trivial
  · have hfailed : ∀ g error (result : ReloadEnd), RtWithin g (fun _ => True) (do
        logReloadFailure previous error
        return result : RtProg ReloadEnd) :=
      fun _ _ _ => .bind (rtWithin_logLine ..) fun _ => trivial
    cases r with
    | error error =>
      refine Prog.issues_of_all (I := fun _ => True) (hfailed none error .configFailed)
        (fun _ _ => trivial) (fun o ho _ _ => ⟨?_, fun _ _ => trivial⟩) trivial
      rcases o with o | o
      · exact .inl ho
      · trivial
    | ok config =>
      have hread := hread config rfl
      refine Prog.issues_of_all (I := fun t => config.ReadFrom configPath t.sys)
        (Q := fun _ o => RtOp.Within ((config.resolvePaths configPath).loadPermit configPath)
          (fun _ => True) o) ?_ ?_ ?_ hread
      · refine Prog.All.bind_of_returns (RuntimeState.within_load ..).onSys
          (returns_onSys (RuntimeState.returns_load ..)) fun r hr => ?_
        cases r with
        | error error => exact hfailed ..
        | ok next =>
          refine .bind (Within.onSys ?_) fun r => ?_
          · rw [hr next rfl]
            exact (LogController.within_apply ..).mono (covers_right ..)
          · cases r with
            | error error => exact hfailed ..
            | ok _ =>
              exact .bind (rtWithin_sendReplace trivial) fun _ =>
                .bind (rtWithin_logLine ..) fun _ => trivial
      · exact fun {t t'} (ht' : (Rt.env writers).interferes t t') h => h.rely ht'.1
      · intro β o ho t ht
        rcases o with o | o
        · exact ⟨.inr ⟨config, ht, ho⟩, fun c _ => ht.step o c⟩
        · refine ⟨trivial, fun c _ => ?_⟩
          cases o <;> exact ht

/-! ### Wherever the program comes to -/

namespace Watcher

/-- What is left of a job keeps to its configuration. -/
def Confined (configPath : Path) (w : Watcher) : Prop :=
  match w.phase with
  | .reloading rest => rest.issues Rt.handle (Rt.env writers) (fun _ o => RtOp.OnSystem
      (fun _ o t => Permitted configPath (·.loadPermit configPath) o t.sys) o) w.rt
  | .updating rest => rest.issues Rt.handle (Rt.env writers) (fun _ o => RtOp.OnSystem
      (fun _ o t => t.published.config.updatePermit.Allows o) o) w.rt
  | _ => True

variable {w w' : Watcher}

omit [StdParse] [Builtin] in
lemma Confined.change (h : w.Confined configPath) {s' : Sys} (hs : w.rt.sys.Change s') :
    (w.withSys s').Confined configPath := by
  obtain ⟨⟨sys, published⟩, phase, started, succeeded, valid⟩ := w
  have ht : (Rt.env writers).interferes ⟨sys, published⟩ ⟨s', published⟩ := ⟨.single hs, rfl⟩
  cases phase with
  | reloading rest => exact Prog.issues_stable Rt.writers_trans h ht
  | updating rest => exact Prog.issues_stable Rt.writers_trans h ht
  | _ => trivial

/-- Every step of the task keeps to it. -/
lemma Step.isConfined (hstep : w.Step configPath w') (h : w.Confined configPath) :
    w'.Confined configPath := by
  obtain ⟨⟨sys, published⟩, phase, started, succeeded, valid⟩ := w
  cases hstep with
  | ip2regionTimer hphase => exact keepsToPublished_updateIp2region.permitted _
  | securityTimer hphase => exact keepsToPublished_updateSecurity.permitted _
  | drained hphase hqueue => exact issues_reloadConfig configPath _
  | reloadOp c hphase =>
    cases hphase
    exact (h _ ⟨.refl, rfl⟩).2 c trivial
  | @reloadEnd result hphase => cases result <;> trivial
  | updateOp c hphase =>
    cases hphase
    exact (h _ ⟨.refl, rfl⟩).2 c trivial
  | @drain message rest hphase hqueue =>
    cases hphase
    cases message <;> trivial
  | _ => simp_all [Confined, received, withSys, logged]

end Watcher

namespace Gateway

/-- What is left of the program keeps to the configuration. -/
def Confined (configPath : Path) : Gateway → Prop
  | .starting s rest =>
    rest.issues Sys.handle writers (fun _ o => StartPermitted configPath o) s
  | .exited _ => True
  | .running w => w.Confined configPath

variable {g g' : Gateway}

lemma Step.isConfined (hstep : g.Step configPath g') (h : g.Confined configPath) :
    g'.Confined configPath := by
  cases hstep with
  | startOp c => exact (h _ .refl).2 c trivial
  | startFailed | firstRun => trivial
  | spawn => trivial
  | startChange hs => exact Prog.issues_stable Relation.ReflTransGen.trans h (.single hs)
  | change hs => exact Watcher.Confined.change h hs
  | task hw => exact hw.isConfined h

lemma Reach.isConfined (h : Reach configPath (fun _ _ => True) g) : g.Confined configPath := by
  induction h with
  | init hs => exact issues_main configPath hs.2.2.2
  | step _ hstep _ ih => exact hstep.isConfined ih

/-- Whatever the writers do in between: as long as the start has read nothing it writes the default
files only, and otherwise it keeps to a configuration that it has read, and to watching that; a reload
keeps to the configuration that it has read itself, and an update cycle to the published one. -/
theorem Reach.confined (h : Reach configPath (fun _ _ => True) g) :
    (∀ {s : Sys} {β : Type} {o : SysOp β} {k : β → SysProg Started},
      g = .starting s (.call o k) → StartPermitted configPath o s) ∧
    (∀ {w : Watcher} {β : Type} {o : SysOp β} {k : β → RtProg ReloadEnd}, g = .running w →
      w.phase = .reloading (.call (.inl o) k) →
      Permitted configPath (·.loadPermit configPath) o w.rt.sys) ∧
    ∀ {w : Watcher} {β : Type} {o : SysOp β} {k : β → RtProg CycleEnd}, g = .running w →
      w.phase = .updating (.call (.inl o) k) → w.rt.published.config.updatePermit.Allows o := by
  have hconfined := h.isConfined
  refine ⟨?_, ?_, ?_⟩
  · rintro s β o k rfl
    exact (hconfined s .refl).1
  · rintro w β o k rfl hphase
    simp only [Confined, Watcher.Confined, hphase] at hconfined
    exact (hconfined w.rt ⟨.refl, rfl⟩).1
  · rintro w β o k rfl hphase
    simp only [Confined, Watcher.Confined, hphase] at hconfined
    exact (hconfined w.rt ⟨.refl, rfl⟩).1

end Gateway

end Task

section Tor

attribute [local instance] noXdb dottedParse asciiCase torParse noBuiltin httpsUrl

lemma reach_torStarting {t : Rt} (h : torServing = some t) :
    Gateway.Reach torPath (fun _ _ => True) (.starting t.sys (.ret (.running t.published))) := by
  have hstart : Gateway.Reach torPath (fun _ _ => True) (.starting torGateway (main torPath)) :=
    .init ⟨rfl, rfl, rfl, rfl⟩
  have hmain := hstart.run (m := fun _ => ⟨id, .calm⟩) (fun _ _ => .refl) (fun _ _ => trivial)
    fun _ _ _ _ => trivial
  unfold torServing at h
  split at h
  · rename_i runtime s hrun
    obtain rfl := Option.some.inj h
    rw [hrun] at hmain
    exact hmain
  · cases h

lemma reach_torServing {t : Rt} (h : torServing = some t) :
    Gateway.Reach torPath (fun _ _ => True) (.running (.spawned t.sys t.published)) :=
  (reach_torStarting h).step .spawn trivial

/-- What the program fetches next. -/
def nextUrl {α : Type} : RtProg α → Option String
  | .call (.inl (.get url)) _ => some url
  | _ => none

private lemma nextUrl_eq_some {α : Type} {p : RtProg α} {url : String}
    (h : nextUrl p = some url) : ∃ k, p = .call (.inl (.get url)) k := by
  unfold nextUrl at h
  split at h
  · obtain rfl := Option.some.inj h
    exact ⟨_, rfl⟩
  · cases h

/-- An update cycle, some operations on. -/
lemma Gateway.Reach.updating {w : Watcher} {p : RtProg CycleEnd} (n : ℕ)
    (h : Gateway.Reach torPath (fun _ _ => True) (.running w)) (hphase : w.phase = .updating p) :
    Gateway.Reach torPath (fun _ _ => True) (.running { w with
      rt := (Prog.advance Rt.handle n p (fun _ => ⟨id, .calm⟩) w.rt).2
      phase := .updating (Prog.advance Rt.handle n p (fun _ => ⟨id, .calm⟩) w.rt).1 }) := by
  induction n generalizing w p with
  | zero => exact hphase ▸ h
  | succ n ih =>
    cases p with
    | ret a => exact hphase ▸ h
    | fail e => exact e.elim
    | call o k => exact ih (h.step (.task (.updateOp .calm hphase)) trivial) rfl

private lemma torServing_fetches : (torServing.any fun t =>
    nextUrl (Prog.advance Rt.handle 4 updateSecurity (fun _ => ⟨id, .calm⟩) t).1 ==
      some "https://check.torproject.org/torbulkexitlist") = true := by
  decide +kernel

/-- The small gateway comes to fetch its list again. -/
theorem Gateway.Reach.confined_tor :
    ∃ w : Watcher, Gateway.Reach torPath (fun _ _ => True) (.running w) ∧
      (∃ k, w.phase =
        .updating (.call (.inl (.get "https://check.torproject.org/torbulkexitlist")) k)) ∧
      w.rt.published.config.updatePermit.Allows
        (.get "https://check.torproject.org/torbulkexitlist") := by
  obtain ⟨t, ht, hfetches⟩ := (Option.any_eq_true _ _).mp torServing_fetches
  obtain ⟨k, hnext⟩ := nextUrl_eq_some (beq_iff_eq.mp hfetches)
  have hfired := (reach_torServing ht).step (.task (.securityTimer rfl)) trivial
  have hfetching := Gateway.Reach.updating 4 hfired rfl
  have hphase := congrArg Phase.updating hnext
  exact ⟨_, hfetching, ⟨k, hphase⟩, hfetching.confined.2.2 rfl hphase⟩

end Tor

end TransferGateway
