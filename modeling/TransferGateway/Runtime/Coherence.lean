import TransferGateway.Runtime.Main

/-!
# Coherence of the published state

Over any run of reloads and update cycles, the published state is the one the latest successful
load returned, up to databases and lists that were opened again with the same configuration, and
the log goes where that configuration says.
-/

namespace TransferGateway

/-- The surroundings of the process. -/
structure World extends Env Choice Sys where
  noAccess : Sys.Private toEnv

/-- Everything may change but what the process keeps to itself. -/
def World.any : World where
  interferes s s' := s'.sink = s.sink ∧ s'.seen = s.seen
  admits _ := True
  noAccess := ⟨And.left, And.right⟩

variable {W : World} {configPath : Path}

lemma keeps_readIn_databases (contents : DatabaseContents) (config : Ip2RegionConfig)
    {α : Type} (p : SysProg α) :
    Prog.Keeps Sys.handle W.toEnv (fun s => contents.ReadIn s.seen config) p := by
  rintro s ⟨h4, h6⟩
  refine Prog.wp_mono (Prog.wp_and (keeps_readAt p _ _ s fun _ => h4)
    (keeps_readAt p _ _ s fun _ => h6)) fun _ _ h => ?_
  exact ⟨h.1 W.noAccess, h.2 W.noAccess⟩

lemma keeps_readIn_lists (contents : ListContents) (config : SecurityConfig)
    {α : Type} (p : SysProg α) :
    Prog.Keeps Sys.handle W.toEnv (fun s => contents.ReadIn s.seen config) p := by
  rintro s ⟨h4, h6, ht, hs⟩
  refine Prog.wp_mono (Prog.wp_and (Prog.wp_and (keeps_readAt p _ _ s fun _ => h4)
    (keeps_readAt p _ _ s fun _ => h6)) (Prog.wp_and (keeps_readAt p _ _ s fun _ => ht)
    (keeps_readAt p _ _ s fun _ => hs))) fun _ _ h => ?_
  exact ⟨h.1.1 W.noAccess, h.1.2 W.noAccess, h.2.1 W.noAccess, h.2.2 W.noAccess⟩

/-! ### Opened states -/

section Runs

variable [Xdb] [StdParse] [StdCase]

/-- The databases and lists of the state were opened with its own configuration, from files the
program has read. -/
structure Opened (state : RuntimeState) (s : Sys) : Prop where
  ip2region : ∃ contents, Ip2Region.assemble contents = some state.ip2region ∧
    contents.ReadIn s.seen state.config.ip2region
  security : ∃ contents, Security.assemble state.config.security contents = .ok state.security ∧
    contents.ReadIn s.seen state.config.security

lemma keeps_opened (state : RuntimeState) {α : Type} (p : SysProg α) :
    Prog.Keeps Sys.handle W.toEnv (Opened state) p := by
  rintro s ⟨⟨c, hc, hread⟩, ⟨c', hc', hread'⟩⟩
  refine Prog.wp_mono (Prog.wp_and (keeps_readIn_databases c _ p s hread)
    (keeps_readIn_lists c' _ p s hread')) fun _ _ h => ?_
  exact ⟨⟨c, hc, h.1⟩, ⟨c', hc', h.2⟩⟩

lemma keeps_opened_sink (state : RuntimeState) (sink : Option Path) {α : Type} {F : Set Path}
    {p : SysProg α} (hp : WritesIn F p) :
    Prog.Keeps Sys.handle W.toEnv (fun s => Opened state s ∧ s.sink = sink) p :=
  fun s hs => Prog.wp_and (keeps_opened state p s hs.1) (hp.keeps_sink W.noAccess sink s hs.2)

lemma stable_opened (state : RuntimeState) (sink : Option Path) :
    Stable W.toEnv fun s => Opened state s ∧ s.sink = sink where
  rely h := fun ⟨⟨hi, hs⟩, hsink⟩ =>
    ⟨⟨W.noAccess.seen h ▸ hi, W.noAccess.seen h ▸ hs⟩, (W.noAccess.sink h).trans hsink⟩
  log h := ⟨⟨h.1.ip2region, h.1.security⟩, h.2⟩

/-- A cycle that publishes what it opened publishes nothing else. -/
lemma wp_cycle {ι δ : Type} {autoUpdate : RuntimeState → Bool}
    {update : RuntimeState → SysProg (Report ι)} {reopen : RuntimeState → SysProg δ}
    {replace : RuntimeState → δ → RuntimeState} {failedKey upToDate updatedKey : String}
    {replacements : ι → List (String × String)} {t : Rt} {F G : Set Path}
    (hupdate : WritesIn F (update t.published)) (hreopen : WritesIn G (reopen t.published))
    (hopened : ∀ s, Opened t.published s → (reopen t.published).wp Sys.handle W.toEnv
      (Prog.onOk fun opened s' => Opened (replace t.published opened) s') s)
    (hreplace : ∀ state opened, (replace state opened).config = state.config ∧
      (replace state opened).language = state.language ∧
      (replace state opened).dns = state.dns)
    (h : Opened t.published t.sys) :
    (updateCycle autoUpdate update reopen replace failedKey upToDate updatedKey replacements).wp
      Rt.handle (Rt.env W.toEnv) (fun r t' => match r with
        | .ok (.applied _) => t'.published.config = t.published.config ∧
            t'.published.language = t.published.language ∧ t'.published.dns = t.published.dns ∧
            Opened t'.published t'.sys ∧ t'.sys.sink = t.sys.sink
        | _ => t'.published = t.published ∧ Opened t.published t'.sys ∧
            t'.sys.sink = t.sys.sink) t := by
  have hstable := stable_opened (W := W) t.published t.sys.sink
  refine Prog.wp_mono (wp_updateCycle (t := t)
    (A := fun opened s => Opened (replace t.published opened) s ∧ s.sink = t.sys.sink)
    hstable hstable (fun opened => stable_opened _ _) ?_ ?_ ⟨h, rfl⟩) fun r t' h' => ?_
  · intro s hs
    apply Prog.wp_mono (keeps_opened_sink _ _ hupdate s hs)
    intro r s' h'
    cases r with
    | error e => exact h'
    | ok report =>
      simp only [ite_self]
      exact h'
  · intro s hs
    refine Prog.wp_mono (Prog.wp_and (hopened s hs.1) (keeps_opened_sink _ _ hreopen s hs))
      fun r s' ⟨hr, hs'⟩ => ?_
    cases r with
    | error e => exact hs'
    | ok opened => exact ⟨hr, hs'.2⟩
  · rcases r with e | result
    · exact e.elim
    · cases result with
      | applied errors =>
        obtain ⟨opened, hpublished, hopened, hsink⟩ := h'
        obtain ⟨hconfig, hlanguage, hdns⟩ := hreplace t.published opened
        rw [hpublished]
        exact ⟨hconfig, hlanguage, hdns, hopened, hsink⟩
      | _ => exact h'

variable [Toml.Parse] [Builtin]

lemma wp_load_opened (config : AppConfig) (configPath : Path) (s : Sys) :
    (RuntimeState.load config configPath).wp Sys.handle W.toEnv (Prog.onOk fun state s' =>
      state.config = config.resolvePaths configPath ∧ Opened state s') s := by
  let c := config.resolvePaths configPath
  refine Prog.wp_onOk_mono (RuntimeState.wp_load config configPath
    (P := fun databases s => ∃ contents, Ip2Region.assemble contents = some databases ∧
      contents.ReadIn s.seen c.ip2region)
    (Q := fun security s => ∃ contents, Security.assemble c.security contents = .ok security ∧
      contents.ReadIn s.seen c.security) ?_ ?_ ?_ ?_ s) ?_
  · exact fun s => Prog.wp_onOk_mono (Ip2Region.wp_open _ s) fun _ _ ⟨contents, h, hread, _⟩ =>
      ⟨contents, h, hread W.noAccess⟩
  · rintro α p databases - s ⟨contents, h, hread⟩
    exact Prog.wp_mono (keeps_readIn_databases _ _ p s hread) fun _ _ h' => ⟨contents, h, h'⟩
  · exact fun s => Prog.wp_onOk_mono (Security.wp_open _ s) fun _ _ ⟨contents, h, hread, _⟩ =>
      ⟨contents, h, hread W.noAccess⟩
  · rintro α p security - s ⟨contents, h, hread⟩
    exact Prog.wp_mono (keeps_readIn_lists _ _ p s hread) fun _ _ h' => ⟨contents, h, h'⟩
  · rintro state s' ⟨hconfig, hi, hs⟩
    exact ⟨hconfig, hconfig ▸ hi, hconfig ▸ hs⟩

/-! ### Runs of jobs -/

variable [UrlParse]

/-- The job can end like this. -/
def Job.Ends (W : World) (configPath : Path) (job : Job) (t : Rt) (result : JobEnd) (t' : Rt) :
    Prop :=
  (job.run configPath).Outcome Rt.handle (Rt.env W.toEnv) t (.ok result) t'

/-- The states the successful loads of a job returned. -/
def JobEnd.loaded : JobEnd → List RuntimeState
  | reload (.applied next) => [next]
  | _                      => []

/-- The runs from the start of the program whose jobs all satisfy `allowed`, with the states their
loads returned, the latest first. -/
inductive Run (W : World) (configPath : Path) (allowed : Rt → Job → JobEnd → Rt → Prop) :
    List RuntimeState → Rt → Prop where
  | start {s s' : Sys} {runtime : RuntimeState}
      (h : (main configPath).Outcome Sys.handle W.toEnv s (.ok (.running runtime)) s') :
      Run W configPath allowed [runtime] ⟨s', runtime⟩
  | idle {loads : List RuntimeState} {t : Rt} {s' : Sys} (ht : Run W configPath allowed loads t)
      (h : W.interferes t.sys s') : Run W configPath allowed loads ⟨s', t.published⟩
  | job {loads : List RuntimeState} {t t' : Rt} {job : Job} {result : JobEnd}
      (ht : Run W configPath allowed loads t) (h : job.Ends W configPath t result t')
      (hallowed : allowed t job result t') :
      Run W configPath allowed (result.loaded ++ loads) t'

/-- The published state is coherent, and the sink is its log file. -/
structure Coherent (configPath : Path) (loads : List RuntimeState) (t : Rt) : Prop where
  loaded : ∃ load ∈ loads.head?, t.published.config = load.config ∧
    t.published.language = load.language ∧ t.published.dns = load.dns
  opened : Opened t.published t.sys
  sink : t.sys.sink = t.published.config.logging.filePath configPath

/-- Where the program starts to serve, the state is coherent. -/
lemma wp_main (s : Sys) :
    (main configPath).wp Sys.handle W.toEnv (Prog.onOk fun started s' => ∀ runtime,
      started = .running runtime → Coherent configPath [runtime] ⟨s', runtime⟩) s := by
  have hstable (runtime : RuntimeState) :=
    stable_opened (W := W) runtime (runtime.config.logging.filePath configPath)
  refine Prog.wp_onOk_mono (wp_main_running (P := fun _ _ => True)
    (L := fun config s => s.sink = config.logging.filePath configPath) hstable hstable
    (Prog.wp_onOk_true _) ?_ ?_ ?_ s) fun started s' hstarted runtime hrunning => ?_
  · intro config s₁ _
    apply Prog.wp_mono (LogController.wp_apply_sink W.noAccess configPath config.logging s₁)
    intro r s₂ h₂
    cases r with
    | error e => trivial
    | ok _ => exact h₂
  · intro config s₁ h₁
    refine Prog.wp_onOk_mono (Prog.wp_onOk_and (wp_load_opened config configPath s₁)
      ((RuntimeState.writesIn_load config configPath).keeps_sink W.noAccess _ s₁ h₁))
      fun runtime s₂ h₂ => ?_
    obtain ⟨⟨hconfig, hopened⟩, hsink⟩ := h₂
    exact ⟨hopened, hconfig ▸ hsink⟩
  · intro runtime s₁ h₁
    exact (ConfigWatcher.keeps_new (hstable runtime).rely
      (fun _ _ h => ⟨⟨h.1.ip2region, h.1.security⟩, h.2⟩) configPath).wp_onOk h₁
  · obtain ⟨hopened, hsink⟩ := hstarted runtime hrunning
    exact ⟨⟨runtime, rfl, rfl, rfl, rfl⟩, hopened, hsink⟩

/-- A reload publishes what it opened, and logs where that says. -/
lemma wp_reload {t : Rt} (h : Opened t.published t.sys) :
    (reloadConfig configPath).wp Rt.handle (Rt.env W.toEnv) (fun r t' => match r with
      | .ok (.applied next) => t'.published = next ∧ Opened next t'.sys ∧
          t'.sys.sink = next.config.logging.filePath configPath
      | _ => t'.published = t.published ∧ Opened t.published t'.sys ∧ t'.sys.sink = t.sys.sink)
      t := by
  have hstable := stable_opened (W := W) t.published t.sys.sink
  have hkeeps : ∀ {α : Type} {F : Set Path} {p : SysProg α}, WritesIn F p → Prog.Keeps Sys.handle
      W.toEnv (fun s => Opened t.published s ∧ s.sink = t.sys.sink) p :=
    fun hp => keeps_opened_sink _ _ hp
  refine Prog.wp_mono (wp_reloadConfig
    (P := fun _ s => Opened t.published s ∧ s.sink = t.sys.sink)
    (N := fun next s => Opened next s ∧ Opened t.published s ∧ s.sink = t.sys.sink)
    hstable (fun next => stable_opened next (next.config.logging.filePath configPath))
    ?_ ?_ ?_ ⟨h, rfl⟩) fun r t' h' => ?_
  · intro s hs
    apply Prog.wp_mono (hkeeps (AppConfig.writesIn_load _) s hs)
    intro r s' h'
    cases r <;> exact h'
  · intro config s hs
    refine Prog.wp_mono (Prog.wp_and (wp_load_opened config configPath s)
      (hkeeps (RuntimeState.writesIn_load config configPath) s hs)) fun r s' h' => ?_
    cases r with
    | error e => exact h'.2
    | ok next => exact ⟨h'.1.2, h'.2⟩
  · rintro next s ⟨hnext, hs⟩
    refine Prog.wp_mono (Prog.wp_and (Prog.wp_and (keeps_opened next _ s hnext)
      (keeps_opened t.published _ s hs.1)) (LogController.wp_apply_sink W.noAccess configPath
        next.config.logging s)) fun r s' h' => ?_
    obtain ⟨⟨hn, ho⟩, hsink⟩ := h'
    cases r with
    | error e => exact ⟨ho, hsink.trans hs.2⟩
    | ok _ => exact ⟨hn, hsink⟩
  · rcases r with e | result
    · exact e.elim
    · cases result <;> exact h'

/-- What a job does to the published state and the sink: one that is not applied leaves both as
they are. -/
lemma wp_job (job : Job) {t : Rt} (h : Opened t.published t.sys) :
    (job.run configPath).wp Rt.handle (Rt.env W.toEnv) (fun r t' => match r with
      | .ok (.reload (.applied next)) => t'.published = next ∧ Opened next t'.sys ∧
          t'.sys.sink = next.config.logging.filePath configPath
      | .ok (.cycle (.applied _)) => t'.published.config = t.published.config ∧
          t'.published.language = t.published.language ∧ t'.published.dns = t.published.dns ∧
          Opened t'.published t'.sys ∧ t'.sys.sink = t.sys.sink
      | _ => t'.published = t.published ∧ Opened t.published t'.sys ∧ t'.sys.sink = t.sys.sink)
      t := by
  cases job with
  | reload =>
    refine Prog.wp_seq (wp_reload h) (fun result t' h' => ?_) nofun
    cases result <;> exact h'
  | updateIp2region =>
    refine Prog.wp_seq (wp_cycle (Ip2Region.writesIn_update _) (Ip2Region.writesIn_open _)
      (fun s hs => ?_) (fun _ _ => ⟨rfl, rfl, rfl⟩) h) (fun result t' h' => ?_) nofun
    · exact Prog.wp_onOk_mono (Prog.wp_onOk_and (Ip2Region.wp_open _ s) (keeps_opened _ _ s hs))
        fun databases s' ⟨⟨contents, hcontents, hread, _⟩, hs'⟩ =>
          ⟨⟨contents, hcontents, hread W.noAccess⟩, hs'.security⟩
    · cases result <;> exact h'
  | updateSecurity =>
    refine Prog.wp_seq (wp_cycle (Security.writesIn_update _) (Security.writesIn_open _)
      (fun s hs => ?_) (fun _ _ => ⟨rfl, rfl, rfl⟩) h) (fun result t' h' => ?_) nofun
    · exact Prog.wp_onOk_mono (Prog.wp_onOk_and (Security.wp_open _ s) (keeps_opened _ _ s hs))
        fun security s' ⟨⟨contents, hcontents, hread, _⟩, hs'⟩ =>
          ⟨hs'.ip2region, ⟨contents, hcontents, hread W.noAccess⟩⟩
    · cases result <;> exact h'

/-- Every state of a run is coherent. -/
lemma Run.coherent {allowed : Rt → Job → JobEnd → Rt → Prop} {loads : List RuntimeState} {t : Rt}
    (h : Run W configPath allowed loads t) : Coherent configPath loads t := by
  induction h with
  | start h => exact Prog.wp_iff_outcome.mp (wp_main _) _ _ h _ rfl
  | idle _ h ih =>
    have hs := (stable_opened (W := W) _ _).rely h ⟨ih.opened, ih.sink⟩
    exact ⟨ih.loaded, hs.1, hs.2⟩
  | @job loads t t' job result _ h _ ih =>
    have h' := Prog.wp_iff_outcome.mp (wp_job job ih.opened) _ _ h
    obtain ⟨load, hload, hconfig, hlanguage, hdns⟩ := ih.loaded
    rcases result with result | result
    · cases result with
      | applied next =>
        obtain ⟨rfl, hopened, hsink⟩ := h'
        exact ⟨⟨_, rfl, rfl, rfl, rfl⟩, hopened, hsink⟩
      | _ =>
        obtain ⟨hpublished, hopened, hsink⟩ := h'
        exact ⟨⟨load, hload, hpublished ▸ hconfig, hpublished ▸ hlanguage, hpublished ▸ hdns⟩,
          hpublished ▸ hopened, hpublished ▸ hsink.trans ih.sink⟩
    · cases result with
      | applied errors =>
        obtain ⟨hc, hl, hd, hopened, hsink⟩ := h'
        exact ⟨⟨load, hload, hc.trans hconfig, hl.trans hlanguage, hd.trans hdns⟩, hopened,
          hc ▸ hsink.trans ih.sink⟩
      | _ =>
        obtain ⟨hpublished, hopened, hsink⟩ := h'
        exact ⟨⟨load, hload, hpublished ▸ hconfig, hpublished ▸ hlanguage, hpublished ▸ hdns⟩,
          hpublished ▸ hopened, hpublished ▸ hsink.trans ih.sink⟩

/-- In every state of a run what is published is coherent, and a job that is not applied leaves it
and the sink alone. -/
theorem Run.coherent_and_atomic {loads : List RuntimeState} {t : Rt}
    (h : Run W configPath (fun _ _ _ _ => True) loads t) :
    Coherent configPath loads t ∧
      ∀ (job : Job) (result : JobEnd) (t' : Rt), job.Ends W configPath t result t' →
        result.isApplied = false → t'.published = t.published ∧ t'.sys.sink = t.sys.sink := by
  refine ⟨h.coherent, fun job result t' hends hresult => ?_⟩
  have h' := Prog.wp_iff_outcome.mp (wp_job job h.coherent.opened) _ _ hends
  rcases result with result | result
  · cases result with
    | applied next => exact absurd hresult (by simp [JobEnd.isApplied])
    | _ => exact ⟨h'.1, h'.2.2⟩
  · cases result with
    | applied errors => exact absurd hresult (by simp [JobEnd.isApplied])
    | _ => exact ⟨h'.1, h'.2.2⟩

end Runs

section Tor

attribute [local instance] noXdb dottedParse asciiCase torParse noBuiltin httpsUrl

/-- The small gateway starts; a reload that cannot read the configuration leaves it alone. -/
theorem Run.coherent_and_atomic_tor :
    ∃ loads t t', Run World.any torPath (fun _ _ _ _ => True) loads t ∧
      Coherent torPath loads t ∧
      Job.Ends World.any torPath .reload t (.reload .configFailed) t' ∧
      t'.published = t.published ∧ t'.sys.sink = t.sys.sink := by
  let still : ℕ → Prog.Move Choice Sys := fun _ => ⟨id, .calm⟩
  have hmain := Prog.outcome_run (h := Sys.handle) (E := World.any.toEnv) (main torPath) (m := still)
    (fun _ => ⟨fun _ => ⟨rfl, rfl⟩, trivial⟩) torGateway
  obtain ⟨runtime, hruntime, -, -⟩ := torGateway_starts
  rw [hruntime] at hmain
  generalize ((main torPath).run Sys.handle still torGateway).2 = s at hmain
  have hrun : Run World.any torPath (fun _ _ _ _ => True) _ _ := Run.start hmain
  -- the configuration file cannot be read
  have hreload : Job.Ends World.any torPath .reload ⟨s, runtime⟩ (.reload .configFailed) _ :=
    Prog.outcome_run (h := Rt.handle) (E := Rt.env World.any.toEnv) (Job.reload.run torPath)
      (m := fun _ => ⟨id, { Choice.calm with fault := some notFound }⟩)
      (fun _ => ⟨fun _ => ⟨⟨rfl, rfl⟩, rfl⟩, trivial⟩) ⟨s, runtime⟩
  obtain ⟨hcoherent, hatomic⟩ := Run.coherent_and_atomic hrun
  exact ⟨_, _, _, hrun, hcoherent, hreload, hatomic _ _ _ hreload rfl⟩

end Tor

end TransferGateway
