import TransferGateway.Runtime.Coherence

/-!
# Freshness of the published data

The published databases and lists are those on the disk, as long as no job leaves between writing
a file and publishing what it holds: an update cycle that cannot open what it replaced, or a reload
that fails after it downloaded a file the published configuration names. The next cycle compares
its downloads with the disk, finds nothing to do, and what is published stays as it was.
-/

namespace TransferGateway

/-! ### Files of a configuration -/

/-- The files of the databases and lists. -/
def AppConfig.dataPaths (config : AppConfig) : Set Path :=
  config.ip2region.databasePaths ∪ config.security.listPaths

/-- The data files of the configuration are the gateway's own: nobody else writes them, an
existence check sees them, and no other file of the gateway has their names. -/
structure Separate (W : World) (configPath : Path) (config : AppConfig) : Prop where
  steady : ∀ q ∈ config.dataPaths, Sys.Steady W.toEnv q
  temporary : ∀ q ∈ config.dataPaths, q ∉ temporaries Security.temporaryPath ∧
    q ∉ temporaries Ip2Region.temporaryPath
  disjoint : ∀ q ∈ config.ip2region.databasePaths, q ∉ config.security.listPaths
  log : ∀ q ∈ config.dataPaths, q ∉ config.logging.filePath configPath

lemma DatabaseContents.on_congr {f g : Path → Option (List UInt8)} {config : Ip2RegionConfig}
    (h : ∀ q ∈ config.databasePaths, f q = g q) : on f config = on g config := by
  rw [on, on]
  congr 1 <;> refine Option.bind_congr fun q hq => h q ?_
  · exact .inl hq
  · exact .inr hq

lemma ListContents.on_congr {f g : Path → Option (List UInt8)} {config : SecurityConfig}
    (h : ∀ q ∈ config.listPaths, f q = g q) : on f config = on g config := by
  rw [on, on]
  congr 1 <;> refine Option.bind_congr fun q hq => h q ?_
  · exact .inl hq
  · exact .inr (.inl hq)
  · exact .inr (.inr (.inl hq))
  · exact .inr (.inr (.inr hq))

variable {W : World} {configPath : Path}

lemma Separate.database_not_writable {config : AppConfig} (h : Separate W configPath config)
    {q : Path} (hq : q ∈ config.ip2region.databasePaths) :
    q ∉ Security.writable config.security := by
  rintro (hlist | htemporary)
  · exact h.disjoint q hq hlist
  · exact (h.temporary q (.inl hq)).1 htemporary

lemma Separate.list_not_writable {config : AppConfig} (h : Separate W configPath config)
    {q : Path} (hq : q ∈ config.security.listPaths) :
    q ∉ Ip2Region.writable config.ip2region := by
  rintro (hdatabase | htemporary)
  · exact h.disjoint q hdatabase hq
  · exact (h.temporary q (.inr hq)).2 htemporary

/-- The others and programs that write none of the databases leave their contents alone. -/
lemma databases_congr [Xdb] {config : AppConfig} (hsep : Separate W configPath config)
    {f g : Path → Option (List UInt8)}
    (hfg : ∀ q ∈ config.ip2region.databasePaths, Sys.Steady W.toEnv q → f q = g q)
    {databases : Ip2Region} (h : Ip2Region.assemble (.on g config.ip2region) = some databases) :
    Ip2Region.assemble (.on f config.ip2region) = some databases := by
  rw [DatabaseContents.on_congr fun q hq => hfg q hq (hsep.steady q (.inl hq))]
  exact h

lemma lists_congr [StdParse] [StdCase] {config : AppConfig} (hsep : Separate W configPath config)
    {f g : Path → Option (List UInt8)}
    (hfg : ∀ q ∈ config.security.listPaths, Sys.Steady W.toEnv q → f q = g q)
    {security : Security}
    (h : Security.assemble config.security (.on g config.security) = .ok security) :
    Security.assemble config.security (.on f config.security) = .ok security := by
  rw [ListContents.on_congr fun q hq => hfg q hq (hsep.steady q (.inr hq))]
  exact h

section Fresh

variable [Xdb] [StdParse] [StdCase]

/-- The databases and lists of the state are what its files open to. -/
structure Fresh (state : RuntimeState) (files : Path → Option (List UInt8)) : Prop where
  ip2region : Ip2Region.assemble (.on files state.config.ip2region) = some state.ip2region
  security : Security.assemble state.config.security (.on files state.config.security) =
    .ok state.security

lemma Fresh.congr {state : RuntimeState} {f g : Path → Option (List UInt8)} (h : Fresh state f)
    (hfg : ∀ q ∈ state.config.dataPaths, g q = f q) : Fresh state g := by
  refine ⟨?_, ?_⟩
  · rw [DatabaseContents.on_congr fun q hq => hfg q (.inl hq)]
    exact h.ip2region
  · rw [ListContents.on_congr fun q hq => hfg q (.inr hq)]
    exact h.security

/-- What leaves the data files alone keeps a state fresh. -/
lemma keeps_fresh {state : RuntimeState} (hsep : Separate W configPath state.config) {α : Type}
    {F : Set Path} {p : SysProg α} (hp : WritesIn F p) (hF : ∀ q ∈ state.config.dataPaths, q ∉ F) :
    Prog.Keeps Sys.handle W.toEnv (fun s => Fresh state s.files) p := by
  intro s hs
  refine Prog.wp_mono (wp_frame hp s) fun _ s' h => hs.congr fun q hq => ?_
  exact h q (hF q hq) (hsep.steady q hq)

lemma stable_fresh {state : RuntimeState} (hsep : Separate W configPath state.config) :
    Stable W.toEnv fun s => Fresh state s.files where
  rely h hs := hs.congr fun q hq => (hsep.steady q hq).files h
  log h := h

lemma stable_fresh_of_separate (configPath : Path) (state : RuntimeState) :
    Stable W.toEnv fun s => Separate W configPath state.config → Fresh state s.files where
  rely h hs hsep := (stable_fresh hsep).rely h (hs hsep)
  log h := h

/-! ### Update cycles -/

/-- A cycle keeps the state fresh, unless it cannot open what it replaced: `C` says what it leaves
alone, and `D` what it opens. -/
lemma wp_updateCycle_fresh {ι δ : Type} {autoUpdate : RuntimeState → Bool}
    {update : RuntimeState → SysProg (Report ι)} {reopen : RuntimeState → SysProg δ}
    {replace : RuntimeState → δ → RuntimeState} {failedKey upToDate updatedKey : String}
    {replacements : ι → List (String × String)} {C : Sys → Prop} {D : δ → Sys → Prop} {t : Rt}
    (hsep : Separate W configPath t.published.config) (hC : Stable W.toEnv C)
    (hD : ∀ opened, Stable W.toEnv (D opened))
    (hupdate : ∀ s, (update t.published).wp Sys.handle W.toEnv (fun r s' =>
      (∀ report, r = .ok report → report.done = []) →
        ∀ q ∈ t.published.config.dataPaths, s'.files q = s.files q) s)
    (hupdateC : Prog.Keeps Sys.handle W.toEnv C (update t.published))
    (hopen : ∀ s, (reopen t.published).wp Sys.handle W.toEnv (Prog.onOk D) s)
    (hopenC : Prog.Keeps Sys.handle W.toEnv C (reopen t.published))
    (hfreshC : ∀ s, Fresh t.published s.files → C s)
    (hreplace : ∀ opened s, C s → D opened s → Fresh (replace t.published opened) s.files)
    (h : Fresh t.published t.sys.files) :
    (updateCycle autoUpdate update reopen replace failedKey upToDate updatedKey replacements).wp
      Rt.handle (Rt.env W.toEnv) (fun r t' =>
        r ≠ .ok .openFailed → Fresh t'.published t'.sys.files) t := by
  refine Prog.wp_mono (wp_updateCycle (A := fun opened s => C s ∧ D opened s) (C := C)
    (stable_fresh hsep) hC (fun opened => ⟨fun h hs => ⟨hC.rely h hs.1, (hD opened).rely h hs.2⟩,
      fun hs => ⟨hC.log hs.1, (hD opened).log hs.2⟩⟩) ?_ ?_ h) ?_
  · intro s hs
    apply Prog.wp_mono (Prog.wp_and (hupdate s) (hupdateC s (hfreshC s hs)))
    intro r s' hr
    obtain ⟨hnone, hs'⟩ := hr
    cases r with
    | error e => exact hs.congr (hnone fun _ => nofun)
    | ok report =>
      dsimp only
      split_ifs with hdone
      · refine hs.congr (hnone fun report' hreport => ?_)
        cases hreport
        exact hdone
      · exact hs'
  · intro s hs
    apply Prog.wp_mono (Prog.wp_and (hopen s) (hopenC s hs))
    intro r s' hr
    cases r with
    | error e => exact hr.2
    | ok opened => exact ⟨hr.2, hr.1⟩
  · rintro (e | result) t' ht' hresult
    · exact e.elim
    · cases result with
      | openFailed => exact absurd rfl hresult
      | applied errors =>
        obtain ⟨opened, hpublished, hs, hopened⟩ := ht'
        rw [hpublished]
        exact hreplace opened _ hs hopened
      | _ => exact ht'.1 ▸ ht'.2

/-- The cycle over the lists leaves the databases alone. -/
lemma wp_updateSecurity_fresh {t : Rt} (hsep : Separate W configPath t.published.config)
    (h : Fresh t.published t.sys.files) :
    updateSecurity.wp Rt.handle (Rt.env W.toEnv) (fun r t' =>
      r ≠ .ok .openFailed → Fresh t'.published t'.sys.files) t := by
  let config := t.published.config
  refine wp_updateCycle_fresh (C := fun s =>
      Ip2Region.assemble (.on s.files config.ip2region) = some t.published.ip2region)
    (D := fun security s =>
      Security.assemble config.security (.on s.files config.security) = .ok security)
    hsep ⟨fun h => databases_congr hsep fun q _ hq => hq.files h, id⟩
    (fun _ => ⟨fun h => lists_congr hsep fun q _ hq => hq.files h, id⟩) (fun s => ?_)
    (fun s hs => ?_) (fun s => ?_) (fun s hs => ?_) (fun _ hs => hs.ip2region)
    (fun _ _ hi hs => ⟨hi, hs⟩) h
  · apply Prog.wp_mono (Security.wp_update _ s)
    intro r s' hnone hdone q hq
    exact hnone hdone q (hsep.temporary q hq).1 (hsep.steady q hq)
  · apply Prog.wp_mono (wp_frame (Security.writesIn_update _) s)
    intro r s' hframe
    exact databases_congr hsep (fun q hq => hframe q (hsep.database_not_writable hq)) hs
  · apply Prog.wp_onOk_mono (Security.wp_open _ s)
    intro security s' hopen
    obtain ⟨contents, hcontents, -, hdisk⟩ := hopen
    exact hdisk (fun q hq => hsep.steady q (.inr hq)) ▸ hcontents
  · apply Prog.wp_mono (wp_frame (Security.writesIn_open _) s)
    intro r s' hframe
    exact databases_congr hsep (fun q _ => hframe q (by simp)) hs

/-- And the cycle over the databases the lists. -/
lemma wp_updateIp2region_fresh {t : Rt} (hsep : Separate W configPath t.published.config)
    (h : Fresh t.published t.sys.files) :
    updateIp2region.wp Rt.handle (Rt.env W.toEnv) (fun r t' =>
      r ≠ .ok .openFailed → Fresh t'.published t'.sys.files) t := by
  let config := t.published.config
  refine wp_updateCycle_fresh (C := fun s =>
      Security.assemble config.security (.on s.files config.security) = .ok t.published.security)
    (D := fun databases s =>
      Ip2Region.assemble (.on s.files config.ip2region) = some databases)
    hsep ⟨fun h => lists_congr hsep fun q _ hq => hq.files h, id⟩
    (fun _ => ⟨fun h => databases_congr hsep fun q _ hq => hq.files h, id⟩) (fun s => ?_)
    (fun s hs => ?_) (fun s => ?_) (fun s hs => ?_) (fun _ hs => hs.security)
    (fun _ _ hs hi => ⟨hi, hs⟩) h
  · apply Prog.wp_mono (Ip2Region.wp_update _ s)
    intro r s' hnone hdone q hq
    exact hnone hdone q (hsep.temporary q hq).2 (hsep.steady q hq)
  · apply Prog.wp_mono (wp_frame (Ip2Region.writesIn_update _) s)
    intro r s' hframe
    exact lists_congr hsep (fun q hq => hframe q (hsep.list_not_writable hq)) hs
  · apply Prog.wp_onOk_mono (Ip2Region.wp_open _ s)
    intro databases s' hopen
    obtain ⟨contents, hcontents, -, hdisk⟩ := hopen
    exact hdisk (fun q hq => hsep.steady q (.inl hq)) ▸ hcontents
  · apply Prog.wp_mono (wp_frame (Ip2Region.writesIn_open _) s)
    intro r s' hframe
    exact lists_congr hsep (fun q _ => hframe q (by simp)) hs

end Fresh

/-! ### Loading -/

section Load

variable [Xdb] [StdParse] [StdCase] [Toml.Parse] [Builtin]

/-- A loaded state is fresh. -/
lemma wp_load_fresh (config : AppConfig) (configPath : Path) (s : Sys) :
    (RuntimeState.load config configPath).wp Sys.handle W.toEnv (Prog.onOk fun state s' =>
      state.config = config.resolvePaths configPath ∧
        (Separate W configPath state.config → Fresh state s'.files)) s := by
  let c := config.resolvePaths configPath
  refine Prog.wp_onOk_mono (RuntimeState.wp_load config configPath
    (P := fun databases s => Separate W configPath c →
      Ip2Region.assemble (.on s.files c.ip2region) = some databases)
    (Q := fun security s => Separate W configPath c →
      Security.assemble c.security (.on s.files c.security) = .ok security) ?_ ?_ ?_ ?_ s) ?_
  · refine fun s => Prog.wp_onOk_mono (Ip2Region.wp_open _ s) ?_
    rintro databases s' ⟨contents, h, -, hdisk⟩ hsep
    exact hdisk (fun q hq => hsep.steady q (.inl hq)) ▸ h
  · intro α p databases hp s hs
    apply Prog.wp_mono (wp_frame hp s)
    intro _ s' hframe hsep
    rw [DatabaseContents.on_congr (g := s.files)]
    · exact hs hsep
    · exact fun q hq => hframe q (hsep.database_not_writable hq) (hsep.steady q (.inl hq))
  · refine fun s => Prog.wp_onOk_mono (Security.wp_open _ s) ?_
    rintro security s' ⟨contents, h, -, hdisk⟩ hsep
    exact hdisk (fun q hq => hsep.steady q (.inr hq)) ▸ h
  · intro α p security hp s hs
    apply Prog.wp_mono (wp_frame hp s)
    intro _ s' hframe hsep
    rw [ListContents.on_congr (g := s.files)]
    · exact hs hsep
    · exact fun q hq => hframe q (by simp) (hsep.steady q (.inr hq))
  · rintro state s' ⟨hconfig, hi, hs⟩
    refine ⟨hconfig, fun hsep => ?_⟩
    rw [hconfig] at hsep
    exact ⟨hconfig ▸ hi hsep, hconfig ▸ hs hsep⟩

end Load

/-! ### The jobs -/

section Jobs

variable [Xdb] [StdParse] [StdCase] [Toml.Parse] [Builtin] [UrlParse]

/-- Where the program starts to serve, the published state is fresh. -/
lemma wp_main_fresh (s : Sys) :
    (main configPath).wp Sys.handle W.toEnv (Prog.onOk fun started s' => ∀ runtime,
      started = .running runtime → Separate W configPath runtime.config →
        Fresh runtime s'.files) s := by
  apply wp_main_running (P := fun _ _ => True) (L := fun _ _ => True)
    (stable_fresh_of_separate configPath) (stable_fresh_of_separate configPath)
    (Prog.wp_onOk_true _)
  · intro config s₁ _
    exact Prog.wp_onOk_true _ s₁
  · intro config s₁ _
    exact Prog.wp_onOk_mono (wp_load_fresh config configPath s₁) fun _ _ h => h.2
  · intro runtime s₁ h₁
    exact (ConfigWatcher.keeps_new (stable_fresh_of_separate configPath runtime).rely
      (fun _ _ h => h) configPath).wp_onOk h₁

/-- A reload publishes a fresh state. -/
lemma wp_reload_fresh (t : Rt) :
    (reloadConfig configPath).wp Rt.handle (Rt.env W.toEnv) (fun r t' => ∀ next,
      r = .ok (.applied next) → t'.published = next ∧
        (Separate W configPath next.config → Fresh next t'.sys.files)) t := by
  have htrue : Stable W.toEnv fun _ => True := ⟨fun _ _ => trivial, fun _ => trivial⟩
  refine Prog.wp_mono (wp_reloadConfig (P := fun _ _ => True) (B := fun _ => True)
    (N := fun next s => Separate W configPath next.config → Fresh next s.files)
    htrue (stable_fresh_of_separate configPath) ?_ ?_ ?_ trivial) ?_
  · exact fun s _ => Prog.wp_always (fun r _ => by cases r <;> trivial) _ s
  · intro config s _
    apply Prog.wp_mono (wp_load_fresh config configPath s)
    intro r s' h
    cases r with
    | ok next => exact h.2
    | error e => trivial
  · intro next s hs
    by_cases hsep : Separate W configPath next.config
    · refine Prog.wp_mono (LogController.apply_files (stable_fresh hsep).rely (fun _ _ h => h)
        configPath next.config.logging (keeps_fresh hsep (LogController.writesIn_openConfigured _)
        hsep.log) s (hs hsep)) fun r s' h => ?_
      cases r with
      | ok _ => exact fun _ => h
      | error e => trivial
    · refine Prog.wp_always (fun r _ => ?_) _ s
      cases r with
      | ok _ => exact fun h => absurd h hsep
      | error e => trivial
  · rintro _ t' h next rfl
    exact h

/-- A reload that is not applied publishes nothing. -/
lemma unpublished_of_failed {t t' : Rt} {result : ReloadEnd}
    (h : (reloadConfig configPath).Outcome Rt.handle (Rt.env W.toEnv) t (.ok result) t')
    (hresult : ∀ next, result ≠ .applied next) : t'.published = t.published := by
  have htrue : Stable W.toEnv fun _ => True := ⟨fun _ _ => trivial, fun _ => trivial⟩
  have h' := Prog.wp_iff_outcome.mp (wp_reloadConfig (P := fun _ _ => True) (B := fun _ => True)
    (N := fun _ _ => True) (A := fun _ _ => True) htrue (fun _ => htrue)
    (fun s _ => Prog.wp_always (fun r _ => by cases r <;> trivial) _ s)
    (fun _ s _ => Prog.wp_always (fun r _ => by cases r <;> trivial) _ s)
    (fun _ s _ => Prog.wp_always (fun r _ => by cases r <;> trivial) _ s) trivial) _ _ h
  cases result with
  | applied next => exact absurd rfl (hresult next)
  | _ => exact h'.1

/-- A reload that is not applied leaves the data files that are there alone. -/
lemma wp_reload_keeps {q : Path} {bytes : List UInt8} (hq : Sys.Steady W.toEnv q)
    (htemporary : q ∉ temporaries Security.temporaryPath ∧
      q ∉ temporaries Ip2Region.temporaryPath) (t : Rt) (ht : t.sys.files q = some bytes) :
    (reloadConfig configPath).wp Rt.handle (Rt.env W.toEnv) (fun _ t' =>
      t'.sys.files q = some bytes) t := by
  have hstable : Stable W.toEnv fun s => s.files q = some bytes :=
    ⟨fun h hs => (hq.files h).trans hs, fun h => h⟩
  refine Prog.wp_mono (wp_reloadConfig (P := fun _ s => s.files q = some bytes)
    (N := fun _ s => s.files q = some bytes) hstable (fun _ => hstable) ?_ ?_ ?_ ht) ?_
  · intro s hs
    apply Prog.wp_mono ((AppConfig.writesIn_load _).keeps (by simp) hq _ s hs)
    intro r _ h
    cases r <;> exact h
  · intro config s hs
    refine Prog.wp_mono (RuntimeState.keeps_load config configPath hq
      (fun path _ uuid h => htemporary.2 ⟨path, uuid, h⟩)
      (fun path _ uuid h => htemporary.1 ⟨path, uuid, h⟩) s hs) fun r _ h => ?_
    cases r <;> exact h
  · intro next s hs
    refine Prog.wp_mono (LogController.apply_files hstable.rely (fun _ _ h => h) configPath
      next.config.logging (LogController.keeps_openConfigured hq _) s hs) fun r _ h => ?_
    cases r <;> exact h
  · rintro (e | result) t' h
    · exact e.elim
    · cases result <;> exact h.2

/-- A reload that failed without creating a data file of the published state leaves it fresh. -/
lemma Fresh.congr_of_failed {t t' : Rt} {result : ReloadEnd} (hfresh : Fresh t.published t.sys.files)
    (hsep : Separate W configPath t.published.config)
    (h : (reloadConfig configPath).Outcome Rt.handle (Rt.env W.toEnv) t (.ok result) t')
    (hpublished : t'.published = t.published)
    (hcreated : ∀ q ∈ t.published.config.dataPaths,
      t.sys.files q = none → t'.sys.files q = none) :
    Fresh t'.published t'.sys.files := by
  rw [hpublished]
  apply hfresh.congr
  intro q hq
  cases hfile : t.sys.files q with
  | none => exact hcreated q hq hfile
  | some bytes =>
    exact Prog.wp_iff_outcome.mp
      (wp_reload_keeps (hsep.steady q hq) (hsep.temporary q hq) t hfile) _ _ h

/-- The job leaves no gap between a file and what is published of it: a cycle opens what it
replaced, and a reload that is not applied has created no data file of the published
configuration. -/
def LeavesNoGap (t : Rt) (_ : Job) (result : JobEnd) (t' : Rt) : Prop :=
  match result with
  | .cycle .openFailed    => False
  | .cycle _              => True
  | .reload (.applied _)  => True
  | .reload _             => ∀ q ∈ t.published.config.dataPaths,
      t.sys.files q = none → t'.sys.files q = none

/-- In every run without such a gap, what is published is what is on the disk. -/
theorem Run.fresh {loads : List RuntimeState} {t : Rt}
    (h : Run W configPath LeavesNoGap loads t)
    (hloads : ∀ load ∈ loads, Separate W configPath load.config) :
    Fresh t.published t.sys.files := by
  induction h with
  | start h =>
    exact Prog.wp_iff_outcome.mp (wp_main_fresh _) _ _ h _ rfl (hloads _ List.mem_cons_self)
  | @idle loads t s' ht h ih =>
    obtain ⟨load, hload, hconfig, -⟩ := ht.coherent.loaded
    have hsep := hloads load (List.mem_of_mem_head? hload)
    exact (stable_fresh (hconfig ▸ hsep)).rely h (ih hloads)
  | @job loads t t' job result ht h hgap ih =>
    have hbefore := ih fun load hload => hloads load (List.mem_append_right _ hload)
    obtain ⟨load, hload, hconfig, -⟩ := ht.coherent.loaded
    have hsep : Separate W configPath t.published.config := by
      rw [hconfig]
      exact hloads load (List.mem_append_right _ (List.mem_of_mem_head? hload))
    cases job with
    | reload =>
      obtain ⟨result, rfl, hout⟩ := Prog.outcome_map.mp h
      cases result with
      | applied next =>
        obtain ⟨rfl, hfresh⟩ := Prog.wp_iff_outcome.mp (wp_reload_fresh t) _ _ hout _ rfl
        exact hfresh (hloads _ List.mem_cons_self)
      | _ => exact hbefore.congr_of_failed hsep hout (unpublished_of_failed hout (by simp)) hgap
    | updateIp2region =>
      obtain ⟨result, rfl, hout⟩ := Prog.outcome_map.mp h
      apply Prog.wp_iff_outcome.mp (wp_updateIp2region_fresh hsep hbefore) _ _ hout
      rintro ⟨⟩
      exact hgap
    | updateSecurity =>
      obtain ⟨result, rfl, hout⟩ := Prog.outcome_map.mp h
      apply Prog.wp_iff_outcome.mp (wp_updateSecurity_fresh hsep hbefore) _ _ hout
      rintro ⟨⟩
      exact hgap

end Jobs

/-! ### A list that stays stale -/

/-- The file name starts with a dot, as those of temporary files do. -/
def Path.isHidden (p : Path) : Bool :=
  p.components.getLast?.any fun name => name.toList.head? == some '.'

lemma isHidden_of_mem_temporaries {q : Path} (h : q ∈ temporaries Security.temporaryPath ∨
    q ∈ temporaries Ip2Region.temporaryPath) : q.isHidden = true := by
  have hhidden : ∀ (p : Path) (name : String), name ≠ "." → name.toList.head? = some '.' →
      (p.withFileName name).isHidden = true := by
    intro p name hne hhead
    simp [Path.isHidden, getLast?_withFileName p hne, hhead]
  have hdot : (toString ".").toList.head? = some '.' ∧ (toString ".").length = 1 ∧
      ".".length = 1 := by decide
  rcases h with ⟨p, uuid, rfl⟩ | ⟨p, uuid, rfl⟩
  all_goals
    refine hhidden _ _ (fun heq => ?_) (by simp [hdot.1])
    have hlength := congrArg String.length heq
    simp only [String.length_append, hdot.2.1, hdot.2.2] at hlength
    omega

def Ip2RegionConfig.databaseFiles (config : Ip2RegionConfig) : List Path :=
  [config.v4Db, config.v6Db].filterMap configuredPath

def SecurityConfig.listFiles (config : SecurityConfig) : List Path :=
  [config.vpnIpv4List, config.vpnIpv6List, config.torExitList, config.spamList].filterMap
    configuredPath

/-- Nobody else changes anything, and existence checks see what is there. -/
def World.still : World where
  interferes s s' := s' = s
  admits c := c.hidden = false
  noAccess := ⟨fun h => h ▸ rfl, fun h => h ▸ rfl⟩

/-- The data files are not hidden, are not the log, and no database is a list. -/
def AppConfig.isSeparate (config : AppConfig) (configPath : Path) : Bool :=
  (config.ip2region.databaseFiles ++ config.security.listFiles).all (fun q =>
    !q.isHidden && some q != config.logging.filePath configPath) &&
  config.ip2region.databaseFiles.all fun q => !config.security.listFiles.contains q

lemma separate_of_isSeparate {config : AppConfig} {configPath : Path}
    (h : config.isSeparate configPath = true) : Separate World.still configPath config := by
  have hdatabase : ∀ q ∈ config.ip2region.databasePaths, q ∈ config.ip2region.databaseFiles := by
    rintro q (hq | hq)
    · exact List.mem_filterMap.mpr ⟨_, by simp, hq⟩
    · exact List.mem_filterMap.mpr ⟨_, by simp, hq⟩
  have hlist : ∀ q ∈ config.security.listPaths, q ∈ config.security.listFiles := by
    rintro q (hq | hq | hq | hq)
    · exact List.mem_filterMap.mpr ⟨_, by simp, hq⟩
    · exact List.mem_filterMap.mpr ⟨_, by simp, hq⟩
    · exact List.mem_filterMap.mpr ⟨_, by simp, hq⟩
    · exact List.mem_filterMap.mpr ⟨_, by simp, hq⟩
  have hdata : ∀ q ∈ config.dataPaths,
      q ∈ config.ip2region.databaseFiles ++ config.security.listFiles := by
    rintro q (hq | hq)
    · exact List.mem_append_left _ (hdatabase q hq)
    · exact List.mem_append_right _ (hlist q hq)
  simp only [AppConfig.isSeparate, Bool.and_eq_true, List.all_eq_true, Bool.not_eq_true',
    bne_iff_ne, ne_eq] at h
  obtain ⟨hall, hdisjoint⟩ := h
  refine ⟨fun q _ => ⟨fun h => h ▸ rfl, fun h => h⟩, fun q hq => ?_, fun q hq hq' => ?_,
    fun q hq hlog => (hall q (hdata q hq)).2 hlog.symm⟩
  · have hnot := (hall q (hdata q hq)).1
    refine ⟨fun hmem => ?_, fun hmem => ?_⟩
    · rw [isHidden_of_mem_temporaries (.inl hmem)] at hnot
      cases hnot
    · rw [isHidden_of_mem_temporaries (.inr hmem)] at hnot
      cases hnot
  · have := hdisjoint q (hdatabase q hq)
    rw [List.contains_iff_mem.mpr (hlist q hq')] at this
    cases this

section Tor

attribute [local instance] noXdb dottedParse asciiCase torParse noBuiltin httpsUrl

/-- The small gateway when it starts to serve. -/
def torServing : Option Rt :=
  match (main torPath).run Sys.handle (fun _ => ⟨id, .calm⟩) torGateway with
  | (.ok (.running runtime), s) => some ⟨s, runtime⟩
  | _ => none

lemma run_torServing {t : Rt} (h : torServing = some t)
    (allowed : Rt → Job → JobEnd → Rt → Prop) :
    Run World.still torPath allowed [t.published] t := by
  have hmain := Prog.outcome_run (h := Sys.handle) (E := World.still.toEnv) (main torPath)
    (m := fun _ => ⟨id, .calm⟩) (fun _ => ⟨fun _ => rfl, rfl⟩) torGateway
  unfold torServing at h
  split at h
  · rename_i runtime s hrun
    obtain rfl := Option.some.inj h
    rw [hrun] at hmain
    exact .start hmain
  · cases h

/-- The download is one other address; the operation at `n` fails. -/
def torMoves (n : ℕ) : ℕ → Prog.Move Choice Rt := fun i =>
  let choice : Choice :=
    { Choice.calm with response := .ok ⟨"200 OK", true, none, [asBytes "198.51.100.7"], none⟩ }
  ⟨id, if i = n then { choice with fault := some notFound } else choice⟩

/-- A cycle on these moves. -/
def torCycle (n : ℕ) (t : Rt) : CycleEnd × Rt :=
  let r := updateSecurity.run Rt.handle (torMoves n) t
  (valueOf r.1, r.2)

lemma torCycle_ends (n : ℕ) (t : Rt) :
    Job.Ends World.still torPath .updateSecurity t (.cycle (torCycle n t).1) (torCycle n t).2 := by
  have hrun := Prog.outcome_run (h := Rt.handle) (E := Rt.env World.still.toEnv) updateSecurity
    (m := torMoves n) (fun i => ⟨fun _ => ⟨rfl, rfl⟩, by
      rw [torMoves]
      dsimp only
      split <;> rfl⟩) t
  rw [eq_ok_valueOf (updateSecurity.run Rt.handle (torMoves n) t).1] at hrun
  exact Prog.outcome_map.mpr ⟨_, rfl, hrun⟩

/-- What the published lists say of the address, and what those on the disk would say. -/
def torVerdicts (t : Rt) : Option BlockReason × Option (Option BlockReason) :=
  let config := t.published.config.security
  let location := IpLocation.empty (.v4 0xc6336407#32)
  (t.published.security.check location,
    match Security.assemble config (.on t.sys.files config) with
    | .ok security => some (security.check location)
    | .error _ => none)

/-- The 18th operation of the first cycle is the read of the list it has just replaced. The second
cycle finds the download on the disk and reports nothing, and the address stays admitted. -/
private lemma torServing_stale : (torServing.any fun t =>
    let failed := torCycle 17 t
    let clean := torCycle 99 failed.2
    failed.1 = .openFailed && clean.1 = .upToDate false &&
      torVerdicts clean.2 = (none, some (some .tor))) = true := by
  decide +kernel

/-- After a cycle that could not open the list it had replaced, the next one reports no error, and
the list on the disk is not the published one. -/
theorem stale_after_clean_cycle :
    ¬∀ (W : World) (configPath : Path) (loads : List RuntimeState) (t t' : Rt) (result : CycleEnd),
      (∀ load ∈ loads, ∀ q ∈ load.config.dataPaths, ∀ s s', W.interferes s s' →
        s'.files q = s.files q) →
      Run W configPath (fun _ _ _ _ => True) loads t →
      Job.Ends W configPath .updateSecurity t (.cycle result) t' → result.isClean = true →
      Security.assemble t'.published.config.security
        (.on t'.sys.files t'.published.config.security) = .ok t'.published.security := by
  intro hall
  obtain ⟨t, ht, hstale⟩ := (Option.any_eq_true _ _).mp torServing_stale
  simp only [Bool.and_eq_true, decide_eq_true_eq] at hstale
  obtain ⟨⟨-, hclean⟩, hverdicts⟩ := hstale
  have hrun : Run World.still torPath (fun _ _ _ _ => True) _ (torCycle 17 t).2 :=
    .job (run_torServing ht _) (torCycle_ends 17 t) trivial
  have hdisk := hall World.still torPath _ _ _ _
    (fun _ _ _ _ s s' h => by rw [show s' = s from h]) hrun (torCycle_ends 99 _)
    (by rw [hclean]; rfl)
  simp only [torVerdicts, hdisk, Prod.mk.injEq, Option.some.injEq] at hverdicts
  rw [hverdicts.1] at hverdicts
  cases hverdicts.2

private lemma torServing_fresh : (torServing.any fun t =>
    t.published.config.isSeparate torPath && (torCycle 99 t).1 = .applied false) = true := by
  decide +kernel

/-- Without the failure the cycle publishes what it replaced. -/
theorem Run.fresh_tor :
    ∃ loads t, Run World.still torPath LeavesNoGap loads t ∧ Fresh t.published t.sys.files := by
  obtain ⟨t, ht, hfresh⟩ := (Option.any_eq_true _ _).mp torServing_fresh
  simp only [Bool.and_eq_true, decide_eq_true_eq] at hfresh
  have hrun : Run World.still torPath LeavesNoGap _ (torCycle 99 t).2 :=
    .job (run_torServing ht _) (torCycle_ends 99 t) (by rw [hfresh.2]; trivial)
  refine ⟨_, _, hrun, Run.fresh hrun ?_⟩
  intro load hload
  obtain rfl : load = t.published := by simpa [JobEnd.loaded] using hload
  exact separate_of_isSeparate hfresh.1

end Tor

end TransferGateway
