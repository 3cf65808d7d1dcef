import TransferGateway.Config.Reading
import TransferGateway.Lib.Steps
import TransferGateway.Runtime.Bootstrap

/-!
# Interrupted first runs

A first run may be killed or fail anywhere between the files it writes. The next run looks at the
configuration only: without one it starts over, and with one it writes nothing but the language file
it loads.
-/

namespace TransferGateway

/-! ### Interrupted runs -/

/-- The operation takes a file away. -/
def SysOp.removes {β : Type} : SysOp β → Prop
  | .removeFile _ | .rename _ _ => True
  | _ => False

/-- Files that are there stay there, as long as none is taken away. -/
lemma Sys.isSome_step {β : Type} {o : SysOp β} (ho : ¬o.removes) (c : Choice) {s : Sys} {q : Path}
    (hq : (s.files q).isSome = true) : ((s.step o c).2.files q).isSome = true := by
  have hset : ∀ (t : Sys) p bytes, (t.files q).isSome = true →
      ((t.set p (some bytes)).files q).isSome = true := by
    intro t p bytes ht
    by_cases hqp : q = p
    · simp [hqp]
    · rwa [Sys.set_files, Function.update_of_ne hqp]
  have hmodify : ∀ p f, ((s.modify p f).files q).isSome = true := by
    intro p f
    rw [Sys.modify]
    split
    · exact hset _ _ _ hq
    · exact hq
  cases o <;> simp only [SysOp.removes, not_true_eq_false] at ho <;> simp only [Sys.step] <;>
    (repeat' split) <;> first | exact hq | exact hset _ _ _ hq | exact hmodify _ _

/-- Everything may fail, but nobody else changes anything. -/
abbrev failing : Env Choice Sys := Env.alone Choice Sys

section Interrupted

lemma all_writeFile (path : Path) (content : List UInt8) (noun : String) :
    (do
      context (← ask (.writeAll path content)) s!"unable to write {noun} {path.display}"
      context (← ask (.flush path)) s!"unable to flush {noun} {path.display}"
      context (← ask (.syncAll path)) s!"unable to sync {noun} {path.display}"
      return true : SysProg Bool).All fun _ o => ¬o.removes := by
  refine .bind ((Prog.all_perform _).mpr id) fun _ => .bind (by simp) fun _ =>
    .bind ((Prog.all_perform _).mpr id) fun _ => .bind (by simp) fun _ =>
    .bind ((Prog.all_perform _).mpr id) fun _ => .bind (by simp) fun _ => trivial

lemma keepsThroughout_isSome {α : Type} {p : SysProg α} (hp : p.All fun _ o => ¬o.removes)
    (q : Path) : Prog.KeepsThroughout Sys.handle failing (fun s => (s.files q).isSome = true) p :=
  .of_all hp (fun h hq => (show _ = _ from h) ▸ hq) fun _ ho c _ _ hq => Sys.isSome_step ho c hq

lemma all_createParent (path : Path) (noun : String) :
    (createParent path noun).All fun _ o => ¬o.removes := by
  rw [createParent]
  split
  · exact .bind ((Prog.all_perform _).mpr id) fun _ => by simp
  · trivial

lemma all_createFile (path : Path) (content : List UInt8) (noun : String) :
    (createFile path content noun).All fun _ o => ¬o.removes := by
  refine .bind ((Prog.all_perform _).mpr id) fun r => ?_
  split
  · split <;> trivial
  · exact all_writeFile ..

/-- A creation that was refused ends there. -/
lemma eq_of_refused {path : Path} {noun : String} {e : IoError} {rest : SysProg Bool} {s s' : Sys}
    (hr : Prog.Reaches Sys.handle failing (if e.kind = .alreadyExists then return false
      else .fail s!"unable to create {noun} {path.display}" : SysProg Bool) s rest s') :
    s' = s ∧ rest ≠ pure true := by
  split at hr
  · obtain ⟨rfl, rfl⟩ := hr.of_ret
    exact ⟨rfl, fun h => by cases h⟩
  · obtain ⟨rfl, rfl⟩ := hr.of_fail
    exact ⟨rfl, fun h => by cases h⟩

/-- An interrupted creation has changed nothing, or the file is there. -/
lemma reaches_createFile {path : Path} {content : List UInt8} {noun : String}
    {rest : SysProg Bool} {s s' : Sys}
    (hr : Prog.Reaches Sys.handle failing (createFile path content noun) s rest s') :
    s' = s ∧ rest ≠ pure true ∨ (s'.files path).isSome = true ∧ rest ≠ pure false := by
  rw [createFile] at hr
  rcases hr.of_perform with ⟨rfl, rfl⟩ | ⟨s₁, c, hs₁, -, hr⟩
  · exact .inl ⟨rfl, fun h => by cases h⟩
  rw [show s₁ = s from hs₁] at hr
  cases hfault : c.fault with
  | some e =>
    simp only [Sys.step, hfault] at hr
    exact .inl (eq_of_refused hr)
  | none =>
    cases hfile : s.files path with
    | some bytes =>
      simp only [Sys.step, hfault, hfile] at hr
      exact .inl (eq_of_refused hr)
    | none =>
      simp only [Sys.step, hfault, hfile] at hr
      refine .inr ⟨keepsThroughout_isSome (all_writeFile path content noun) path _ (by simp) _ _ hr,
        ?_⟩
      rintro rfl
      have hwritten : (pure false : SysProg Bool).Returns (· = true) := hr.returns
        (Prog.returns_bind fun _ => Prog.returns_bind fun _ => Prog.returns_bind fun _ =>
          Prog.returns_bind fun _ => Prog.returns_bind fun _ => Prog.returns_bind fun _ => rfl)
      exact Bool.false_ne_true hwritten

lemma WritesIn.keepsThroughout {α : Type} {F : Set Path} {p : SysProg α} (hp : WritesIn F p)
    {q : Path} (hq : q ∉ F) (content : Option (List UInt8)) :
    Prog.KeepsThroughout Sys.handle failing (fun s => s.files q = content) p :=
  .of_all hp (fun h hs => (show _ = _ from h) ▸ hs)
    fun _ ho c _ s hs => (Sys.step_files (fun h => hq (ho.1 q h)) c s).trans hs

lemma keepsThroughout_createFile (path : Path) (content : List UInt8) (noun : String) (q : Path)
    (bytes : List UInt8) : Prog.KeepsThroughout Sys.handle failing
      (fun s => s.files q = some bytes) (createFile path content noun) := by
  by_cases hpath : q = path
  · subst hpath
    intro s hs rest s' hr
    rw [createFile] at hr
    rcases hr.of_perform with ⟨-, rfl⟩ | ⟨s₁, c, hs₁, -, hr⟩
    · exact hs
    rw [show s₁ = s from hs₁] at hr
    cases hfault : c.fault with
    | some e =>
      simp only [Sys.step, hfault] at hr
      rwa [(eq_of_refused hr).1]
    | none =>
      simp only [Sys.step, hfault, hs] at hr
      rwa [(eq_of_refused hr).1]
  · exact (writesIn_createFile ..).keepsThroughout hpath _

lemma keepsThroughout_create (path : Path) (content : List UInt8) (noun noun' : String) (q : Path)
    (bytes : List UInt8) : Prog.KeepsThroughout Sys.handle failing
      (fun s => s.files q = some bytes)
      (createParent path noun >>= fun _ => createFile path content noun') :=
  .bind ((writesIn_createParent ..).keepsThroughout (by simp) _) fun _ =>
    keepsThroughout_createFile _ _ _ _ _

variable [Builtin]

lemma keepsThroughout_ensureVhostFiles (configPath q : Path) (bytes : List UInt8) :
    Prog.KeepsThroughout Sys.handle failing (fun s => s.files q = some bytes)
      (ensureVhostFiles configPath) := by
  refine .bind (WritesIn.keepsThroughout (F := ∅) (by simp [WritesIn]) (by simp) _) fun _ =>
    .bind (.ofExcept _) fun _ => ?_
  generalize Builtin.vhostTemplates = templates
  induction templates with
  | nil => exact .ret _
  | cons vhost templates ih =>
    exact .bind (.bind (keepsThroughout_createFile _ _ _ _ _) fun _ => .ret _) fun _ => ih

variable [Toml.Parse]

/-- Wherever it is interrupted, the first part of a run leaves every file alone that was there. -/
lemma keepsThroughout_bootstrap (configPath q : Path) (bytes : List UInt8) :
    Prog.KeepsThroughout Sys.handle failing (fun s => s.files q = some bytes)
      (bootstrap configPath) := by
  refine .bind (WritesIn.keepsThroughout (F := ∅) (by simp [WritesIn]) (by simp) _)
    fun present => ?_
  split
  · exact .ret _
  refine .bind (keepsThroughout_create _ _ _ _ _ _) fun created => ?_
  split
  · refine .bind (keepsThroughout_create _ _ _ _ _ _) fun _ =>
      .bind (keepsThroughout_create _ _ _ _ _ _) fun _ =>
      .bind (keepsThroughout_ensureVhostFiles _ _ _) fun _ => ?_
    split
    · exact .ret _
    · exact .fail _
  · exact .ret _

end Interrupted

/-! ### Where a first run may stop -/

section Stop

lemma reaches_createParent {path : Path} {noun : String} {rest : SysProg Unit} {s s' : Sys}
    (hr : Prog.Reaches Sys.handle failing (createParent path noun) s rest s') : s' = s := by
  rw [createParent] at hr
  split at hr
  · rcases hr.of_perform with ⟨-, heq⟩ | ⟨s₁, c, hs₁, -, hrest⟩
    · exact heq
    rw [show s₁ = s from hs₁] at hrest
    cases hfault : c.fault with
    | some e =>
      simp only [Sys.step, hfault] at hrest
      exact hrest.of_fail.2
    | none =>
      simp only [Sys.step, hfault] at hrest
      exact hrest.of_ret.2
  · exact hr.of_ret.2

variable [Builtin]

lemma all_ensureFile (path : Path) (locale : String) :
    (Language.ensureFile path locale).All fun _ o => ¬o.removes :=
  .bind (all_createParent ..) fun _ => all_createFile ..

lemma all_ensureVhostFiles (configPath : Path) :
    (ensureVhostFiles configPath).All fun _ o => ¬o.removes :=
  .bind ((Prog.all_perform _).mpr id) fun _ => .bind (by simp) fun _ =>
    Prog.all_forM fun _ _ => .bind (all_createFile ..) fun _ => trivial

/-- The creation of the configuration changes nothing, or the configuration is there. -/
lemma reaches_ensureConfigFile {path : Path} {rest : SysProg Bool} {s s' : Sys}
    (hr : Prog.Reaches Sys.handle failing (ensureConfigFile path) s rest s') :
    s' = s ∨ (s'.files path).isSome = true := by
  rw [ensureConfigFile] at hr
  rcases hr.of_bind with ⟨p', hparent, -⟩ | ⟨_, s₁, hout, hfile⟩
  · exact .inl (reaches_createParent hparent)
  · rw [reaches_createParent (Prog.outcome_iff_reaches.mp hout)] at hfile
    exact (reaches_createFile hfile).imp And.left And.left

/-- It says which. -/
lemma wp_ensureConfigFile_failing (path : Path) (s : Sys) :
    (ensureConfigFile path).wp Sys.handle failing (Prog.onOk fun created s' =>
      if created then (s'.files path).isSome = true else s' = s) s := by
  refine Prog.wp_seq (R := fun _ s' => s' = s) (Prog.wp_iff_outcome.mpr fun _ _ hout =>
    reaches_createParent (Prog.outcome_iff_reaches.mp hout)) (fun _ s₁ h₁ => ?_) fun _ _ _ => trivial
  rw [h₁]
  apply Prog.wp_iff_outcome.mpr
  intro r s' hout
  have hfile := reaches_createFile (Prog.outcome_iff_reaches.mp hout)
  rcases r with e | _ | _
  · trivial
  · exact (hfile.resolve_right fun h => h.2 rfl).1
  · exact (hfile.resolve_left fun h => h.2 rfl).1

variable [Toml.Parse]

/-- A first run is stopped before it has changed anything, or the configuration is there. -/
lemma reaches_bootstrap {configPath : Path} {rest : SysProg (Option String)} {s s' : Sys}
    (h : s.files configPath = none)
    (hr : Prog.Reaches Sys.handle failing (bootstrap configPath) s rest s') :
    s' = s ∨ (s'.files configPath).isSome = true := by
  rw [bootstrap] at hr
  rcases hr.of_perform with ⟨-, heq⟩ | ⟨s₁, c, hs₁, -, hrest⟩
  · exact .inl heq
  rw [show s₁ = s from hs₁] at hrest
  simp only [Sys.step, h, Option.isSome_none, Bool.false_and, Bool.false_eq_true, if_false] at hrest
  rcases hrest.of_bind with ⟨p', hconfig, -⟩ | ⟨created, s₂, hout, hrest⟩
  · exact reaches_ensureConfigFile hconfig
  have hcreated := Prog.wp_iff_outcome.mp (wp_ensureConfigFile_failing configPath s) _ _ hout
  cases created with
  | false =>
    rw [if_neg (by simp)] at hrest
    exact .inl (hrest.of_ret.2.trans hcreated)
  | true =>
    refine .inr (keepsThroughout_isSome ?_ configPath s₂ hcreated _ _ hrest)
    refine .bind (all_ensureFile ..) fun _ => .bind (all_ensureFile ..) fun _ =>
      .bind (all_ensureVhostFiles ..) fun _ => ?_
    split <;> trivial

/-- A run that finds no configuration and creates none has changed nothing. -/
lemma wp_bootstrap_failing {configPath : Path} {s : Sys} (h : s.files configPath = none) :
    (bootstrap configPath).wp Sys.handle failing (Prog.onOk fun message s' =>
      message = none → s' = s) s := by
  rw [bootstrap, Prog.wp_bind]
  intro s₁ hs₁ c _
  rw [show s₁ = s from hs₁]
  simp only [Sys.step, h, Option.isSome_none, Bool.false_and]
  apply Prog.wp_seq_onOk (wp_ensureConfigFile_failing configPath s)
  intro created s₂ h₂
  cases created with
  | false => exact fun _ => h₂
  | true =>
    -- from here on there is a message
    refine Prog.wp_seq_onOk (Prog.wp_onOk_true _ s₂) fun _ s₃ _ =>
      Prog.wp_seq_onOk (Prog.wp_onOk_true _ s₃) fun _ s₄ _ =>
      Prog.wp_seq_onOk (Prog.wp_onOk_true _ s₄) fun _ s₅ _ => ?_
    split
    · exact fun h => by cases h
    · trivial

variable [StdParse] [StdCase] [UrlParse] [Xdb]

/-- Without a configuration, a run changes no more than its first part. -/
lemma reaches_main {configPath : Path} {rest : SysProg Started} {s s' : Sys}
    (h : s.files configPath = none)
    (hr : Prog.Reaches Sys.handle failing (main configPath) s rest s') :
    ∃ rest', Prog.Reaches Sys.handle failing (bootstrap configPath) s rest' s' := by
  rw [main] at hr
  rcases hr.of_bind with ⟨p', hbootstrap, -⟩ | ⟨message, s₁, hout, hrest⟩
  · exact ⟨p', hbootstrap⟩
  have hdone := Prog.outcome_iff_reaches.mp hout
  cases message with
  | some message =>
    rw [hrest.of_ret.2]
    exact ⟨_, hdone⟩
  | none =>
    -- the configuration cannot be read
    obtain rfl : s₁ = s := Prog.wp_iff_outcome.mp (wp_bootstrap_failing h) _ _ hout rfl
    have hread : Prog.Reaches Sys.handle failing (.call (.readToString configPath) _) s₁ rest s' :=
      hrest
    cases hread with
    | here => exact ⟨_, hdone⟩
    | @call _ _ _ _ s₂ _ c _ hs _ hnext =>
      obtain rfl : s₂ = s₁ := hs
      have hfailed : ∃ e, s₂.step (.readToString configPath) c = (.error e, s₂) := by
        cases hfault : c.fault with
        | some e => exact ⟨e, by simp [Sys.step, hfault]⟩
        | none => exact ⟨notFound, by simp [Sys.step, hfault, h]⟩
      obtain ⟨e, hstep⟩ := hfailed
      rw [show Sys.handle _ (SysOp.readToString configPath) c s₂ = _ from hstep] at hnext
      rw [(Prog.Reaches.of_fail hnext).2]
      exact ⟨_, hdone⟩

end Stop

/-! ### The next run -/

section Next

variable [Builtin]

/-- Every default file is there: the one that was, or the complete one of the program. -/
def Installed (configPath : Path) (before files : Files) : Prop :=
  ∀ file ∈ defaultFiles configPath, files file.1 = some ((before file.1).getD file.2)

/-- What the next run completes: it starts over, or only the language file it loads is missing. -/
def Resumable (configPath : Path) (before files : Files) : Prop :=
  files configPath = none ∨ ∀ file ∈ defaultFiles configPath,
    files file.1 = some ((before file.1).getD file.2) ∨
      file.1 = (loadedLanguageFile configPath).1 ∧ files file.1 = none

lemma vhost_mem_defaultFiles (configPath : Path) {vhost : String × String}
    (h : vhost ∈ Builtin.vhostTemplates) :
    (pathBelow configPath ["vhosts", s!"{vhost.1}.toml"], asBytes vhost.2) ∈
      defaultFiles configPath := by
  refine List.mem_cons_of_mem _ (List.mem_cons_of_mem _ (List.mem_cons_of_mem _ ?_))
  exact List.mem_map_of_mem (f := fun vhost : String × String =>
    (pathBelow configPath ["vhosts", s!"{vhost.1}.toml"], asBytes vhost.2)) h

variable [Toml.Parse] [StdCase]

/-- The virtual hosts that were there already can be loaded. -/
def LoadableVhosts (configPath : Path) (before : Files) : Prop :=
  ∀ vhost ∈ Builtin.vhostTemplates, ∀ bytes,
    before (pathBelow configPath ["vhosts", s!"{vhost.1}.toml"]) = some bytes → IsVhostFile bytes

variable [UrlParse]

/-- The virtual hosts of the program can be loaded. -/
lemma BuiltinParses.isVhostFile (h : BuiltinParses) {vhost : String × String}
    (hvhost : vhost ∈ Builtin.vhostTemplates) : IsVhostFile (asBytes vhost.2) := by
  refine ⟨vhost.2, _, fromUtf8_eq_some.mpr rfl, h.vhosts vhost hvhost, fun base =>
    ⟨_, vhostRouting_backendTable base _, ?_⟩⟩
  have hname := List.mem_map_of_mem (f := Prod.fst) hvhost
  simp only [h.names, List.mem_cons, List.not_mem_nil, or_false] at hname
  rcases hname with hname | hname <;> rw [hname] <;> rfl

/-- The virtual hosts can be loaded when they are installed. -/
lemma BuiltinParses.vhosts_of_installed (h : BuiltinParses) {configPath : Path}
    {before files : Files} (hbefore : LoadableVhosts configPath before)
    (hfiles : ∀ vhost ∈ Builtin.vhostTemplates,
      files (pathBelow configPath ["vhosts", s!"{vhost.1}.toml"]) = some ((before
        (pathBelow configPath ["vhosts", s!"{vhost.1}.toml"])).getD (asBytes vhost.2))) :
    ∀ name ∈ ["alpha", "beta"], ∃ bytes,
      files (pathBelow configPath ["vhosts", s!"{name}.toml"]) = some bytes ∧
        IsVhostFile bytes := by
  intro name hname
  rw [← h.names] at hname
  obtain ⟨vhost, hvhost, rfl⟩ := List.mem_map.mp hname
  refine ⟨_, hfiles vhost hvhost, ?_⟩
  cases hpresent : before (pathBelow configPath ["vhosts", s!"{vhost.1}.toml"]) with
  | none => exact h.isVhostFile hvhost
  | some bytes => exact hbefore vhost hvhost bytes hpresent

/-- The installed files can be loaded. -/
lemma BuiltinParses.loadNow (h : BuiltinParses) {configPath : Path} {before : Files} {s : Sys}
    (hconfig : before configPath = none) (hbefore : LoadableVhosts configPath before)
    (hinstalled : Installed configPath before s.files) :
    ∃ config, AppConfig.loadNow configPath s = .ok config := by
  have hcomplete := hinstalled (configPath, asBytes Builtin.configTemplate) List.mem_cons_self
  rw [hconfig] at hcomplete
  have hvhosts := h.vhosts_of_installed hbefore fun vhost hvhost => hinstalled
    (pathBelow configPath ["vhosts", s!"{vhost.1}.toml"], asBytes vhost.2)
    (vhost_mem_defaultFiles configPath hvhost)
  obtain ⟨⟨vhosts, hload⟩, -⟩ := Prog.wp_iff_outcome.mp (h.wp_load hcomplete hvhosts) _ _
    (Prog.outcome_run (E := World.working.toEnv) _ (m := fun _ => ⟨id, .calm⟩)
      (fun _ => ⟨fun _ => rfl, rfl, rfl⟩) s)
  exact ⟨_, hload⟩

variable [StdParse] [Xdb]

/-- Where there is no configuration, a run installs everything, or fails behind it. -/
lemma wp_main_installs {configPath : Path} {t : Sys} (hconfig : t.files configPath = none) :
    (main configPath).wp Sys.handle World.working.toEnv (fun _ s' =>
      s'.files = (defaultFiles configPath).foldl install t.files) t := by
  refine Prog.wp_seq (wp_bootstrap_working hconfig) (fun message s₁ h₁ => ?_) fun e s₁ h₁ => h₁.2
  cases message with
  | none => exact absurd rfl h₁.1
  | some message => exact h₁.2

/-- A run writes the language file it loads where only that one is missing. -/
lemma BuiltinParses.wp_main_language (h : BuiltinParses) {configPath : Path} {before : Files}
    {t : Sys} (hconfig : before configPath = none) (hbefore : LoadableVhosts configPath before)
    (hkept : ∀ q bytes, before q = some bytes → t.files q = some bytes)
    (hfiles : ∀ file ∈ defaultFiles configPath,
      t.files file.1 = some ((before file.1).getD file.2) ∨
        file.1 = (loadedLanguageFile configPath).1 ∧ t.files file.1 = none) :
    (main configPath).wp Sys.handle World.working.toEnv (fun _ s' =>
      Installed configPath before s'.files) t := by
  have hcomplete : ∀ file ∈ defaultFiles configPath, file.1 ≠ (loadedLanguageFile configPath).1 →
      t.files file.1 = some ((before file.1).getD file.2) := fun file hfile hne =>
    (hfiles file hfile).resolve_right fun hmissing => hne hmissing.1
  have hvhosts := h.vhosts_of_installed hbefore fun vhost hvhost =>
    hcomplete _ (vhost_mem_defaultFiles configPath hvhost) (by simp [loadedLanguageFile])
  have htemplate := hcomplete (configPath, asBytes Builtin.configTemplate) List.mem_cons_self
    (ne_pathBelow _ (by simp))
  rw [hconfig] at htemplate
  refine Prog.wp_iff_outcome.mpr fun r s₂ hout file hfile =>
    Prog.wp_iff_outcome.mp (h.wp_main htemplate hvhosts hfile ?_) r s₂ hout
  rcases hfiles file hfile with hthere | ⟨hpath, hmissing⟩
  · rw [install_apply]
    split
    next heq => rw [← heq, hthere, Option.getD_some]
    next => exact hthere
  · -- the language file was not there before either
    have hnone : before file.1 = none := by
      cases hpresent : before file.1 with
      | none => rfl
      | some bytes =>
        rw [hkept _ _ hpresent] at hmissing
        cases hmissing
    have hnodup := nodup_defaultFiles configPath (h.names ▸ by decide)
    have hfile' : file = loadedLanguageFile configPath := List.inj_on_of_nodup_map hnodup hfile
      (List.mem_cons_of_mem _ List.mem_cons_self) hpath
    rw [install_apply, if_pos hpath, ← hpath, hmissing, hnone, hfile']

/-- From what an interrupted first run leaves, a run that can complete it does. -/
lemma BuiltinParses.installs (h : BuiltinParses) {configPath : Path} {rest : SysProg Started}
    {s s₁ t : Sys} (hconfig : s.files configPath = none)
    (hr : Prog.Reaches Sys.handle failing (main configPath) s rest s₁) (ht : t.files = s₁.files)
    (hbefore : LoadableVhosts configPath s.files)
    (hresumable : Resumable configPath s.files s₁.files) :
    (main configPath).wp Sys.handle World.working.toEnv (fun _ s₂ =>
      Installed configPath s.files s₂.files) t := by
  obtain ⟨rest', hbootstrap⟩ := reaches_main hconfig hr
  rw [← ht] at hresumable
  cases hnow : t.files configPath with
  | none =>
    -- nothing has been written, and the next run starts over
    have hsame : s₁ = s :=
      (reaches_bootstrap hconfig hbootstrap).resolve_right (by simp [← ht, hnow])
    apply Prog.wp_mono (wp_main_installs hnow)
    intro _ s₂ h₂ file hfile
    rw [h₂, ht, hsame]
    exact install_installs (nodup_defaultFiles configPath (h.names ▸ by decide)) hfile
  | some bytes =>
    refine h.wp_main_language hconfig hbefore (fun q bytes hq => ?_)
      (hresumable.resolve_left (by simp [hnow]))
    rw [ht]
    exact keepsThroughout_bootstrap configPath q bytes s hq _ _ hbootstrap

/-- If a first run was stopped before it had created the configuration, or if no default file is
missing or cut off but the language file that is loaded, then a run where nothing fails completes the
files, and they can be loaded. The first part of a run never alters a file that is there. -/
theorem interrupted_first_run_completed (h : BuiltinParses) (configPath : Path) :
    (∀ (s s₁ t : Sys) (rest : SysProg Started), s.files configPath = none →
      Prog.Reaches Sys.handle failing (main configPath) s rest s₁ → t.files = s₁.files →
      LoadableVhosts configPath s.files → Resumable configPath s.files s₁.files →
      ∀ r s₂, (main configPath).Outcome Sys.handle World.working.toEnv t r s₂ →
        Installed configPath s.files s₂.files ∧
          ∃ config, AppConfig.loadNow configPath s₂ = .ok config) ∧
    ∀ (s s₁ : Sys) (rest : SysProg (Option String)),
      Prog.Reaches Sys.handle failing (bootstrap configPath) s rest s₁ →
      ∀ q bytes, s.files q = some bytes → s₁.files q = some bytes := by
  refine ⟨fun s s₁ t rest hconfig hr ht hbefore hresumable r s₂ hout => ?_,
    fun s s₁ rest hr q bytes hq => keepsThroughout_bootstrap configPath q bytes s hq _ _ hr⟩
  have hinstalled := Prog.wp_iff_outcome.mp (h.installs hconfig hr ht hbefore hresumable) r s₂ hout
  exact ⟨hinstalled, h.loadNow hconfig hbefore hinstalled⟩

end Next

/-! ### A small program -/

/-- Short texts for the files that are part of the program. -/
@[reducible] def smallBuiltin : Builtin where
  zhCN := ""
  enUS := ""
  configTemplate := "config"
  vhostTemplates := [("alpha", "alpha"), ("beta", "beta")]

@[reducible] def smallParse : Toml.Parse where
  fromStr text :=
    if text = "config" then some exampleTable
    else if text = "alpha" then some (backendTable "alpha-backend.example.com")
    else if text = "beta" then some (backendTable "beta-backend.example.com")
    else if text = "" then some []
    else none

/-- An empty directory. -/
def noFiles : Sys where
  files _ := none
  sink := none
  log := []
  watcher := none
  queue := []
  edits := 0
  seen := []

section Small

attribute [local instance] noXdb dottedParse asciiCase smallParse smallBuiltin httpsUrl

private lemma small_parses : BuiltinParses where
  config := rfl
  names := rfl
  vhosts := List.forall_mem_cons.mpr ⟨rfl, List.forall_mem_cons.mpr ⟨rfl, List.forall_mem_nil _⟩⟩
  urls _ _ := rfl

/-- A directory without a configuration, but with virtual hosts and a language file. -/
def someFiles : Sys where
  files p :=
    if p = pathBelow torPath ["lang", "en-US.toml"] then some (asBytes "own")
    else if p = pathBelow torPath ["vhosts", "alpha.toml"] then some (asBytes "alpha")
    else if p = pathBelow torPath ["vhosts", "beta.toml"] then some (asBytes "beta")
    else none
  sink := none
  log := []
  watcher := none
  queue := []
  edits := 0
  seen := []

private lemma someFiles_loadable : LoadableVhosts torPath someFiles.files := by
  have hfiles : ∀ vhost ∈ Builtin.vhostTemplates,
      someFiles.files (pathBelow torPath ["vhosts", s!"{vhost.1}.toml"]) =
        some (asBytes vhost.2) := by
    decide +kernel
  intro vhost hvhost bytes hbytes
  obtain rfl : asBytes vhost.2 = bytes :=
    Option.some.inj ((hfiles vhost hvhost).symm.trans hbytes)
  exact small_parses.isVhostFile hvhost

/-- The first run is killed when it has written the configuration, before the other language file.
The next run writes that one. -/
theorem interrupted_first_run_completed_small :
    let s₁ := (Prog.advance Sys.handle 5 (main torPath) (fun _ => ⟨id, .calm⟩) someFiles).2
    let r := (main torPath).run Sys.handle (fun _ => ⟨id, .calm⟩) s₁
    s₁.files torPath = some (asBytes "config") ∧
      s₁.files (loadedLanguageFile torPath).1 = none ∧
      Installed torPath someFiles.files r.2.files ∧
      ∃ config, AppConfig.loadNow torPath r.2 = .ok config := by
  have hkilled := Prog.reaches_advance (h := Sys.handle) (E := failing) 5 (main torPath)
    (m := fun _ => ⟨id, .calm⟩) (fun _ => ⟨fun _ => rfl, trivial⟩) someFiles
  refine ⟨by decide +kernel, by decide +kernel, ?_⟩
  refine (interrupted_first_run_completed small_parses torPath).1 someFiles _ _ _ rfl hkilled rfl
    someFiles_loadable (.inr ?_) _ _ (Prog.outcome_run (E := World.working.toEnv) _
      (m := fun _ => ⟨id, .calm⟩) (fun _ => ⟨fun _ => rfl, rfl, rfl⟩) _)
  decide +kernel

/-- The first run is killed when it has just created the configuration. The next run fails to load
it, and writes nothing. -/
theorem interrupted_first_run_not_completed :
    BuiltinParses ∧
    ¬∀ (configPath : Path) (s s₁ t : Sys) (rest : SysProg Started), s.files configPath = none →
      Prog.Reaches Sys.handle failing (main configPath) s rest s₁ → t.files = s₁.files →
      ∀ r s₂, (main configPath).Outcome Sys.handle World.working.toEnv t r s₂ →
        Installed configPath s.files s₂.files ∧
          ∃ config, AppConfig.loadNow configPath s₂ = .ok config := by
  refine ⟨small_parses, fun hall => ?_⟩
  have hcreated : Prog.Reaches Sys.handle failing (main torPath) noFiles _
      (noFiles.set torPath (some [])) :=
    .call (c := .calm) rfl trivial (.call (c := .calm) rfl trivial (.here _ _))
  obtain ⟨-, config, hload⟩ := hall torPath noFiles _ (noFiles.set torPath (some [])) _ rfl hcreated
    rfl _ _ (Prog.outcome_run (E := World.working.toEnv) _ (m := fun _ => ⟨id, .calm⟩)
      (fun _ => ⟨fun _ => rfl, rfl, rfl⟩) _)
  have hfails : (AppConfig.loadNow torPath ((main torPath).run Sys.handle (fun _ => ⟨id, .calm⟩)
      (noFiles.set torPath (some []))).2).isOk = false := by
    decide +kernel
  rw [hload] at hfails
  cases hfails

end Small

end TransferGateway
