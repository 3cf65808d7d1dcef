import TransferGateway.Config.Reading
import TransferGateway.Runtime.Main

/-!
# The writers

Others change files at any moment. A change to a watched file is in the queue as soon as it is made;
the queue stands for the way from the kernel's notification to the channel. What the program has
read and what it published are related to the files across all of that.
-/

namespace TransferGateway

/-! ### The writers -/

/-- What happens beside the program: a file changes, or the notifier reports something more. -/
inductive Sys.Change : Sys → Sys → Prop where
  | edit (s : Sys) (p : Path) (content : Option (List UInt8)) : Sys.Change s (s.set p content)
  | notice (s : Sys) (message : WatchMessage) (h : s.watcher.isSome = true) :
      Sys.Change s { s with queue := s.queue ++ [message] }

/-- Any number of changes, and any choice. -/
def writers : Env Choice Sys where
  interferes := Relation.ReflTransGen Sys.Change
  admits _ := True

lemma Sys.Change.watcher {s s' : Sys} (h : s.Change s') : s'.watcher = s.watcher := by
  cases h <;> rfl

lemma Sys.Change.seen {s s' : Sys} (h : s.Change s') : s'.seen = s.seen := by
  cases h <;> rfl

/-- What no change touches, the writers leave alone. -/
lemma writers_eq {α : Type} {f : Sys → α} (hf : ∀ {s s'}, Sys.Change s s' → f s' = f s)
    {s s' : Sys} (h : writers.interferes s s') : f s' = f s := by
  induction h with
  | refl => rfl
  | tail _ h ih => exact (hf h).trans ih

lemma writers_private : Sys.Private writers where
  sink := writers_eq fun h => by cases h <;> rfl
  seen := writers_eq Sys.Change.seen

/-! ### What is still unread -/

namespace Sys

/-- The watched files hold what was last read from them. -/
def AsRead (s : Sys) : Prop :=
  ∀ e ∈ s.seen, s.isWatched e.1 = true → s.files e.1 = some e.2

instance (s : Sys) : Decidable s.AsRead :=
  inferInstanceAs (Decidable (∀ e ∈ s.seen, _ → _))

/-- An event waits, or no watched file has changed since the reload that began at `started`; nor
since its reads, and for the start this supposes `U`. -/
def Heard (U : Prop) (started : ℕ) (s : Sys) : Prop :=
  s.Pending ∨ started = s.edits ∧ (U ∨ 0 < started → s.AsRead)

variable {U : Prop} {started : ℕ} {s s' : Sys}

lemma Heard.set (h : s.Heard U started) (p : Path) (content : Option (List UInt8)) :
    (s.set p content).Heard U started := by
  by_cases hp : s.isWatched p = true
  · exact Or.inl (pending_set_of_isWatched hp content)
  · rcases h with h | ⟨hstarted, hread⟩
    · exact Or.inl (pending_set_of_pending h p content)
    · refine Or.inr ⟨by simp [Sys.set, hp, hstarted], fun hU e he hwatched => ?_⟩
      have hne : e.1 ≠ p := fun heq => hp (heq ▸ hwatched)
      rw [set_files, Function.update_of_ne hne]
      exact hread hU e he hwatched

/-- A change is heard of. -/
lemma Heard.change (h : s.Heard U started) (hs : s.Change s') : s'.Heard U started := by
  cases hs with
  | edit p content => exact h.set p content
  | notice message _ => exact h.imp_left fun h => List.mem_append_left _ h

/-- A message that is no event may be taken from the queue. -/
lemma Heard.receive {message : String} {rest : List WatchMessage} (h : s.Heard U started)
    (hqueue : s.queue = .error message :: rest) :
    ({ s with queue := rest } : Sys).Heard U started := by
  apply h.imp_left
  intro h
  rw [Pending, hqueue] at h
  exact (List.mem_cons.mp h).resolve_left (by simp)

/-- So is what an operation does, unless it registers a watcher. -/
lemma Heard.step {β : Type} {o : SysOp β} (ho : ¬o.registers) (c : Choice)
    (h : s.Heard U started) : (s.step o c).2.Heard U started := by
  refine step_of_set (fun s p content _ h => h.set p content) ?_ (fun _ _ h => h)
    (fun _ _ _ h => h) (fun _ _ ho' => absurd ho' ho) h
  rintro s p bytes hp (h | ⟨hstarted, hread⟩)
  · exact Or.inl h
  · refine Or.inr ⟨hstarted, fun hU => ?_⟩
    exact List.forall_mem_cons.mpr ⟨fun _ => hp, hread hU⟩

/-- A registration misses nothing if the files hold what the start has read. -/
lemma Heard.register {β : Type} {o : SysOp β} (ho : o.registers) (c : Choice)
    (h : s.Heard U 0)
    (hread : U → (s.step o c).2.watcher ≠ s.watcher → (s.step o c).2.AsRead) :
    (s.step o c).2.Heard U 0 := by
  cases o with
  | watch configPath =>
    by_cases hw : (s.step (.watch configPath) c).2.watcher = s.watcher
    · have hs : (s.step (.watch configPath) c).2 = s := by
        revert hw
        cases hfault : c.fault <;> simp only [Sys.step, hfault]
        · intro hw
          rw [hw]
        · exact fun _ => trivial
      rwa [hs]
    · have hfields : (s.step (.watch configPath) c).2.queue = s.queue ∧
          (s.step (.watch configPath) c).2.edits = s.edits := by
        cases hfault : c.fault <;> simp [Sys.step, hfault]
      rcases h with h | ⟨hedits, -⟩
      · exact Or.inl (by rwa [Sys.Pending, hfields.1])
      · exact Or.inr ⟨hfields.2 ▸ hedits, fun hU => hread (hU.resolve_right (by simp)) hw⟩
  | _ => exact ho.elim

end Sys

section Rt

variable [Xdb] {β : Type} {o : RtOp β} {t : Rt}

lemma Rt.step_watcher (ho : ¬RtOp.registers o) (c : Choice) :
    (t.step o c).2.sys.watcher = t.sys.watcher := by
  rcases o with o | o
  · exact Sys.step_watcher ho c t.sys
  · cases o <;> rfl

lemma Rt.step_heard {U : Prop} {started : ℕ} (ho : ¬RtOp.registers o) (c : Choice)
    (h : t.sys.Heard U started) : (t.step o c).2.sys.Heard U started := by
  rcases o with o | o
  · exact h.step ho c
  · cases o <;> exact h

lemma Rt.writers_trans {a b c : Rt} (hab : (Rt.env writers).interferes a b)
    (hbc : (Rt.env writers).interferes b c) : (Rt.env writers).interferes a c :=
  ⟨hab.1.trans hbc.1, hbc.2.trans hab.2⟩

end Rt

/-! ### What is published -/

variable [StdCase] [Toml.Parse] [UrlParse] {configPath : Path}

lemma stable_loadedFrom (resolved : AppConfig) :
    Stable writers fun s => resolved.LoadedFrom configPath s where
  rely h hs := hs.mono (by rw [writers_private.seen h]; exact fun _ => id)
  log hs := hs.mono fun _ => id

/-- What a configuration was read from stays on record. -/
lemma keeps_loadedFrom (resolved : AppConfig) {α : Type} (p : SysProg α) :
    Prog.Keeps Sys.handle writers (resolved.LoadedFrom configPath) p :=
  AppConfig.keeps_loadedFrom writers_private configPath resolved p

variable [Xdb]

/-- The configuration and the language of `valid` are published; if it was loaded by the last
attempt, the files it was read from are on record. -/
structure Served (configPath : Path) (valid : RuntimeState) (succeeded : Bool) (t : Rt) : Prop where
  config : t.published.config = valid.config
  language : t.published.language = valid.language
  loaded : succeeded = true → valid.config.LoadedFrom configPath t.sys

lemma Served.mono {valid : RuntimeState} {succeeded : Bool} {t t' : Rt}
    (h : Served configPath valid succeeded t) (hpublished : t'.published = t.published)
    (hseen : t.sys.seen ⊆ t'.sys.seen) : Served configPath valid succeeded t' where
  config := hpublished ▸ h.config
  language := hpublished ▸ h.language
  loaded hs := (h.loaded hs).mono hseen

lemma Served.rely {valid : RuntimeState} {succeeded : Bool} {t t' : Rt}
    (h : Served configPath valid succeeded t) (ht : (Rt.env writers).interferes t t') :
    Served configPath valid succeeded t' :=
  h.mono ht.2 (by rw [writers_private.seen ht.1]; exact fun _ => id)

/-- An update cycle changes nothing of that. -/
lemma wp_updateCycle_served {ι δ : Type} {autoUpdate : RuntimeState → Bool}
    {update : RuntimeState → SysProg (Report ι)} {reopen : RuntimeState → SysProg δ}
    {replace : RuntimeState → δ → RuntimeState} {failedKey upToDate updatedKey : String}
    {replacements : ι → List (String × String)} {valid : RuntimeState} {succeeded : Bool} {t : Rt}
    (hreplace : ∀ state opened, (replace state opened).config = state.config ∧
      (replace state opened).language = state.language)
    (h : Served configPath valid succeeded t) :
    (updateCycle autoUpdate update reopen replace failedKey upToDate updatedKey replacements).wp
      Rt.handle (Rt.env writers) (fun _ t' => Served configPath valid succeeded t') t := by
  let L := fun s : Sys => succeeded = true → valid.config.LoadedFrom configPath s
  have hL : Stable writers L :=
    ⟨fun hs h hsucceeded => (stable_loadedFrom _).rely hs (h hsucceeded),
      fun h hsucceeded => (stable_loadedFrom _).log (h hsucceeded)⟩
  have hkeeps : ∀ {α : Type} (p : SysProg α), Prog.Keeps Sys.handle writers L p := by
    intro α p s hs
    cases succeeded with
    | false => exact Prog.wp_always (fun _ _ => nofun) p s
    | true =>
      exact Prog.wp_mono (keeps_loadedFrom _ p s (hs rfl)) fun _ _ h _ => h
  refine Prog.wp_mono (wp_updateCycle (E := writers) (t := t) (A := fun _ => L) hL hL (fun _ => hL)
    ?_ ?_ h.loaded) fun r t' ht' => ?_
  · intro s hs
    apply Prog.wp_mono (hkeeps _ s hs)
    intro r s' hr
    cases r with
    | error e => exact hr
    | ok report => simpa only [ite_self] using hr
  · intro s hs
    apply Prog.wp_mono (hkeeps _ s hs)
    intro r s' hr
    cases r <;> exact hr
  · rcases r with e | result
    · exact e.elim
    · cases result with
      | applied errors =>
        obtain ⟨opened, hpublished, hloaded⟩ := ht'
        obtain ⟨hconfig, hlanguage⟩ := hreplace t.published opened
        rw [← hpublished] at hconfig hlanguage
        exact ⟨hconfig.trans h.config, hlanguage.trans h.language, hloaded⟩
      | _ => exact ⟨ht'.1 ▸ h.config, ht'.1 ▸ h.language, ht'.2⟩

variable [StdParse] [Builtin]

/-- A state keeps the configuration it was loaded with, and the record of what that was read
from. -/
lemma wp_load_loadedFrom {config : AppConfig} {s : Sys}
    (h : (config.resolvePaths configPath).LoadedFrom configPath s) :
    (RuntimeState.load config configPath).wp Sys.handle writers (Prog.onOk fun runtime s' =>
      runtime.config.LoadedFrom configPath s') s := by
  refine Prog.wp_onOk_mono (Prog.wp_onOk_and (RuntimeState.wp_load_config config configPath s)
    (keeps_loadedFrom _ _ s h)) fun runtime s' hruntime => ?_
  obtain ⟨hconfig, hloaded⟩ := hruntime
  rwa [← hconfig] at hloaded

/-- Where the program starts to serve, the watcher is there. -/
lemma wp_main_watched (s : Sys) :
    (main configPath).wp Sys.handle writers (Prog.onOk fun started s' => ∀ runtime,
      started = .running runtime → s'.watcher = some configPath ∧
        configPath.fileName.isSome = true ∧ Served configPath runtime true ⟨s', runtime⟩) s := by
  refine wp_main_running (P := fun config => (config.resolvePaths configPath).LoadedFrom configPath)
    (L := fun config => (config.resolvePaths configPath).LoadedFrom configPath)
    (N := fun runtime => runtime.config.LoadedFrom configPath)
    (fun runtime => stable_loadedFrom _) (fun runtime => ⟨?_, ?_⟩) ?_ ?_ ?_ ?_ s
  · rintro s₁ s₂ h ⟨hwatcher, hname, hserved⟩
    exact ⟨(writers_eq Sys.Change.watcher h).trans hwatcher, hname, hserved.rely ⟨h, rfl⟩⟩
  · rintro s₁ entry ⟨hwatcher, hname, hserved⟩
    exact ⟨hwatcher, hname, hserved.mono rfl fun _ => id⟩
  · intro s₁
    apply Prog.wp_mono (AppConfig.wp_load writers_private configPath s₁)
    intro r s' h
    cases r <;> exact h
  · intro config s₁ h₁
    exact (keeps_loadedFrom _ _).wp_onOk h₁
  · intro config s₁ h₁
    exact wp_load_loadedFrom h₁
  · intro runtime s₁ h₁
    refine Prog.wp_onOk_mono (Prog.wp_onOk_and (ConfigWatcher.wp_new configPath s₁)
      (keeps_loadedFrom _ _ s₁ h₁)) fun _ s₂ h₂ => ?_
    obtain ⟨⟨hwatcher, hname⟩, hloaded⟩ := h₂
    exact ⟨hwatcher, hname, rfl, rfl, fun _ => hloaded⟩

/-- A reload serves what it loaded, or what was served. -/
lemma wp_reloadConfig_served {valid : RuntimeState} {succeeded : Bool} {t : Rt}
    (h : Served configPath valid succeeded t) :
    (reloadConfig configPath).wp Rt.handle (Rt.env writers) (fun r t' => match r with
      | .ok (.applied next) => Served configPath next true t'
      | _ => Served configPath valid false t') t := by
  have hfailed : ∀ {t' : Rt}, t'.published = t.published → Served configPath valid false t' :=
    fun ht => ⟨ht ▸ h.config, ht ▸ h.language, nofun⟩
  refine Prog.wp_mono (wp_reloadConfig (E := writers) (t := t) (B := fun _ => True)
    (P := fun config s => (config.resolvePaths configPath).LoadedFrom configPath s)
    (N := fun next s => next.config.LoadedFrom configPath s)
    (A := fun next s => next.config.LoadedFrom configPath s)
    ⟨fun _ _ => trivial, fun _ => trivial⟩ (fun next => stable_loadedFrom _) ?_ ?_ ?_ trivial)
    fun r t' ht' => ?_
  · intro s _
    apply Prog.wp_mono (AppConfig.wp_load writers_private configPath s)
    intro r s' hr
    cases r <;> exact hr
  · intro config s hs
    apply Prog.wp_mono (wp_load_loadedFrom hs)
    intro r s' hr
    cases r <;> exact hr
  · intro next s hs
    apply Prog.wp_mono (keeps_loadedFrom _ _ s hs)
    intro r s' hr
    cases r with
    | error e => trivial
    | ok _ => exact hr
  · rcases r with e | result
    · exact e.elim
    · cases result with
      | applied next => exact ⟨ht'.1 ▸ rfl, ht'.1 ▸ rfl, fun _ => ht'.2⟩
      | _ => exact hfailed ht'.1

end TransferGateway
