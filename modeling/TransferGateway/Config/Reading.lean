import TransferGateway.Config.App

/-!
# What a configuration was read from

A load reads the configuration file and the files of its virtual hosts. What was read is on
record, and a load returns the same configuration where the files still hold that.
-/

namespace TransferGateway

/-! ### Programs that only read -/

/-- The program reads text files, and fails where it cannot; where it returns `a`, the files it
has read are in `R a`. -/
inductive Reads {α : Type} (R : α → Path → Prop) : SysProg α → Prop where
  | ret (a : α) : Reads R (.ret a)
  | fail (e : String) : Reads R (.fail e)
  | read {path : Path} {k : Except IoError String → SysProg α}
      (herror : ∀ e, (k (.error e)).Returns fun _ => False)
      (hpath : ∀ text, (k (.ok text)).Returns fun a => R a path)
      (hok : ∀ text, Reads R (k (.ok text))) : Reads R (.call (.readToString path) k)

namespace Reads

variable {α β : Type} {R : α → Path → Prop} {R' : β → Path → Prop}

lemma bind {p : SysProg α} {f : α → SysProg β} (hp : Reads R p)
    (hR : ∀ a q, R a q → (f a).Returns fun b => R' b q) (hf : ∀ a, Reads R' (f a)) :
    Reads R' (p >>= f) := by
  induction hp with
  | ret a => exact hf a
  | fail e => exact .fail e
  | read herror hpath hok ih =>
    exact .read (fun e => (herror e).bind nofun) (fun text => (hpath text).bind fun a => hR a _) ih

lemma ofExcept (x : Except String α) : Reads R (.ofExcept x) := by
  cases x with
  | ok a => exact .ret a
  | error e => exact .fail e

lemma mapError {p : SysProg α} (hp : Reads R p) (f : String → String) :
    Reads R (p.mapError f) := by
  induction hp with
  | ret a => exact .ret a
  | fail e => exact .fail _
  | read herror hpath hok ih =>
    exact .read (fun e => (herror e).mapError f) (fun text => (hpath text).mapError f) ih

/-- Reading a file and going on with its text. -/
lemma readToString {path : Path} {message : String} {f : String → SysProg α}
    (hpath : ∀ text, (f text).Returns fun a => R a path) (hf : ∀ text, Reads R (f text)) :
    Reads R (ask (.readToString path) >>= fun r => context r message >>= f) :=
  .read (fun _ => trivial) hpath hf

/-- A program that has returned `a` returns it again on files that hold what it has read. -/
theorem replay {E : Env Choice Sys} (hE : Sys.Private E) {p : SysProg α} (hp : Reads R p)
    (s : Sys) :
    p.wp Sys.handle E (Prog.onOk fun a s' => ∀ t : Sys,
      (∀ e ∈ s'.seen, R a e.1 → t.files e.1 = some e.2) →
        (p.run Sys.handle (fun _ => ⟨id, .calm⟩) t).1 = .ok a) s := by
  induction hp generalizing s with
  | ret a => exact fun _ _ => rfl
  | fail e => trivial
  | @read path k herror hpath hok ih =>
    intro s₁ _ c _
    have hfailed : ∀ e s₂, (k (.error e)).wp Sys.handle E (Prog.onOk fun a s' => ∀ t : Sys,
        (∀ e ∈ s'.seen, R a e.1 → t.files e.1 = some e.2) →
          ((Prog.call (.readToString path) k).run Sys.handle (fun _ => ⟨id, .calm⟩) t).1 = .ok a)
          s₂ :=
      fun e s₂ => Prog.wp_onOk_mono ((herror e).wp s₂) fun _ _ h => h.elim
    cases hfault : c.fault with
    | some e =>
      simp only [Sys.step, hfault]
      exact hfailed _ _
    | none =>
      cases hfile : s₁.files path with
      | none =>
        simp only [Sys.step, hfault, hfile]
        exact hfailed _ _
      | some bytes =>
        simp only [Sys.step, hfault, hfile]
        cases hbytes : fromUtf8 bytes with
        | none => exact hfailed _ _
        | some text =>
          -- the read stays on record until the end
          let s₂ : Sys := { s₁ with seen := (path, bytes) :: s₁.seen }
          have hread := keeps_seen hE (k (.ok text)) (path, bytes) s₂ List.mem_cons_self
          refine Prog.wp_mono
            (Prog.wp_and (Prog.wp_and (ih text s₂) ((hpath text).wp s₂)) hread) ?_
          rintro r s' ⟨⟨hrun, ha⟩, hmem⟩
          cases r with
          | error e => trivial
          | ok a =>
            intro t ht
            have hfile' : t.files path = some bytes := ht _ hmem ha
            simp only [Prog.run, Sys.step, Choice.calm, id, hfile', hbytes]
            exact hrun _ ht

/-- It also returns it where the files it has read are the same. -/
lemma run_congr {p : SysProg α} (hp : Reads R p) {s t : Sys} {a : α}
    (hrun : (p.run Sys.handle (fun _ => ⟨id, .calm⟩) s).1 = .ok a)
    (hst : ∀ q, R a q → t.files q = s.files q) :
    (p.run Sys.handle (fun _ => ⟨id, .calm⟩) t).1 = .ok a := by
  induction hp generalizing s t with
  | ret b => exact hrun
  | fail e => cases hrun
  | @read path k herror hpath hok ih =>
    cases hfile : s.files path with
    | none =>
      simp only [Prog.run, Sys.step, Choice.calm, id, hfile] at hrun
      exact ((herror _).run hrun).elim
    | some bytes =>
      simp only [Prog.run, Sys.step, Choice.calm, id, hfile] at hrun
      cases hbytes : fromUtf8 bytes with
      | none =>
        rw [hbytes] at hrun
        exact ((herror _).run hrun).elim
      | some text =>
        rw [hbytes] at hrun
        have hfile' : t.files path = some bytes :=
          (hst _ ((hpath text).run hrun)).trans hfile
        simp only [Prog.run, Sys.step, Choice.calm, id, hfile', hbytes]
        exact ih text hrun fun q hq => hst q hq

end Reads

/-! ### Configurations -/

section Load

variable [Toml.Parse]

lemma reads_loadVhostRouting {R : RoutingConfig → Path → Prop} (path : Path) (base : ℕ)
    (hR : ∀ a, R a path) : Reads R (loadVhostRouting path base) := by
  refine .readToString (fun text => Prog.returns_of_forall hR _) fun text => ?_
  split
  · exact .fail _
  · exact .ofExcept _

/-- The loop reads the files it is given. -/
lemma reads_loadRoutes {F : Path → Prop} (configPath : Path) (files : List (String × Path))
    (base : ℕ) (routes : BTreeMap RoutingConfig)
    (hfiles : ∀ file ∈ files, F (resolveRelativePath configPath file.2)) :
    Reads (fun _ q => F q) (loadRoutes configPath files base routes) := by
  induction files generalizing base routes with
  | nil => exact .ret _
  | cons file files ih =>
    obtain ⟨hfile, hfiles⟩ := List.forall_mem_cons.mp hfiles
    refine .bind (.ofExcept _) (fun _ _ h => Prog.returns_of_forall (fun _ => h) _) fun _ =>
      .bind ((reads_loadVhostRouting _ _ fun _ => hfile).mapError _)
        (fun _ _ h => Prog.returns_of_forall (fun _ => h) _) fun routing => ih _ _ hfiles

end Load

namespace AppConfig

/-- The files of the virtual hosts. -/
def vhostFiles (c : AppConfig) (configPath : Path) : List Path :=
  match c.vhosts with
  | some vhosts => vhosts.files.entries.map fun file => resolveRelativePath configPath file.2
  | none => []

/-- The files a load of this configuration reads. -/
def sources (c : AppConfig) (configPath : Path) : List Path :=
  configPath :: c.vhostFiles configPath

variable [Toml.Parse]

lemma reads_loadVhosts (c : AppConfig) (configPath : Path) :
    Reads (fun config q => q ∈ config.sources configPath) (c.loadVhosts configPath) := by
  rw [loadVhosts]
  split
  next vhosts hvhosts =>
    refine .bind (R := fun v q => v.files = vhosts.files ∧ q ∈ c.vhostFiles configPath) ?_ ?_
      fun _ => .ret _
    · refine .bind (reads_loadRoutes configPath vhosts.files.entries 0 .empty
        (F := fun q => q ∈ c.vhostFiles configPath) fun file hfile => ?_)
        (fun routes q hq => ⟨rfl, hq⟩) fun _ => .ret _
      simp only [vhostFiles, hvhosts]
      exact List.mem_map_of_mem hfile
    · rintro v q ⟨hv, hq⟩
      change q ∈ sources _ _
      simp only [vhostFiles, hvhosts] at hq
      simp only [sources, vhostFiles, hv]
      exact List.mem_cons_of_mem _ hq
  · exact .ret c

variable [UrlParse] [StdCase]

lemma reads_load (configPath : Path) :
    Reads (fun config q => q ∈ config.sources configPath) (load configPath) := by
  refine .readToString (fun text => ?_) fun text => ?_
  · exact Prog.returns_of_forall (fun _ => List.mem_cons_self) _
  · split
    · exact .fail _
    · refine .bind (reads_loadVhosts _ configPath) (fun config q hq => ?_) fun config => ?_
      · exact (Prog.returns_of_forall (R := fun _ => True) (fun _ => trivial) _).bind fun _ _ => hq
      · exact .bind (R := fun _ _ => False) (.ofExcept _) nofun fun _ => .ret _

/-- A load of the configuration as the files stand. -/
def loadNow (configPath : Path) (s : Sys) : Except String AppConfig :=
  ((load configPath).run Sys.handle (fun _ => ⟨id, .calm⟩) s).1

/-- Files that a load does not read do not matter to it. -/
lemma loadNow_congr {configPath : Path} {s t : Sys} {config : AppConfig}
    (h : loadNow configPath s = .ok config)
    (hst : ∀ q ∈ config.sources configPath, t.files q = s.files q) :
    loadNow configPath t = .ok config :=
  (reads_load configPath).run_congr h hst

/-- The configuration comes from files whose contents are on record. -/
def LoadedFrom (configPath : Path) (resolved : AppConfig) (s : Sys) : Prop :=
  ∃ config, resolved = config.resolvePaths configPath ∧ ∀ t : Sys,
    (∀ e ∈ s.seen, e.1 ∈ resolved.sources configPath → t.files e.1 = some e.2) →
      loadNow configPath t = .ok config

variable {E : Env Choice Sys}

lemma wp_load (hE : Sys.Private E) (configPath : Path) (s : Sys) :
    (load configPath).wp Sys.handle E (Prog.onOk fun config s' =>
      (config.resolvePaths configPath).LoadedFrom configPath s') s :=
  Prog.wp_onOk_mono ((reads_load configPath).replay hE s) fun config _ h => ⟨config, rfl, h⟩

/-- More reads on record do no harm. -/
lemma LoadedFrom.mono {configPath : Path} {resolved : AppConfig} {s s' : Sys}
    (h : resolved.LoadedFrom configPath s) (hseen : s.seen ⊆ s'.seen) :
    resolved.LoadedFrom configPath s' := by
  obtain ⟨config, hconfig, hload⟩ := h
  exact ⟨config, hconfig, fun t ht => hload t fun e he => ht e (hseen he)⟩

lemma keeps_loadedFrom (hE : Sys.Private E) (configPath : Path) (resolved : AppConfig)
    {α : Type} (p : SysProg α) :
    Prog.Keeps Sys.handle E (resolved.LoadedFrom configPath) p := by
  refine .of_all p.all_true (fun ht h => h.mono (by rw [hE.seen ht]; exact fun _ => id))
    fun o _ c _ t h => ?_
  refine Sys.step_of_set ?_ ?_ ?_ ?_ ?_ h
  · exact fun _ _ _ _ h => h.mono fun _ => id
  · exact fun _ _ _ _ h => h.mono fun _ => List.mem_cons_of_mem _
  · exact fun _ _ h => h.mono fun _ => id
  · exact fun _ _ _ h => h.mono fun _ => id
  · exact fun _ _ _ h => h.mono fun _ => id

end AppConfig

end TransferGateway
