import TransferGateway.Runtime.Watcher

/-!
# The start and the watcher

The start reads the configuration before it registers the watcher. A change in between is not in
the queue, and what the start has read stays published. So does what was published before a reload
that fails, until the next event.
-/

namespace TransferGateway

/-! ### What the files load to -/

/-- The files of the virtual hosts are watched ones. -/
def AppConfig.SourcesWatched (configPath : Path) (c : AppConfig) : Prop :=
  ∀ q ∈ c.vhostFiles configPath, watched configPath q = true

lemma AppConfig.SourcesWatched.of_isEmpty {configPath : Path} {c : AppConfig}
    (h : (c.vhostFiles configPath).isEmpty = true) : c.SourcesWatched configPath := by
  intro q hq
  rw [List.isEmpty_iff.mp h] at hq
  cases hq

section Sources

variable [StdCase] [Toml.Parse] [UrlParse]

namespace Sys

/-- The watched files load to a configuration. -/
def Loadable (configPath : Path) (s : Sys) : Prop :=
  ∃ config, AppConfig.loadNow configPath s = .ok config ∧ config.SourcesWatched configPath

/-- If the last attempt was not applied, an event waits or the files do not load. -/
def Excused (configPath : Path) (succeeded : Bool) (s : Sys) : Prop :=
  s.Pending ∨ (succeeded = false → ¬s.Loadable configPath)

variable {configPath : Path} {succeeded : Bool} {s s' : Sys}

/-- Only the files and the events matter. -/
lemma Excused.mono (h : s.Excused configPath succeeded) (hfiles : s'.files = s.files)
    (hpending : s.Pending → s'.Pending) : s'.Excused configPath succeeded := by
  refine h.imp hpending fun h hfailed => ?_
  rintro ⟨config, hload, hsources⟩
  exact h hfailed ⟨config, AppConfig.loadNow_congr hload fun q _ => by rw [hfiles], hsources⟩

/-- A file that is not watched does not make the others load. -/
lemma Excused.set (hnamed : configPath.fileName.isSome = true)
    (hwatcher : s.watcher = some configPath) (h : s.Excused configPath succeeded) (p : Path)
    (content : Option (List UInt8)) : (s.set p content).Excused configPath succeeded := by
  by_cases hp : s.isWatched p = true
  · exact Or.inl (pending_set_of_isWatched hp content)
  · refine h.imp (pending_set_of_pending · p content) fun h hfailed => ?_
    rintro ⟨config, hload, hsources⟩
    refine h hfailed ⟨config, AppConfig.loadNow_congr hload fun q hq => ?_, hsources⟩
    have hwatched : watched configPath q = true := by
      rcases List.mem_cons.mp hq with rfl | hvhost
      · exact watched_self hnamed
      · exact hsources q hvhost
    have hne : q ≠ p := by
      rintro rfl
      exact hp (by rwa [isWatched, hwatcher])
    rw [set_files, Function.update_of_ne hne]

lemma Excused.change (hnamed : configPath.fileName.isSome = true)
    (hwatcher : s.watcher = some configPath) (h : s.Excused configPath succeeded)
    (hs : s.Change s') : s'.Excused configPath succeeded := by
  cases hs with
  | edit p content => exact h.set hnamed hwatcher p content
  | notice message _ => exact h.mono rfl fun h => List.mem_append_left _ h

lemma Excused.receive {message : String} {rest : List WatchMessage}
    (h : s.Excused configPath succeeded) (hqueue : s.queue = .error message :: rest) :
    ({ s with queue := rest } : Sys).Excused configPath succeeded := by
  refine h.mono rfl fun h => ?_
  rw [Pending, hqueue] at h
  exact (List.mem_cons.mp h).resolve_left (by simp)

lemma Excused.step {β : Type} {o : SysOp β} (ho : ¬o.registers) (c : Choice)
    (hnamed : configPath.fileName.isSome = true) (hwatcher : s.watcher = some configPath)
    (h : s.Excused configPath succeeded) : (s.step o c).2.Excused configPath succeeded := by
  refine (step_of_set (I := fun s => s.watcher = some configPath ∧ s.Excused configPath succeeded)
    ?_ (fun _ _ _ _ h => ⟨h.1, h.2.mono rfl id⟩) (fun _ _ h => ⟨h.1, h.2.mono rfl id⟩)
    (fun _ _ _ h => ⟨h.1, h.2.mono rfl id⟩) (fun _ _ ho' => absurd ho' ho) ⟨hwatcher, h⟩).2
  rintro s p content - ⟨hwatcher, h⟩
  exact ⟨hwatcher, h.set hnamed hwatcher p content⟩

end Sys

end Sources

section Start

variable [Xdb] [StdParse] [StdCase] [Toml.Parse] [Builtin] [UrlParse]

namespace Watcher

/-- Every file that the published configuration comes from, or the one the files hold now, is a
watched one. -/
def SourcesWatched (configPath : Path) (w : Watcher) : Prop :=
  w.rt.published.config.SourcesWatched configPath ∧
    ∀ config, AppConfig.loadNow configPath w.rt.sys = .ok config → config.SourcesWatched configPath

/-- The published configuration is the one the files load to now, or the last valid one, if they do
not load. -/
def UpToDate (configPath : Path) (w : Watcher) : Prop :=
  match AppConfig.loadNow configPath w.rt.sys with
  | .ok config => w.rt.published.config = config.resolvePaths configPath
  | .error _   => w.rt.published.config = w.valid.config

/-- Where no reload is due, the last attempt was applied, or the files do not load. -/
def Excused (configPath : Path) (w : Watcher) : Prop :=
  match w.phase with
  | .waiting | .updating _ => w.rt.sys.Excused configPath w.succeeded
  | _                      => True

end Watcher

omit [StdParse] [StdCase] [Toml.Parse] [Builtin] [UrlParse] in
lemma Watcher.reloaded_rt (w : Watcher) (result : ReloadEnd) : (w.reloaded result).rt = w.rt := by
  cases result <;> rfl

omit [StdParse] [StdCase] [Toml.Parse] [Builtin] [UrlParse] in
lemma Watcher.reloaded_phase (w : Watcher) (result : ReloadEnd) :
    (w.reloaded result).phase = .waiting := by
  cases result <;> rfl

/-- The reload has published what it loaded. -/
def ReloadEnd.isApplied : ReloadEnd → Bool
  | applied _ => true
  | _         => false

namespace Gateway

/-- If the step ends a reload that was not applied, an event waits or the files do not load. -/
def FailsUnloadable (configPath : Path) : Gateway → Gateway → Prop
  | .running w, .running w' => ∀ result, w.phase = .reloading (.ret result) →
      w' = w.reloaded result → result.isApplied = false →
        w.rt.sys.Pending ∨ ¬w.rt.sys.Loadable configPath
  | _, _                    => True

end Gateway

lemma Watcher.Step.excused {configPath : Path} {w w' : Watcher} (hstep : w.Step configPath w')
    (hinv : w.Inv False configPath)
    (hfails : Gateway.FailsUnloadable configPath (.running w) (.running w'))
    (h : w.Excused configPath) : w'.Excused configPath := by
  obtain ⟨⟨sys, published⟩, phase, started, succeeded, valid⟩ := w
  obtain ⟨hnamed, hwatcher, hkeeps, -, -⟩ := hinv
  cases hstep with
  | error hphase hqueue =>
    cases hphase
    have hexcused : sys.Excused configPath succeeded := h
    change Sys.Excused configPath succeeded _
    exact (hexcused.receive hqueue).mono rfl id
  | ip2regionTimer hphase | securityTimer hphase =>
    cases hphase
    exact h
  | @drain message rest hphase hqueue =>
    cases hphase
    cases message with
    | _ => trivial
  | change | debounced | drained | reloadOp => trivial
  | @reloadEnd result hphase =>
    cases hphase
    have hended := hfails result rfl rfl
    cases result with
    | applied next =>
      change Sys.Excused configPath true sys
      exact Or.inr nofun
    | _ =>
      change Sys.Excused configPath false sys
      exact (hended rfl).imp_right fun h _ => h
  | @updateOp β o k c hphase =>
    cases hphase
    have hexcused : sys.Excused configPath succeeded := h
    rcases o with o | o
    · change Sys.Excused configPath succeeded (sys.step o c).2
      exact hexcused.step hkeeps.1 c hnamed hwatcher
    · cases o <;> exact hexcused
  | updateEnd hphase =>
    cases hphase
    exact h

namespace Gateway

variable {configPath : Path} {allowed : Gateway → Gateway → Prop}

/-- In a run in which a reload fails only where the files do not load, the last one did too. -/
lemma Reach.excused {g : Gateway} (h : Reach configPath allowed g)
    (hallowed : ∀ g g', allowed g g' → FailsUnloadable configPath g g') :
    ∀ w, g = .running w → w.Excused configPath := by
  induction h with
  | init =>
    intro w hw
    cases hw
  | @step g g' hg hstep h ih =>
    have hinv : g.Inv False configPath := Reach.inv (hg.mono fun _ _ _ => nofun)
    rintro w rfl
    cases hstep with
    | @spawn s runtime =>
      change Sys.Excused configPath true s
      exact Or.inr nofun
    | @change w _ hs =>
      have hw := ih w rfl
      obtain ⟨⟨sys, published⟩, phase, started, succeeded, valid⟩ := w
      cases phase with
      | waiting | updating => exact Sys.Excused.change hinv.named hinv.watcher hw hs
      | _ => trivial
    | @task w _ hw => exact hw.excused hinv (hallowed _ _ h) (ih w rfl)

variable {w : Watcher}

/-- A run of what is left of a reload. -/
lemma Reach.reloading {p : RtProg ReloadEnd} (choice : ℕ → Choice)
    (h : Reach configPath allowed (.running w)) (hphase : w.phase = .reloading p)
    (hop : ∀ (w w' : Watcher) {β : Type} (o : RtOp β) (k : β → RtProg ReloadEnd),
      w.phase = .reloading (.call o k) → allowed (.running w) (.running w')) :
    Reach configPath allowed (.running { w with
      rt := (p.run Rt.handle (fun n => ⟨id, choice n⟩) w.rt).2
      phase := .reloading (.ofExcept (p.run Rt.handle (fun n => ⟨id, choice n⟩) w.rt).1) }) := by
  induction p generalizing w choice with
  | ret result => exact hphase ▸ h
  | fail e => exact e.elim
  | call o k ih =>
    exact ih _ (fun n => choice (n + 1))
      (h.step (.task (.reloadOp (choice 0) hphase)) (hop _ _ o k hphase)) rfl

/-- Suppose that the files hold at the registration what the start has read, or that a watched file
has changed since; and that a reload fails only where the files do not load, or that the last one
was applied. Then wherever the queue is empty and the task waits, the published configuration is up
to date. -/
theorem Reach.up_to_date (h : Reach configPath allowed (.running w))
    (hread : (∀ g g', allowed g g' → Undisturbed g g') ∨ 0 < w.rt.sys.edits)
    (hfails : (∀ g g', allowed g g' → FailsUnloadable configPath g g') ∨ w.succeeded = true)
    (hsources : w.SourcesWatched configPath) (hphase : w.phase = .waiting)
    (hqueue : w.rt.sys.queue = []) : w.UpToDate configPath := by
  have hinv := Reach.inv (U := ∀ g g', allowed g g' → Undisturbed g g')
    (h.mono fun g g' hstep hU => hU g g' hstep)
  have hhears := hinv.hears
  have hserves := hinv.serves
  simp only [Watcher.Hears, Watcher.Serves, hphase] at hhears hserves
  have hquiet : ¬w.rt.sys.Pending := by simp [Sys.Pending, hqueue]
  obtain ⟨hstarted, hheard⟩ := hhears.resolve_left hquiet
  have hheard := hheard (hstarted ▸ hread)
  rw [Watcher.UpToDate]
  split
  next config hnow =>
    have hsucceeded : w.succeeded = true := by
      rcases hfails with hfails | hsucceeded
      · by_contra hfailed
        have hexcused := h.excused hfails w rfl
        simp only [Watcher.Excused, hphase] at hexcused
        exact hexcused.resolve_left hquiet (Bool.eq_false_iff.mpr hfailed)
          ⟨config, hnow, hsources.2 config hnow⟩
      · exact hsucceeded
    -- the last reload has read what the files hold now
    obtain ⟨config', hconfig, hload⟩ := hserves.loaded hsucceeded
    have hnow' := hload w.rt.sys fun e he hsource => hheard e he ?_
    · obtain rfl : config = config' := by rw [hnow] at hnow'; exact Except.ok.inj hnow'
      exact hserves.config.trans hconfig
    · rw [Sys.isWatched, hinv.watcher]
      rw [← hserves.config] at hsource
      rcases List.mem_cons.mp hsource with heq | hvhost
      · rw [heq]
        exact watched_self hinv.named
      · exact hsources.1 _ hvhost
  next => exact hserves.config

end Gateway

end Start

/-! ### A change in between -/

/-- The configuration of the small gateway with another address. -/
def movedToml : String := "[server]\nbind=\"0.0.0.0:25566\"\n[routing.lines.default]\nhost=\"mc\"\n"

def movedTable : Toml.Table :=
  [("server", .table [("bind", .string "0.0.0.0:25566")]),
   ("routing", .table [("lines", .table [("default", .table [("host", .string "mc")])])])]

@[reducible] def movedParse : Toml.Parse where
  fromStr text := if text = movedToml then some movedTable else torParse.fromStr text

/-- The configuration file is changed right after the start has read it. -/
def movedMoves (n : ℕ) : Prog.Move Choice Sys where
  interfere := if n = 2 then fun s => s.set torPath (some (asBytes movedToml)) else id
  choice := .calm

section Moved

attribute [local instance] noXdb dottedParse asciiCase movedParse noBuiltin httpsUrl

/-- The small gateway when it starts to serve. -/
def movedServing : Option Rt :=
  match (main torPath).run Sys.handle movedMoves torGateway with
  | (.ok (.running runtime), s) => some ⟨s, runtime⟩
  | _ => none

lemma reach_movedServing {t : Rt} (h : movedServing = some t)
    {allowed : Gateway → Gateway → Prop} (hallowed : ∀ s rest g, allowed (.starting s rest) g) :
    Gateway.Reach torPath allowed (.running (.spawned t.sys t.published)) := by
  have hstart : Gateway.Reach torPath allowed (.starting torGateway (main torPath)) :=
    .init ⟨rfl, rfl, rfl, rfl⟩
  have hmain := hstart.run (m := movedMoves) (fun n s => by
    rw [movedMoves]
    dsimp only
    split
    · exact .single (.edit s torPath _)
    · exact .refl) (fun _ _ => hallowed _ _ _) fun _ _ _ _ => hallowed _ _ _
  unfold movedServing at h
  split at h
  · rename_i runtime s hrun
    obtain rfl := Option.some.inj h
    rw [hrun] at hmain
    exact hmain.step .spawn (hallowed _ _ _)
  · cases h

/-- The address that is published and the one the configuration file asks for. No event waits, and
there are no virtual hosts. -/
def movedBinds (t : Rt) : Option (String × String) :=
  match AppConfig.loadNow torPath t.sys with
  | .ok config =>
    if t.sys.queue.isEmpty && (t.published.config.vhostFiles torPath).isEmpty &&
      (config.vhostFiles torPath).isEmpty then
      some (t.published.config.server.bind, config.server.bind)
    else none
  | .error _ => none

lemma movedBinds_eq_some {t : Rt} {binds : String × String} (h : movedBinds t = some binds) :
    t.sys.queue = [] ∧ (∀ w : Watcher, w.rt = t → w.SourcesWatched torPath) ∧
      ∃ config, AppConfig.loadNow torPath t.sys = .ok config ∧
        binds = (t.published.config.server.bind, config.server.bind) := by
  unfold movedBinds at h
  split at h
  next config hnow =>
    split at h
    next hquiet =>
      simp only [Bool.and_eq_true, List.isEmpty_iff] at hquiet
      obtain ⟨⟨hqueue, hpublished⟩, hvhosts⟩ := hquiet
      refine ⟨hqueue, ?_, config, hnow, (Option.some.inj h).symm⟩
      rintro w rfl
      refine ⟨.of_isEmpty (List.isEmpty_iff.mpr hpublished), fun config' hnow' => ?_⟩
      obtain rfl : config = config' := by rw [hnow] at hnow'; exact Except.ok.inj hnow'
      exact .of_isEmpty (List.isEmpty_iff.mpr hvhosts)
    next => cases h
  next => cases h

/-- The file is saved once more, the task hears of it, and a reload begins. -/
def Watcher.resaved (t : Rt) : Watcher :=
  ({ (((Watcher.spawned t.sys t.published).withSys
    (t.sys.set torPath (some (asBytes movedToml)))).received []) with
      phase := .draining }).reload torPath

/-- That reload. -/
def movedReload (t : Rt) : ReloadEnd × Rt :=
  let r := (reloadConfig torPath).run Rt.handle (fun _ => ⟨id, .calm⟩) (Watcher.resaved t).rt
  (valueOf r.1, r.2)

private lemma movedServing_binds : (movedServing.any fun t =>
    movedBinds t == some ("0.0.0.0:25565", "0.0.0.0:25566") && t.sys.isWatched torPath &&
      movedBinds (movedReload t).2 == some ("0.0.0.0:25566", "0.0.0.0:25566") &&
      decide (0 < (movedReload t).2.sys.edits) && (movedReload t).1.isApplied) = true := by
  decide +kernel

/-- The change to the configuration file is lost: the gateway waits for an event, and serves with
the old address. -/
theorem stale_after_start :
    ¬∀ (configPath : Path) (w : Watcher), Gateway.Reach configPath (fun _ _ => True) (.running w) →
      w.SourcesWatched configPath → w.phase = .waiting → w.rt.sys.queue = [] →
      w.UpToDate configPath := by
  intro hall
  obtain ⟨t, ht, hbinds⟩ := (Option.any_eq_true _ _).mp movedServing_binds
  simp only [Bool.and_eq_true, beq_iff_eq] at hbinds
  obtain ⟨hqueue, hsources, config, hnow, hmoved⟩ := movedBinds_eq_some hbinds.1.1.1.1
  have hup := hall torPath _ (reach_movedServing ht fun _ _ _ => trivial) (hsources _ rfl) rfl
    hqueue
  simp only [Watcher.UpToDate, Watcher.spawned, hnow] at hup
  rw [hup] at hmoved
  obtain ⟨hbind, hbind'⟩ := Prod.mk.inj hmoved
  exact absurd (hbind.trans hbind'.symm) (by decide)

/-- The configuration file is changed before the registration and saved once more after it, and the
address of the small gateway is the new one. -/
theorem Gateway.Reach.up_to_date_moved :
    ∃ w : Watcher, Gateway.Reach torPath (Gateway.FailsUnloadable torPath) (.running w) ∧
      0 < w.rt.sys.edits ∧ w.rt.published.config.server.bind = "0.0.0.0:25566" ∧
      w.phase = .waiting ∧ w.rt.sys.queue = [] ∧ w.UpToDate torPath := by
  obtain ⟨t, ht, hbinds⟩ := (Option.any_eq_true _ _).mp movedServing_binds
  simp only [Bool.and_eq_true, beq_iff_eq, decide_eq_true_eq] at hbinds
  obtain ⟨⟨⟨⟨hserving, hwatched⟩, hreloaded⟩, hedits⟩, happlied⟩ := hbinds
  have hspawned : Gateway.Reach torPath (Gateway.FailsUnloadable torPath)
      (.running (.spawned t.sys t.published)) := reach_movedServing ht fun _ _ _ => trivial
  have hqueue := (movedBinds_eq_some hserving).1
  have hevent : (t.sys.set torPath (some (asBytes movedToml))).queue = .configChanged :: [] := by
    simp [Sys.set, hqueue, hwatched]
  have hreading : Gateway.Reach torPath (Gateway.FailsUnloadable torPath)
      (.running (Watcher.resaved t)) :=
    (((hspawned.step (.change (.edit _ torPath (some (asBytes movedToml)))) (by rintro _ ⟨⟩)).step
      (.task (.change rfl hevent)) (by rintro _ ⟨⟩)).step (.task (.debounced rfl))
        (by rintro _ ⟨⟩)).step (.task (.drained rfl rfl)) (by rintro _ ⟨⟩)
  have hread := hreading.reloading (fun _ => .calm) rfl fun w w' β o k hphase result hret => by
    rw [hphase] at hret
    cases hret
  have hresult := eq_ok_valueOf ((reloadConfig torPath).run Rt.handle (fun _ => ⟨id, .calm⟩)
    (Watcher.resaved t).rt).1
  rw [hresult] at hread
  have hended := hread.step (.task (.reloadEnd rfl)) fun result hret _ hfailed => by
    cases hret
    exact absurd happlied (by simp [movedReload, hfailed])
  -- what the reload leaves
  generalize hw : Watcher.reloaded _ _ = w at hended
  have hrt : w.rt = (movedReload t).2 := by
    rw [← hw, Watcher.reloaded_rt]
    rfl
  have hphase : w.phase = .waiting := hw ▸ Watcher.reloaded_phase ..
  rw [← hrt] at hreloaded hedits
  obtain ⟨hqueue, hsources, config, -, hbind⟩ := movedBinds_eq_some hreloaded
  exact ⟨w, hended, hedits, (Prod.mk.inj hbind).1.symm, hphase, hqueue,
    hended.up_to_date (.inr hedits) (.inl fun _ _ h => h) (hsources w rfl) hphase hqueue⟩

end Moved

end TransferGateway
