import TransferGateway.Runtime.Watcher

/-!
# The timers

The watcher task has a timer for each of its update jobs. The first deadlines are those of `sleep`,
which takes a far one where the sum is too large. Later ones are sums of an instant and a delay, and
such a sum panics. The clock and the timers are laid over the watcher.
-/

namespace TransferGateway

/-! ### Instants -/

/-- An instant of a clock that runs, in whole seconds: a number of 64 bits with a sign. -/
structure Instant where
  secs : ℕ
  pos : 0 < secs
  bound : secs < 2 ^ 63

namespace Instant

instance : LE Instant := ⟨fun a b => a.secs ≤ b.secs⟩

/-- The sum with a `Duration`, which panics where there is none. -/
def checkedAdd (now : Instant) (secs : ℕ) : Option Instant :=
  if h : now.secs + secs < 2 ^ 63 then some ⟨now.secs + secs, Nat.add_pos_left now.pos _, h⟩
  else none

lemma checkedAdd_eq_none {now : Instant} {secs : ℕ} :
    now.checkedAdd secs = none ↔ ¬secs < 2 ^ 63 - now.secs := by
  rw [checkedAdd]
  split
  · simp
    omega
  · simp
    omega

lemma checkedAdd_secs {now sum : Instant} {secs : ℕ} (h : now.checkedAdd secs = some sum) :
    sum.secs = now.secs + secs := by
  rw [checkedAdd] at h
  split at h
  · cases h
    rfl
  · cases h

end Instant

section Delays

variable [Xdb]

/-! ### Delays -/

def DISABLED_UPDATE_RETRY : ℕ := 60 * 60

def nextUpdateDelay (autoUpdate : Bool) (updateIntervalSecs : ℕ) : ℕ :=
  if autoUpdate then updateIntervalSecs else DISABLED_UPDATE_RETRY

def nextIp2regionUpdateDelay (state : RuntimeState) : ℕ :=
  nextUpdateDelay state.config.ip2region.autoUpdate state.config.ip2region.updateIntervalSecs

def nextSecurityUpdateDelay (state : RuntimeState) : ℕ :=
  nextUpdateDelay state.config.security.autoUpdate state.config.security.updateIntervalSecs

inductive Timer where
  | ip2region
  | security
deriving DecidableEq

namespace Timer

def nextDelay : Timer → RuntimeState → ℕ
  | ip2region => nextIp2regionUpdateDelay
  | security  => nextSecurityUpdateDelay

def autoUpdate : Timer → AppConfig → Bool
  | ip2region, config => config.ip2region.autoUpdate
  | security, config  => config.security.autoUpdate

def updateIntervalSecs : Timer → AppConfig → ℕ
  | ip2region, config => config.ip2region.updateIntervalSecs
  | security, config  => config.security.updateIntervalSecs

/-- The seconds that are left on the clock are more than the interval of a job that is on, or more
than the retry of one that is not. -/
def Fits (timer : Timer) (config : AppConfig) (now : Instant) : Prop :=
  if timer.autoUpdate config then timer.updateIntervalSecs config < 2 ^ 63 - now.secs
  else DISABLED_UPDATE_RETRY < 2 ^ 63 - now.secs

lemma nextDelay_eq (timer : Timer) (state : RuntimeState) :
    timer.nextDelay state =
      nextUpdateDelay (timer.autoUpdate state.config) (timer.updateIntervalSecs state.config) := by
  cases timer <;> rfl

lemma checkedAdd_nextDelay (timer : Timer) (state : RuntimeState) (now : Instant) :
    now.checkedAdd (timer.nextDelay state) = none ↔ ¬timer.Fits state.config now := by
  rw [Instant.checkedAdd_eq_none, nextDelay_eq, nextUpdateDelay, Fits]
  split <;> rfl

end Timer

end Delays

section Task

variable [Xdb] [StdParse] [StdCase] [Toml.Parse] [Builtin] [UrlParse]

/-! ### The task and its clock -/

def Timer.update : Timer → RtProg CycleEnd
  | ip2region => updateIp2region
  | security  => updateSecurity

/-- The watcher, the clock and the timers: the job that is served last, and the timers that are to
be set before the next `select!`. -/
structure Timed : Type 1 where
  watcher : Watcher
  now : Instant
  deadline : Timer → Instant
  serving : Timer
  toSet : List Timer

/-- No job begins between these phases, and none ends. -/
def Phase.Quiet : Phase → Phase → Prop
  | .waiting, .updating _   => False
  | .reloading _, .waiting  => False
  | .updating _, .waiting   => False
  | _, _                    => True

namespace Timed

/-- The task as it is spawned: a sum that is too large is replaced by an instant far away. -/
def spawned (s : Sys) (runtime : RuntimeState) (now far : Instant) : Timed where
  watcher := .spawned s runtime
  now := now
  deadline timer := (now.checkedAdd (timer.nextDelay runtime)).getD far
  serving := .ip2region
  toSet := []

/-- A timer is set for the state that is published; the sum may panic. -/
def set (t : Timed) (timer : Timer) (rest : List Timer) : Option Timed :=
  (t.now.checkedAdd (timer.nextDelay t.watcher.rt.published)).map fun deadline =>
    { t with deadline := Function.update t.deadline timer deadline, toSet := rest }

/-- The next timer that is to be set fits on the clock. -/
def Fits (t : Timed) : Prop :=
  ∀ timer ∈ t.toSet.head?, timer.Fits t.watcher.rt.published.config t.now

end Timed

/-- One step of the clock, of a writer or of the task; there is no state after a panic. -/
inductive Timed.Step (configPath : Path) : Timed → Option Timed → Prop where
  | tick {t : Timed} {now : Instant} (h : t.now ≤ now) : Step configPath t (some { t with now })
  | change {t : Timed} {s' : Sys} (h : t.watcher.rt.sys.Change s') :
      Step configPath t (some { t with watcher := t.watcher.withSys s' })
  | task {t : Timed} {w' : Watcher} (hset : t.toSet = []) (h : t.watcher.Step configPath w')
      (hquiet : t.watcher.phase.Quiet w'.phase) : Step configPath t (some { t with watcher := w' })
  | fire {t : Timed} (timer : Timer) (hset : t.toSet = []) (hphase : t.watcher.phase = .waiting)
      (hdue : t.deadline timer ≤ t.now) :
      Step configPath t (some { t with
        watcher := { t.watcher with phase := .updating timer.update }
        serving := timer })
  | reloadEnd {t : Timed} {result : ReloadEnd}
      (hphase : t.watcher.phase = .reloading (.ret result)) :
      Step configPath t (some { t with
        watcher := t.watcher.reloaded result
        toSet := [.ip2region, .security] })
  | updateEnd {t : Timed} {result : CycleEnd}
      (hphase : t.watcher.phase = .updating (.ret result)) :
      Step configPath t (some { t with
        watcher := { t.watcher with phase := .waiting }
        toSet := [t.serving] })
  | set {t : Timed} {timer : Timer} {rest : List Timer} (hset : t.toSet = timer :: rest) :
      Step configPath t (t.set timer rest)

/-- What the task can come to in steps from states that all satisfy `allowed`. -/
inductive Timed.Reach (configPath : Path) (allowed : Timed → Prop) : Option Timed → Prop where
  | spawn {s : Sys} {runtime : RuntimeState} (now far : Instant)
      (h : Gateway.Reach configPath (fun _ _ => True) (.starting s (.ret (.running runtime)))) :
      Reach configPath allowed (some (.spawned s runtime now far))
  | step {t : Timed} {t' : Option Timed} (h : Reach configPath allowed (some t))
      (hstep : t.Step configPath t') (hallowed : allowed t) : Reach configPath allowed t'

/-! ### The configurations are loaded -/

variable {configPath : Path}

omit [Xdb] [StdParse] [Builtin] in
lemma wp_load_loaded (s : Sys) :
    (AppConfig.load configPath).wp Sys.handle writers
      (Prog.onOk fun config _ => config.Loaded) s := by
  rw [Prog.wp_iff_outcome]
  intro r s' hout
  cases r with
  | error e => trivial
  | ok config => exact ⟨configPath, writers, s, s', hout⟩

lemma wp_load_hasLoaded {config : AppConfig} (h : config.Loaded) (s : Sys) :
    (RuntimeState.load config configPath).wp Sys.handle writers
      (Prog.onOk fun runtime _ => runtime.HasLoaded) s := by
  apply Prog.wp_onOk_mono (RuntimeState.wp_load_config config configPath s)
  intro runtime _ hconfig
  exact ⟨config, configPath, h, hconfig⟩

/-- What `main` serves with was loaded. -/
lemma wp_main_hasLoaded (s : Sys) :
    (main configPath).wp Sys.handle writers (Prog.onOk fun started _ => ∀ runtime,
      started = .running runtime → runtime.HasLoaded) s := by
  have hstable (runtime : RuntimeState) : Stable writers fun _ => runtime.HasLoaded :=
    ⟨fun _ => id, id⟩
  apply wp_main_running (P := fun config _ => config.Loaded) (L := fun config _ => config.Loaded)
    hstable hstable wp_load_loaded
  · intro config s₁ h₁
    exact Prog.wp_onOk_mono (Prog.wp_onOk_true _ s₁) fun _ _ _ => h₁
  · intro config s₁ h₁
    exact wp_load_hasLoaded h₁ s₁
  · intro runtime s₁ h₁
    exact Prog.wp_onOk_mono (Prog.wp_onOk_true _ s₁) fun _ _ _ => h₁

/-- What a reload publishes was loaded. -/
lemma wp_reloadConfig_hasLoaded (t : Rt) :
    (reloadConfig configPath).wp Rt.handle (Rt.env writers)
      (fun r _ => ∀ next, r = .ok (.applied next) → next.HasLoaded) t := by
  apply Prog.wp_mono (wp_reloadConfig (E := writers) (t := t) (B := fun _ => True)
    (P := fun config _ => config.Loaded) (N := fun next _ => next.HasLoaded)
    (A := fun next _ => next.HasLoaded) ⟨fun _ _ => trivial, fun _ => trivial⟩
    (fun _ => ⟨fun _ => id, id⟩) ?_ ?_ ?_ trivial)
  · rintro r t' hr next rfl
    exact hr.2
  · intro s _
    apply Prog.wp_mono (wp_load_loaded s)
    intro r s' hr
    cases r <;> exact hr
  · intro config s hconfig
    apply Prog.wp_mono (wp_load_hasLoaded hconfig s)
    intro r s' hr
    cases r <;> exact hr
  · intro next s hnext
    apply Prog.wp_mono (Prog.wp_onOk_true _ s)
    intro r s' _
    cases r with
    | error e => trivial
    | ok _ => exact hnext

/-- The last valid state was loaded, and what a reload will publish. -/
structure Watcher.FromLoads (w : Watcher) : Prop where
  valid : w.valid.HasLoaded
  reload : ∀ rest, w.phase = .reloading rest → rest.wp Rt.handle (Rt.env writers)
    (fun r _ => ∀ next, r = .ok (.applied next) → next.HasLoaded) w.rt

lemma Watcher.FromLoads.step {w w' : Watcher} (hstep : w.Step configPath w') (h : w.FromLoads) :
    w'.FromLoads := by
  have hother : ∀ {w' : Watcher}, w'.valid = w.valid → (∀ rest, w'.phase ≠ .reloading rest) →
      w'.FromLoads := by
    intro w' hvalid hphase
    exact ⟨hvalid ▸ h.valid, fun rest hrest => absurd hrest (hphase rest)⟩
  cases hstep with
  | change hphase hqueue | debounced hphase | ip2regionTimer hphase | securityTimer hphase
  | updateOp c hphase | updateEnd hphase => exact hother rfl (by simp)
  | error hphase hqueue => exact hother rfl fun rest hrest => by cases hphase.symm.trans hrest
  | @drain message rest hphase hqueue =>
    cases message with
    | _ => exact hother rfl fun rest hrest => by cases hphase.symm.trans hrest
  | drained hphase hqueue =>
    refine ⟨h.valid, fun rest hrest => ?_⟩
    cases hrest
    exact wp_reloadConfig_hasLoaded _
  | @reloadOp β o k c hphase =>
    refine ⟨h.valid, fun rest hrest => ?_⟩
    cases hrest
    exact h.reload _ hphase _ ⟨.refl, rfl⟩ c trivial
  | @reloadEnd result hphase =>
    have hresult := h.reload _ hphase
    cases result with
    | applied next =>
      refine ⟨hresult next rfl, fun rest hrest => ?_⟩
      cases hrest
    | _ => exact hother rfl (by simp [Watcher.reloaded])

omit [StdParse] [Builtin] in
lemma Watcher.FromLoads.change {w : Watcher} {s' : Sys} (hs : w.rt.sys.Change s')
    (h : w.FromLoads) : (w.withSys s').FromLoads := by
  refine ⟨h.valid, fun rest hrest => ?_⟩
  exact Prog.wp_stable Rt.writers_trans (fun _ _ _ hr _ => hr) (h.reload rest hrest)
    ⟨.single hs, rfl⟩

/-- The same of the program. -/
def Gateway.FromLoads : Gateway → Prop
  | .starting s rest => rest.wp Sys.handle writers (Prog.onOk fun started _ => ∀ runtime,
      started = .running runtime → runtime.HasLoaded) s
  | .exited _        => True
  | .running w       => w.FromLoads

lemma Gateway.Reach.fromLoads {allowed : Gateway → Gateway → Prop} {g : Gateway}
    (h : Reach configPath allowed g) : g.FromLoads := by
  induction h with
  | init hs => exact wp_main_hasLoaded _
  | step _ hstep _ ih =>
    cases hstep with
    | startOp c => exact ih _ .refl c trivial
    | startFailed | firstRun => trivial
    | spawn =>
      refine ⟨ih _ rfl, fun rest hrest => ?_⟩
      cases hrest
    | startChange hs =>
      refine Prog.wp_stable Relation.ReflTransGen.trans (fun r _ _ hr _ => ?_) ih (.single hs)
      cases r <;> exact hr
    | change hs => exact Watcher.FromLoads.change hs ih
    | task hw => exact Watcher.FromLoads.step hw ih

/-! ### No panic -/

namespace Timed

variable {allowed : Timed → Prop} {t t' : Timed}

/-- The clock and the timers are laid over the watcher: only its own steps change it. -/
lemma Step.watcher (h : t.Step configPath (some t')) : t'.watcher = t.watcher ∨
    Gateway.Step configPath (.running t.watcher) (.running t'.watcher) := by
  generalize hx : some t' = x at h
  cases h with
  | tick h =>
    cases hx
    exact .inl rfl
  | change h =>
    cases hx
    exact .inr (.change h)
  | task hset h hquiet =>
    cases hx
    exact .inr (.task h)
  | fire timer hset hphase hdue =>
    cases hx
    right
    cases timer with
    | ip2region => exact .task (.ip2regionTimer hphase)
    | security => exact .task (.securityTimer hphase)
  | reloadEnd hphase =>
    cases hx
    exact .inr (.task (.reloadEnd hphase))
  | updateEnd hphase =>
    cases hx
    exact .inr (.task (.updateEnd hphase))
  | set hset =>
    obtain ⟨deadline, -, rfl⟩ := Option.map_eq_some_iff.mp hx.symm
    exact .inl rfl

lemma Reach.watched (h : Reach configPath allowed (some t)) :
    Gateway.Reach configPath (fun _ _ => True) (.running t.watcher) := by
  generalize hx : some t = x at h
  induction h generalizing t with
  | spawn now far h =>
    cases hx
    exact h.step .spawn trivial
  | step _ hstep _ ih =>
    subst hx
    obtain heq | hwatcher := hstep.watcher
    · rw [heq]
      exact ih rfl
    · exact (ih rfl).step hwatcher trivial

/-- Timers are set while the task waits. -/
lemma Reach.waiting (h : Reach configPath allowed (some t)) (hset : t.toSet ≠ []) :
    t.watcher.phase = .waiting := by
  generalize hx : some t = x at h
  induction h generalizing t with
  | spawn now far h =>
    cases hx
    exact absurd rfl hset
  | @step t₀ _ _ hstep _ ih =>
    cases hstep with
    | tick h | change h =>
      cases hx
      exact ih (t := t₀) hset rfl
    | task hempty h hquiet =>
      cases hx
      exact absurd hempty hset
    | fire timer hempty hphase hdue =>
      cases hx
      exact absurd hempty hset
    | @reloadEnd result hphase =>
      cases hx
      cases result <;> rfl
    | updateEnd hphase =>
      cases hx
      rfl
    | set hset' =>
      obtain ⟨deadline, -, rfl⟩ := Option.map_eq_some_iff.mp hx.symm
      exact ih (t := t₀) (by simp [hset']) rfl

/-- Timers are set for a configuration that was loaded. -/
lemma Reach.hasLoaded (h : Reach configPath allowed (some t)) (hset : t.toSet ≠ []) :
    t.watcher.rt.published.HasLoaded := by
  have hinv : t.watcher.Inv False configPath :=
    Gateway.Reach.inv (h.watched.mono fun _ _ _ => nofun)
  have hserves := hinv.serves
  simp only [Watcher.Serves, h.waiting hset] at hserves
  obtain ⟨config, path, hloaded, hconfig⟩ := (Gateway.Reach.fromLoads h.watched).valid
  exact ⟨config, path, hloaded, hserves.config.trans hconfig⟩

/-- The task panics when it sets a timer that does not fit, and nowhere else. -/
lemma step_none_iff : t.Step configPath none ↔ ¬t.Fits := by
  constructor
  · intro h
    generalize hx : none = x at h
    cases h with
    | @set timer rest hset =>
      have hnone := (Timer.checkedAdd_nextDelay _ _ _).mp (Option.map_eq_none_iff.mp hx.symm)
      intro hfits
      exact hnone (hfits timer (by simp [hset]))
    | _ => cases hx
  · intro h
    cases hset : t.toSet with
    | nil => exact absurd (by simp [Fits, hset]) h
    | cons timer rest =>
      have hnot : ¬timer.Fits t.watcher.rt.published.config t.now := by
        intro hfits
        exact h (by simpa [Fits, hset] using hfits)
      have hnone : t.set timer rest = none :=
        Option.map_eq_none_iff.mpr ((Timer.checkedAdd_nextDelay _ _ _).mpr hnot)
      exact hnone ▸ .set hset

/-- A deadline overflows if and only if its timer does not fit on the clock. The task never panics
where every timer fits when it is set, which is for a loaded configuration; where one does not, it
panics. -/
theorem Reach.panics_iff (configPath : Path) :
    (∀ (state : RuntimeState) (now : Instant) (timer : Timer),
        now.checkedAdd (timer.nextDelay state) = none ↔ ¬timer.Fits state.config now) ∧
      ¬Reach configPath Timed.Fits none ∧
      ∀ t, Reach configPath (fun _ => True) (some t) →
        (t.toSet ≠ [] → t.watcher.rt.published.HasLoaded) ∧
          (t.Step configPath none ↔ ¬t.Fits) := by
  refine ⟨fun state now timer => timer.checkedAdd_nextDelay state now, ?_, ?_⟩
  · intro h
    generalize hx : none = x at h
    cases h with
    | spawn now far h => cases hx
    | step h hstep hfits =>
      subst hx
      exact step_none_iff.mp hstep hfits
  · intro t h
    exact ⟨h.hasLoaded, step_none_iff⟩

end Timed

end Task

/-! ### The longest interval -/

/-- The configuration of the small gateway, with the longest interval a file can ask for. -/
def longToml : String :=
  "[server]\n[ip2region]\nauto_update=true\nupdate_interval_secs=9223372036854775807\n" ++
    "[security]\nblock_vpn=false\nblock_spam=false\n[routing.lines.default]\nhost=\"mc\"\n"

def longTable : Toml.Table :=
  [("server", .table []),
   ("ip2region", .table [("auto_update", .boolean true),
     ("update_interval_secs", .integer 9223372036854775807)]),
   ("security", .table [("block_vpn", .boolean false), ("block_spam", .boolean false)]),
   ("routing", .table [("lines", .table [("default", .table [("host", .string "mc")])])])]

@[reducible] def longParse : Toml.Parse where
  fromStr text := if text = longToml then some longTable else torParse.fromStr text

def longGateway : Sys := torGateway.set torPath (some (asBytes longToml))

section Long

attribute [local instance] noXdb dottedParse asciiCase longParse noBuiltin httpsUrl

private lemma longGateway_quiet :
    let r := (main torPath).run Sys.handle (fun _ => ⟨id, .calm⟩) longGateway
    ((Started.state r.1).any fun runtime =>
      runtime.config.ip2region.autoUpdate &&
        (runtime.config.ip2region.updateIntervalSecs == 2 ^ 63 - 1) &&
        r.2.queue.isEmpty) = true := by
  decide +kernel

private lemma long_starts : ∃ s runtime,
    Gateway.Reach torPath (fun _ _ => True) (.starting s (.ret (.running runtime))) ∧ s.queue = [] ∧
      runtime.config.ip2region.autoUpdate = true ∧
      runtime.config.ip2region.updateIntervalSecs = 2 ^ 63 - 1 := by
  have hstart : Gateway.Reach torPath (fun _ _ => True) (.starting longGateway (main torPath)) :=
    .init ⟨rfl, rfl, rfl, rfl⟩
  have hmain := hstart.run (m := fun _ => ⟨id, .calm⟩) (fun _ _ => .refl) (fun _ _ => trivial)
    fun _ _ _ _ => trivial
  obtain ⟨runtime, hruntime, hquiet⟩ := (Option.any_eq_true _ _).mp longGateway_quiet
  simp only [Bool.and_eq_true, beq_iff_eq, List.isEmpty_iff] at hquiet
  rw [Started.state_eq_some hruntime] at hmain
  exact ⟨_, runtime, hmain, hquiet.2, hquiet.1⟩

/-- The configuration file is removed a second after the clock began to run. The reload fails, and
to set the timer again panics. -/
theorem Timed.Reach.overflow :
    ∃ t : Timed, Timed.Reach torPath (fun _ => True) (some t) ∧
      t.watcher.rt.published.HasLoaded ∧ t.now.secs = 1 ∧
      t.now.checkedAdd (nextIp2regionUpdateDelay t.watcher.rt.published) = none ∧
      Timed.Reach torPath (fun _ => True) none := by
  obtain ⟨s, runtime, hstarted, hqueue, hauto, hinterval⟩ := long_starts
  have hspawned : Timed.Reach torPath (fun _ => True)
      (some (.spawned s runtime ⟨1, by decide, by decide⟩ ⟨2, by decide, by decide⟩)) :=
    .spawn _ _ hstarted
  have hwatcher : s.watcher = some torPath :=
    ((hspawned.watched).quiescent rfl hqueue).1
  have hevent : (s.set torPath none).queue = [.configChanged] := by
    have hwatched : s.isWatched torPath = true := by
      rw [Sys.isWatched, hwatcher]
      exact watched_self rfl
    simp [Sys.set, hqueue, hwatched]
  have hreading := (((hspawned.step (.change (.edit s torPath none)) trivial).step
    (.task rfl (.change rfl hevent) trivial) trivial).step
    (.task rfl (.debounced rfl) trivial) trivial).step
    (.task rfl (.drained rfl rfl) trivial) trivial
  -- the file cannot be read, and the failure is logged
  have hfailed := (((hreading.step (.task rfl (.reloadOp .calm rfl) trivial) trivial).step
    (.task rfl (.reloadOp { Choice.calm with fault := some notFound } rfl) trivial) trivial).step
    (.task rfl (.reloadOp .calm rfl) trivial) trivial).step (.reloadEnd rfl) trivial
  have hnone : Instant.checkedAdd ⟨1, by decide, by decide⟩ (nextIp2regionUpdateDelay runtime) =
      none := by
    rw [nextIp2regionUpdateDelay, hauto, hinterval]
    rfl
  refine ⟨_, hfailed, hfailed.hasLoaded (by simp), rfl, hnone, ?_⟩
  apply hfailed.step _ trivial
  rw [Timed.step_none_iff]
  intro hfits
  exact (Timer.checkedAdd_nextDelay .ip2region runtime _).mp hnone (hfits .ip2region rfl)

end Long

end TransferGateway
