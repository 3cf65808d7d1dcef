import TransferGateway.Runtime.Writers

/-!
# The watcher task

The program from its start on, one operation at a time, with writers that change files at any
moment in between. A selected branch takes one message or none, so none is lost at a `select!`.

The record of a running watcher carries three fields the program does not have: how often watched
files had changed when the last reload began to read, whether that reload was applied, and the
state that the last applied reload, or the start, loaded.
-/

namespace TransferGateway

/-! ### The task -/

section Task

variable [Xdb] [StdParse] [StdCase] [Toml.Parse] [Builtin] [UrlParse]

/-- Where the task is in its loop; a job is what is left of it. -/
inductive Phase : Type 1 where
  | waiting
  | debouncing
  | draining
  | reloading (rest : RtProg ReloadEnd)
  | updating (rest : RtProg CycleEnd)

structure Watcher : Type 1 where
  rt : Rt
  phase : Phase
  started : ℕ
  succeeded : Bool
  valid : RuntimeState

/-- The program: what is left of `main`, or the watcher task. -/
inductive Gateway : Type 1 where
  | starting (s : Sys) (rest : SysProg Started)
  | exited (s : Sys)
  | running (w : Watcher)

namespace Watcher

/-- The watcher with another system. -/
def withSys (w : Watcher) (s : Sys) : Watcher := { w with rt := { w.rt with sys := s } }

/-- The watcher with a message less. -/
def received (w : Watcher) (rest : List WatchMessage) : Watcher :=
  w.withSys { w.rt.sys with queue := rest }

/-- A message about an error is logged. -/
def logged (w : Watcher) : WatchMessage → Watcher
  | .configChanged => w
  | .error message => w.withSys { w.rt.sys with log := (.warn, message) :: w.rt.sys.log }

/-- The task as it is spawned. -/
def spawned (s : Sys) (runtime : RuntimeState) : Watcher where
  rt := ⟨s, runtime⟩
  phase := .waiting
  started := 0
  succeeded := true
  valid := runtime

/-- A reload begins to read. -/
def reload (w : Watcher) (configPath : Path) : Watcher :=
  { w.withSys { w.rt.sys with seen := [] } with
    phase := .reloading (reloadConfig configPath)
    started := w.rt.sys.edits }

/-- A reload is over. -/
def reloaded (w : Watcher) : ReloadEnd → Watcher
  | .applied next => { w with phase := .waiting, succeeded := true, valid := next }
  | _             => { w with phase := .waiting, succeeded := false }

end Watcher

/-- One step of the task. -/
inductive Watcher.Step (configPath : Path) : Watcher → Watcher → Prop where
  | change {w : Watcher} {rest : List WatchMessage} (hphase : w.phase = .waiting)
      (hqueue : w.rt.sys.queue = .configChanged :: rest) :
      Step configPath w { w.received rest with phase := .debouncing }
  | error {w : Watcher} {message : String} {rest : List WatchMessage}
      (hphase : w.phase = .waiting) (hqueue : w.rt.sys.queue = .error message :: rest) :
      Step configPath w ((w.received rest).logged (.error message))
  | ip2regionTimer {w : Watcher} (hphase : w.phase = .waiting) :
      Step configPath w { w with phase := .updating updateIp2region }
  | securityTimer {w : Watcher} (hphase : w.phase = .waiting) :
      Step configPath w { w with phase := .updating updateSecurity }
  | debounced {w : Watcher} (hphase : w.phase = .debouncing) :
      Step configPath w { w with phase := .draining }
  | drain {w : Watcher} {message : WatchMessage} {rest : List WatchMessage}
      (hphase : w.phase = .draining) (hqueue : w.rt.sys.queue = message :: rest) :
      Step configPath w ((w.received rest).logged message)
  | drained {w : Watcher} (hphase : w.phase = .draining) (hqueue : w.rt.sys.queue = []) :
      Step configPath w (w.reload configPath)
  | reloadOp {w : Watcher} {β : Type} {o : RtOp β} {k : β → RtProg ReloadEnd} (c : Choice)
      (hphase : w.phase = .reloading (.call o k)) :
      Step configPath w
        { w with rt := (w.rt.step o c).2, phase := .reloading (k (w.rt.step o c).1) }
  | reloadEnd {w : Watcher} {result : ReloadEnd} (hphase : w.phase = .reloading (.ret result)) :
      Step configPath w (w.reloaded result)
  | updateOp {w : Watcher} {β : Type} {o : RtOp β} {k : β → RtProg CycleEnd} (c : Choice)
      (hphase : w.phase = .updating (.call o k)) :
      Step configPath w
        { w with rt := (w.rt.step o c).2, phase := .updating (k (w.rt.step o c).1) }
  | updateEnd {w : Watcher} {result : CycleEnd} (hphase : w.phase = .updating (.ret result)) :
      Step configPath w { w with phase := .waiting }

/-- One step of the program or of a writer. -/
inductive Gateway.Step (configPath : Path) : Gateway → Gateway → Prop where
  | startOp {s : Sys} {β : Type} {o : SysOp β} {k : β → SysProg Started} (c : Choice) :
      Step configPath (.starting s (.call o k)) (.starting (s.step o c).2 (k (s.step o c).1))
  | startFailed {s : Sys} {e : String} : Step configPath (.starting s (.fail e)) (.exited s)
  | firstRun {s : Sys} {message : String} :
      Step configPath (.starting s (.ret (.firstRun message))) (.exited s)
  | spawn {s : Sys} {runtime : RuntimeState} :
      Step configPath (.starting s (.ret (.running runtime))) (.running (.spawned s runtime))
  | startChange {s s' : Sys} {rest : SysProg Started} (h : s.Change s') :
      Step configPath (.starting s rest) (.starting s' rest)
  | change {w : Watcher} {s' : Sys} (h : w.rt.sys.Change s') :
      Step configPath (.running w) (.running (w.withSys s'))
  | task {w w' : Watcher} (h : w.Step configPath w') :
      Step configPath (.running w) (.running w')

/-- The program begins: nothing is registered, and nothing was read. -/
def Sys.IsInitial (s : Sys) : Prop :=
  s.watcher = none ∧ s.queue = [] ∧ s.edits = 0 ∧ s.seen = []

/-- What the program can come to in steps that all satisfy `allowed`. -/
inductive Gateway.Reach (configPath : Path) (allowed : Gateway → Gateway → Prop) :
    Gateway → Prop where
  | init {s : Sys} (h : s.IsInitial) : Reach configPath allowed (.starting s (main configPath))
  | step {g g' : Gateway} (hg : Reach configPath allowed g) (h : g.Step configPath g')
      (hallowed : allowed g g') : Reach configPath allowed g'

/-! ### The invariant -/

/-- No program that is left registers a watcher. -/
def Phase.KeepsWatcher : Phase → Prop
  | reloading rest => TransferGateway.KeepsWatcher rest
  | updating rest  => TransferGateway.KeepsWatcher rest
  | _              => True

namespace Watcher

/-- Unless a reload is due anyway, every change was heard of. -/
def Hears (U : Prop) (w : Watcher) : Prop :=
  match w.phase with
  | .debouncing | .draining => True
  | _                       => w.rt.sys.Heard U w.started

/-- What is left of a job leads to a state that serves what it should. -/
def Serves (configPath : Path) (w : Watcher) : Prop :=
  match w.phase with
  | .reloading rest => rest.wp Rt.handle (Rt.env writers) (fun r t => match r with
      | .ok (.applied next) => Served configPath next true t
      | _ => Served configPath w.valid false t) w.rt
  | .updating rest  => rest.wp Rt.handle (Rt.env writers) (fun _ t =>
      Served configPath w.valid w.succeeded t) w.rt
  | _               => Served configPath w.valid w.succeeded w.rt

structure Inv (U : Prop) (configPath : Path) (w : Watcher) : Prop where
  named : configPath.fileName.isSome = true
  watcher : w.rt.sys.watcher = some configPath
  keeps : w.phase.KeepsWatcher
  hears : w.Hears U
  serves : w.Serves configPath

variable {U : Prop} {configPath : Path} {w w' : Watcher}

omit [StdParse] [Builtin] in
lemma Inv.change (h : w.Inv U configPath) {s' : Sys} (hs : w.rt.sys.Change s') :
    (w.withSys s').Inv U configPath := by
  obtain ⟨⟨sys, published⟩, phase, started, succeeded, valid⟩ := w
  obtain ⟨hnamed, hwatcher, hkeeps, hhears, hserves⟩ := h
  have ht : (Rt.env writers).interferes ⟨sys, published⟩ ⟨s', published⟩ := ⟨.single hs, rfl⟩
  refine ⟨hnamed, hs.watcher.trans hwatcher, hkeeps, ?_, ?_⟩
  · cases phase with
    | debouncing | draining => trivial
    | _ => exact Sys.Heard.change hhears hs
  · cases phase with
    | reloading rest =>
      refine Prog.wp_stable Rt.writers_trans (fun r t t' hr ht' => ?_) hserves ht
      rcases r with e | result
      · exact e.elim
      · cases result with
        | _ => exact Served.rely hr ht'
    | updating rest => exact Prog.wp_stable Rt.writers_trans (fun _ _ _ => Served.rely) hserves ht
    | _ => exact Served.rely hserves ht

/-- Every step of the task keeps the invariant. -/
lemma Step.inv (hstep : w.Step configPath w') (h : w.Inv U configPath) :
    w'.Inv U configPath := by
  obtain ⟨⟨sys, published⟩, phase, started, succeeded, valid⟩ := w
  obtain ⟨hnamed, hwatcher, hkeeps, hhears, hserves⟩ := h
  cases hstep with
  | change hphase hqueue =>
    cases hphase
    exact ⟨hnamed, hwatcher, trivial, trivial, Served.mono hserves rfl fun _ => id⟩
  | error hphase hqueue =>
    cases hphase
    have hheard : sys.Heard U started := hhears
    exact ⟨hnamed, hwatcher, trivial, hheard.receive hqueue, Served.mono hserves rfl fun _ => id⟩
  | ip2regionTimer hphase =>
    cases hphase
    exact ⟨hnamed, hwatcher, keepsWatcher_updateCycle (fun _ => Ip2Region.writesIn_update _)
      fun _ => Ip2Region.writesIn_open _, hhears,
      wp_updateCycle_served (fun _ _ => ⟨rfl, rfl⟩) hserves⟩
  | securityTimer hphase =>
    cases hphase
    exact ⟨hnamed, hwatcher, keepsWatcher_updateCycle (fun _ => Security.writesIn_update _)
      fun _ => Security.writesIn_open _, hhears,
      wp_updateCycle_served (fun _ _ => ⟨rfl, rfl⟩) hserves⟩
  | debounced hphase =>
    cases hphase
    exact ⟨hnamed, hwatcher, trivial, trivial, hserves⟩
  | @drain message rest hphase hqueue =>
    cases hphase
    cases message with
    | _ => exact ⟨hnamed, hwatcher, trivial, trivial, Served.mono hserves rfl fun _ => id⟩
  | drained hphase hqueue =>
    cases hphase
    -- nothing is on record, and the reads are still to come
    have hserves' : Served configPath valid false ⟨{ sys with seen := [] }, published⟩ :=
      ⟨hserves.config, hserves.language, nofun⟩
    exact ⟨hnamed, hwatcher, keepsWatcher_reloadConfig configPath,
      Or.inr ⟨rfl, fun _ => nofun⟩, wp_reloadConfig_served hserves'⟩
  | reloadOp c hphase =>
    cases hphase
    exact ⟨hnamed, (Rt.step_watcher hkeeps.1 c).trans hwatcher, hkeeps.2 _,
      Rt.step_heard hkeeps.1 c hhears, hserves _ ⟨.refl, rfl⟩ c trivial⟩
  | @reloadEnd result hphase =>
    cases hphase
    cases result with
    | _ => exact ⟨hnamed, hwatcher, trivial, hhears, hserves⟩
  | updateOp c hphase =>
    cases hphase
    exact ⟨hnamed, (Rt.step_watcher hkeeps.1 c).trans hwatcher, hkeeps.2 _,
      Rt.step_heard hkeeps.1 c hhears, hserves _ ⟨.refl, rfl⟩ c trivial⟩
  | updateEnd hphase =>
    cases hphase
    exact ⟨hnamed, hwatcher, trivial, hhears, hserves⟩

end Watcher

namespace Gateway

/-- If the step registers the watcher, the watched files hold what the start has read. -/
def Undisturbed : Gateway → Gateway → Prop
  | .starting s _, .starting s' _ => s'.watcher ≠ s.watcher → s'.AsRead
  | _, _                          => True

def Inv (U : Prop) (configPath : Path) : Gateway → Prop
  | .starting s rest => s.Heard U 0 ∧
      rest.wp Sys.handle writers (Prog.onOk fun started s' => ∀ runtime,
        started = .running runtime → s'.watcher = some configPath ∧
          configPath.fileName.isSome = true ∧ Served configPath runtime true ⟨s', runtime⟩) s
  | .exited _ => True
  | .running w => w.Inv U configPath

variable {U : Prop} {configPath : Path} {g g' : Gateway}

lemma Step.inv (hstep : g.Step configPath g') (hU : U → Undisturbed g g')
    (h : g.Inv U configPath) : g'.Inv U configPath := by
  cases hstep with
  | @startOp s β o k c =>
    obtain ⟨hheard, hrest⟩ := h
    refine ⟨?_, hrest s .refl c trivial⟩
    by_cases ho : o.registers
    · exact hheard.register ho c fun hU' => hU hU'
    · exact hheard.step ho c
  | startFailed | firstRun => trivial
  | spawn =>
    obtain ⟨hheard, hrest⟩ := h
    obtain ⟨hwatcher, hnamed, hserved⟩ := hrest _ rfl
    exact ⟨hnamed, hwatcher, trivial, hheard, hserved⟩
  | startChange hs =>
    obtain ⟨hheard, hrest⟩ := h
    refine ⟨hheard.change hs, Prog.wp_stable Relation.ReflTransGen.trans ?_ hrest (.single hs)⟩
    intro r s₁ s₂ hr hs₂
    cases r with
    | error e => trivial
    | ok started =>
      intro runtime hruntime
      obtain ⟨hwatcher, hnamed, hserved⟩ := hr runtime hruntime
      exact ⟨(writers_eq Sys.Change.watcher hs₂).trans hwatcher, hnamed, hserved.rely ⟨hs₂, rfl⟩⟩
  | change hs => exact Watcher.Inv.change h hs
  | task hw => exact hw.inv h

/-- The invariant holds wherever the program comes to. -/
lemma Reach.inv (h : Reach configPath (fun g g' => U → Undisturbed g g') g) :
    g.Inv U configPath := by
  induction h with
  | init hs =>
    obtain ⟨-, -, hedits, hseen⟩ := hs
    exact ⟨Or.inr ⟨hedits.symm, fun _ e he => by simp [hseen] at he⟩, wp_main_watched _⟩
  | step _ hstep hallowed ih => exact hstep.inv hallowed ih

lemma Reach.mono {allowed allowed' : Gateway → Gateway → Prop}
    (h : Reach configPath allowed g) (hallowed : ∀ g g', allowed g g' → allowed' g g') :
    Reach configPath allowed' g := by
  induction h with
  | init hs => exact .init hs
  | step _ hstep h ih => exact .step ih hstep (hallowed _ _ h)

/-- A run of what is left of `main`. -/
lemma Reach.run {allowed : Gateway → Gateway → Prop} {p : SysProg Started}
    {m : ℕ → Prog.Move Choice Sys} {s : Sys} (h : Reach configPath allowed (.starting s p))
    (hm : ∀ n s, writers.interferes s ((m n).interfere s))
    (hchange : ∀ {s s' : Sys} (rest : SysProg Started), s.Change s' →
      allowed (.starting s rest) (.starting s' rest))
    (hop : ∀ e ∈ p.trace Sys.handle m s, ∀ rest rest',
      allowed (.starting e.1 rest) (.starting e.2 rest')) :
    Reach configPath allowed
      (.starting (p.run Sys.handle m s).2 (.ofExcept (p.run Sys.handle m s).1)) := by
  induction p generalizing s m with
  | ret a => exact h
  | fail e => exact h
  | call o k ih =>
    obtain ⟨hop, hops⟩ := List.forall_mem_cons.mp hop
    have hinterfere : Reach configPath allowed (.starting ((m 0).interfere s) (.call o k)) := by
      have hs := hm 0 s
      generalize (m 0).interfere s = s' at hs
      induction hs with
      | refl => exact h
      | tail _ hs ih => exact .step ih (.startChange hs) (hchange _ hs)
    exact ih _ (hinterfere.step (.startOp (m 0).choice) (hop _ _)) (fun n => hm (n + 1)) hops

/-- Wherever the queue is empty and the task waits, the last attempt began to read after the last
change to a watched file, and the configuration and the language are those of the last attempt that
succeeded. -/
theorem Reach.quiescent {w : Watcher} (h : Reach configPath (fun _ _ => True) (.running w))
    (hphase : w.phase = .waiting) (hqueue : w.rt.sys.queue = []) :
    w.rt.sys.watcher = some configPath ∧ w.started = w.rt.sys.edits ∧
      w.rt.published.config = w.valid.config ∧ w.rt.published.language = w.valid.language := by
  have hinv : w.Inv False configPath := Reach.inv (h.mono fun _ _ _ => nofun)
  have hhears := hinv.hears
  have hserves := hinv.serves
  simp only [Watcher.Hears, Watcher.Serves, hphase] at hhears hserves
  have hstarted := hhears.resolve_left (by simp [Sys.Pending, hqueue])
  exact ⟨hinv.watcher, hstarted.1, hserves.config, hserves.language⟩

end Gateway

end Task

section Tor

attribute [local instance] noXdb dottedParse asciiCase torParse noBuiltin httpsUrl

/-- The small gateway spawns its task when no event waits. -/
lemma Gateway.Reach.spawned_tor (allowed : Gateway → Gateway → Prop)
    (hchange : ∀ {s s' : Sys} (rest : SysProg Started), s.Change s' →
      allowed (.starting s rest) (.starting s' rest))
    (hop : ∀ e ∈ (main torPath).trace Sys.handle (fun _ => ⟨id, .calm⟩) torGateway,
      ∀ rest rest', allowed (.starting e.1 rest) (.starting e.2 rest'))
    (hspawn : ∀ s rest w, allowed (.starting s rest) (.running w)) :
    ∃ s runtime, Gateway.Reach torPath allowed (.running (.spawned s runtime)) ∧ s.queue = [] ∧
      runtime.config.vhosts = none := by
  have hstart : Gateway.Reach torPath allowed (.starting torGateway (main torPath)) :=
    .init ⟨rfl, rfl, rfl, rfl⟩
  have hmain := hstart.run (m := fun _ => ⟨id, .calm⟩) (fun _ _ => .refl) hchange hop
  obtain ⟨runtime, hruntime, hvhosts, hqueue⟩ := torGateway_starts
  rw [hruntime] at hmain
  exact ⟨_, runtime, hmain.step .spawn (hspawn _ _ _), hqueue, hvhosts⟩

/-- The small gateway comes to wait; its configuration file is removed, and the reload that follows
fails. -/
theorem Gateway.Reach.quiescent_tor :
    ∃ w : Watcher, Gateway.Reach torPath (fun _ _ => True) (.running w) ∧ w.phase = .waiting ∧
      w.rt.sys.queue = [] ∧ w.rt.sys.watcher = some torPath ∧ w.started = w.rt.sys.edits ∧
      w.rt.published.config = w.valid.config ∧ w.rt.published.language = w.valid.language := by
  obtain ⟨s, runtime, hspawned, hqueue, -⟩ := Gateway.Reach.spawned_tor
    (fun _ _ => True) (fun _ _ => trivial) (fun _ _ _ _ => trivial) fun _ _ _ => trivial
  obtain ⟨hwatcher, -⟩ := hspawned.quiescent rfl hqueue
  have hevent : (s.set torPath none).queue = [.configChanged] := by
    have hwatched : s.isWatched torPath = true := by
      rw [Sys.isWatched, show s.watcher = some torPath from hwatcher]
      exact watched_self rfl
    simp [Sys.set, show s.queue = [] from hqueue, hwatched]
  have hreading := ((((hspawned.step (.change (.edit s torPath none)) trivial).step
    (.task (.change rfl hevent)) trivial).step (.task (.debounced rfl)) trivial).step
    (.task (.drained rfl rfl)) trivial)
  -- the file cannot be read, the failure is logged, and the reload is over
  have hfailed := (((hreading.step (.task (.reloadOp .calm rfl)) trivial).step
    (.task (.reloadOp { Choice.calm with fault := some notFound } rfl)) trivial).step
    (.task (.reloadOp .calm rfl)) trivial).step (.task (.reloadEnd rfl)) trivial
  exact ⟨_, hfailed, rfl, rfl, hfailed.quiescent rfl rfl⟩

end Tor

end TransferGateway
