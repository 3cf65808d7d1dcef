import TransferGateway.Runtime.State

/-!
# The jobs of the watcher

The watcher task owns the sender of the channel with the published state. It reloads the
configuration and updates the databases and the block lists, each job from its start to its end
before the next one.
-/

namespace TransferGateway

variable [Xdb]

/-! ### Operations -/

/-- The sender of the watch channel with the published state. -/
inductive WatchOp : Type → Type where
  | borrow : WatchOp RuntimeState
  | sendReplace (state : RuntimeState) : WatchOp Unit

/-- What the watcher task does: operations of the system and on the channel. -/
abbrev RtOp (β : Type) := SysOp β ⊕ WatchOp β

structure Rt where
  sys : Sys
  published : RuntimeState

namespace Rt

def step {β : Type} (o : RtOp β) (c : Choice) (s : Rt) : β × Rt :=
  match o with
  | .inl o =>
    let r := s.sys.step o c
    (r.1, { s with sys := r.2 })
  | .inr .borrow => (s.published, s)
  | .inr (.sendReplace state) => ((), { s with published := state })

abbrev handle : Handler RtOp Choice Rt := fun _ o c s => s.step o c

/-- The others do what they do to the system, and have no access to the channel. -/
def env (E : Env Choice Sys) : Env Choice Rt where
  interferes t t' := E.interferes t.sys t'.sys ∧ t'.published = t.published
  admits := E.admits

end Rt

/-- Programs of the watcher task, which never fail. -/
abbrev RtProg := Prog RtOp Empty

/-- The value of a program that cannot fail. -/
def valueOf {α : Type} : Except Empty α → α
  | .ok a => a

omit [Xdb] in
lemma eq_ok_valueOf {α : Type} (x : Except Empty α) : x = .ok (valueOf x) := by
  match x with
  | .ok a => rfl

/-- The result of a program over the system. -/
def onSys {α : Type} (p : SysProg α) : RtProg (Except String α) :=
  (p.lift fun _ => Sum.inl).attempt

def borrow : RtProg RuntimeState := @Prog.perform RtOp _ _ (.inr .borrow)

def sendReplace (state : RuntimeState) : RtProg Unit :=
  @Prog.perform RtOp _ _ (.inr (.sendReplace state))

def logLine (level : Level) (message : String) : RtProg Unit :=
  @Prog.perform RtOp _ _ (.inl (.log level message))

section Wp

variable {E : Env Choice Sys} {α : Type} {t : Rt}

/-- A program over the system leaves the channel alone. -/
@[simp] lemma wp_onSys (p : SysProg α) (Q : Except Empty (Except String α) → Rt → Prop) (t : Rt) :
    (onSys p).wp Rt.handle (Rt.env E) Q t ↔
      p.wp Sys.handle E (fun r s' => Q (.ok r) ⟨s', t.published⟩) t.sys := by
  rw [onSys, Prog.wp_attempt]
  induction p generalizing t with
  | ret a => rfl
  | fail e => rfl
  | call o k ih =>
    constructor
    · intro h s' hs' c hc
      exact (ih _ _).mp (h ⟨s', t.published⟩ ⟨hs', rfl⟩ c hc)
    · rintro h ⟨s', published⟩ ⟨hs', rfl⟩ c hc
      exact (ih _ _).mpr (h s' hs' c hc)

variable {β : Type} {Q : Except Empty β → Rt → Prop}

lemma wp_borrow {f : RuntimeState → RtProg β}
    (h : ∀ s', E.interferes t.sys s' →
      (f t.published).wp Rt.handle (Rt.env E) Q ⟨s', t.published⟩) :
    (borrow >>= f).wp Rt.handle (Rt.env E) Q t := by
  rw [Prog.wp_bind]
  rintro ⟨s', published⟩ ⟨hs', rfl⟩ c _
  exact h s' hs'

lemma wp_sendReplace {state : RuntimeState} {f : Unit → RtProg β}
    (h : ∀ s', E.interferes t.sys s' → (f ()).wp Rt.handle (Rt.env E) Q ⟨s', state⟩) :
    (sendReplace state >>= f).wp Rt.handle (Rt.env E) Q t := by
  rw [Prog.wp_bind]
  rintro ⟨s', published⟩ ⟨hs', rfl⟩ c _
  exact h s' hs'

/-- The `match` on the result of a program over the system. -/
lemma wp_match {p : SysProg α} {f : Except String α → RtProg β} {R : Except String α → Sys → Prop}
    (hp : p.wp Sys.handle E R t.sys)
    (hf : ∀ r s', R r s' → (f r).wp Rt.handle (Rt.env E) Q ⟨s', t.published⟩) :
    (onSys p >>= f).wp Rt.handle (Rt.env E) Q t := by
  rw [Prog.wp_bind, wp_onSys]
  exact Prog.wp_mono hp fun r s' h => hf r s' h

/-- Neither the others nor the log touch the property. -/
structure Stable (E : Env Choice Sys) (I : Sys → Prop) : Prop where
  rely : ∀ {s s'}, E.interferes s s' → I s → I s'
  log : ∀ {s entry}, I s → I { s with log := entry :: s.log }

omit [Xdb] in
lemma Stable.keeps_log {I : Sys → Prop} (hI : Stable E I) (level : Level) (message : String) :
    Prog.Keeps Sys.handle E I (ask (.log level message) : SysProg Unit) := by
  intro s hs s' hs' c _
  exact hI.log (hI.rely hs' hs)

lemma keeps_logLine {I : Sys → Prop} (hI : Stable E I) (state : RuntimeState) (level : Level)
    (message : String) :
    Prog.Keeps Rt.handle (Rt.env E) (fun t => t.published = state ∧ I t.sys)
      (logLine level message) := by
  rintro t ⟨rfl, ht⟩ ⟨s', published⟩ ⟨hs', rfl⟩ c _
  exact ⟨rfl, hI.log (hI.rely hs' ht)⟩

end Wp

/-! ### The watcher stays -/

/-- The operation registers a watcher. -/
@[simp] def RtOp.registers {β : Type} : RtOp β → Prop
  | .inl o => o.registers
  | .inr _ => False

/-- The program does not register a watcher. -/
def KeepsWatcher {α : Type} (p : RtProg α) : Prop :=
  p.All fun _ o => ¬RtOp.registers o

section KeepsWatcher

variable {α β : Type}

lemma keepsWatcher_onSys {p : SysProg α} (hp : p.All fun _ o => ¬o.registers) :
    KeepsWatcher (onSys p) :=
  (Prog.all_attempt _).mpr (hp.lift fun _ ho => ho)

lemma WritesIn.keepsWatcher {F : Set Path} {p : SysProg α} (hp : WritesIn F p) :
    KeepsWatcher (onSys p) :=
  keepsWatcher_onSys (Prog.All.mono hp fun _ ho => ho.2.2)

@[simp] lemma keepsWatcher_borrow : KeepsWatcher borrow := by
  simp [KeepsWatcher, borrow]

@[simp] lemma keepsWatcher_sendReplace (state : RuntimeState) :
    KeepsWatcher (sendReplace state) := by
  simp [KeepsWatcher, sendReplace]

@[simp] lemma keepsWatcher_logLine (level : Level) (message : String) :
    KeepsWatcher (logLine level message) := by
  simp [KeepsWatcher, logLine]

end KeepsWatcher

/-! ### Reloading -/

section Reload

variable [StdParse] [StdCase] [Toml.Parse] [Builtin] [UrlParse]

/-- The return through which a reload leaves, with the state it published. -/
inductive ReloadEnd where
  | configFailed
  | stateFailed
  | logFailed
  | applied (next : RuntimeState)

def logReloadFailure (previous : RuntimeState) (error : String) : RtProg Unit :=
  logLine .error (previous.language.render "log.config_reload_failed" [("error", error)])

def reloadConfig (configPath : Path) : RtProg ReloadEnd := do
  let previous ← borrow
  match ← onSys (AppConfig.load configPath) with
  | .error error => do
    logReloadFailure previous error
    return .configFailed
  | .ok config => do
    match ← onSys (RuntimeState.load config configPath) with
    | .error error => do
      logReloadFailure previous error
      return .stateFailed
    | .ok next => do
      match ← onSys (LogController.apply configPath next.config.logging) with
      | .error error => do
        logReloadFailure previous error
        return .logFailed
      | .ok () => do
        let message := next.language.render "log.config_reloaded" []
        sendReplace next
        logLine .info message
        return .applied next

lemma keepsWatcher_reloadConfig (configPath : Path) : KeepsWatcher (reloadConfig configPath) := by
  have hfailed : ∀ previous error (result : ReloadEnd), KeepsWatcher (do
      logReloadFailure previous error
      return result : RtProg ReloadEnd) :=
    fun _ _ _ => .bind (keepsWatcher_logLine ..) fun _ => trivial
  have hlog : ∀ logging, KeepsWatcher (onSys (LogController.apply configPath logging)) :=
    fun logging => keepsWatcher_onSys (.bind
      (Prog.All.mono (LogController.writesIn_openConfigured _) fun _ ho => ho.2.2) fun _ =>
        .bind (by simp) fun _ => by simp)
  refine .bind keepsWatcher_borrow fun previous =>
    .bind (AppConfig.writesIn_load _).keepsWatcher fun r => ?_
  cases r with
  | error error => exact hfailed _ _ _
  | ok config =>
    refine .bind (RuntimeState.writesIn_load ..).keepsWatcher fun r => ?_
    cases r with
    | error error => exact hfailed _ _ _
    | ok next =>
      refine .bind (hlog _) fun r => ?_
      cases r with
      | error error => exact hfailed _ _ _
      | ok _ =>
        exact .bind (keepsWatcher_sendReplace _) fun _ =>
          .bind (keepsWatcher_logLine ..) fun _ => trivial

/-- What the parts of a reload establish, the reload does: `A` of the state it published, or `B` as
before. -/
lemma wp_reloadConfig {E : Env Choice Sys} {P : AppConfig → Sys → Prop}
    {N A : RuntimeState → Sys → Prop} {B : Sys → Prop} {configPath : Path} {t : Rt}
    (hB : Stable E B) (hA : ∀ next, Stable E (A next))
    (hconfig : ∀ s, B s → (AppConfig.load configPath).wp Sys.handle E (fun r s' => match r with
      | .ok config => P config s'
      | .error _ => B s') s)
    (hstate : ∀ config s, P config s → (RuntimeState.load config configPath).wp Sys.handle E
      (fun r s' => match r with
        | .ok next => N next s'
        | .error _ => B s') s)
    (hlog : ∀ next s, N next s → (LogController.apply configPath next.config.logging).wp Sys.handle E
      (fun r s' => match r with
        | .ok () => A next s'
        | .error _ => B s') s)
    (ht : B t.sys) :
    (reloadConfig configPath).wp Rt.handle (Rt.env E) (fun r t' => match r with
      | .ok (.applied next) => t'.published = next ∧ A next t'.sys
      | _ => t'.published = t.published ∧ B t'.sys) t := by
  have hfailed : ∀ previous error (result : ReloadEnd) s, (∀ next, result ≠ .applied next) → B s →
      (do
        logReloadFailure previous error
        return result : RtProg ReloadEnd).wp Rt.handle (Rt.env E) (fun r t' => match r with
          | .ok (.applied next) => t'.published = next ∧ A next t'.sys
          | _ => t'.published = t.published ∧ B t'.sys) ⟨s, t.published⟩ := by
    intro previous error result s hresult hs
    refine (keeps_logLine hB t.published _ _).seq ⟨rfl, hs⟩ nofun fun _ t' ht' => ?_
    cases result with
    | applied next => exact absurd rfl (hresult next)
    | _ => exact ht'
  rw [reloadConfig]
  refine wp_borrow fun s₁ hs₁ => wp_match (hconfig s₁ (hB.rely hs₁ ht)) fun r s₂ h₂ => ?_
  cases r with
  | error error => exact hfailed t.published error .configFailed s₂ (by simp) h₂
  | ok config =>
    apply wp_match (hstate config s₂ h₂)
    intro r s₃ h₃
    cases r with
    | error error => exact hfailed t.published error .stateFailed s₃ (by simp) h₃
    | ok next =>
      apply wp_match (hlog next s₃ h₃)
      intro r s₄ h₄
      cases r with
      | error error => exact hfailed t.published error .logFailed s₄ (by simp) h₄
      | ok _ =>
        apply wp_sendReplace
        intro s₅ hs₅
        exact (keeps_logLine (hA next) next _ _).seq ⟨rfl, (hA next).rely hs₅ h₄⟩ nofun
          fun _ _ h => h

end Reload

/-! ### Update cycles -/

/-- The return through which an update cycle leaves; `errors` tells whether it reported one for
some file. -/
inductive CycleEnd where
  | disabled
  | failed
  | upToDate (errors : Bool)
  | openFailed
  | applied (errors : Bool)
  deriving DecidableEq

/-- The cycle ended without reporting an error. -/
def CycleEnd.isClean : CycleEnd → Bool
  | disabled | upToDate false | applied false => true
  | failed | openFailed | upToDate true | applied true => false

section Update

variable {ι δ : Type}

/-- An update cycle: `update` replaces files, and `reopen` opens what `replace` publishes. -/
def updateCycle (autoUpdate : RuntimeState → Bool) (update : RuntimeState → SysProg (Report ι))
    (reopen : RuntimeState → SysProg δ) (replace : RuntimeState → δ → RuntimeState)
    (failedKey upToDate updatedKey : String) (replacements : ι → List (String × String)) :
    RtProg CycleEnd := do
  let current ← borrow
  let logFailure := fun error : String =>
    logLine .error (current.language.render failedKey [("error", error)])
  if !autoUpdate current then return .disabled
  else do
    match ← onSys (update current) with
    | .error error => do
      logFailure error
      return .failed
    | .ok report => do
      forM report.errors logFailure
      let errors := !report.errors.isEmpty
      if report.done.isEmpty then do
        logLine .debug upToDate
        return .upToDate errors
      else do
        match ← onSys (reopen current) with
        | .error error => do
          logFailure error
          return .openFailed
        | .ok opened => do
          sendReplace (replace current opened)
          forM report.done fun item =>
            logLine .info (current.language.render updatedKey (replacements item))
          return .applied errors

lemma keepsWatcher_updateCycle {autoUpdate : RuntimeState → Bool}
    {update : RuntimeState → SysProg (Report ι)} {reopen : RuntimeState → SysProg δ}
    {replace : RuntimeState → δ → RuntimeState} {failedKey upToDate updatedKey : String}
    {replacements : ι → List (String × String)} {F G : RuntimeState → Set Path}
    (hupdate : ∀ state, WritesIn (F state) (update state))
    (hreopen : ∀ state, WritesIn (G state) (reopen state)) :
    KeepsWatcher
      (updateCycle autoUpdate update reopen replace failedKey upToDate updatedKey replacements) := by
  refine .bind keepsWatcher_borrow fun current => ?_
  dsimp only
  split
  · trivial
  · refine .bind (hupdate current).keepsWatcher fun r => ?_
    cases r with
    | error error => exact .bind (keepsWatcher_logLine ..) fun _ => trivial
    | ok report =>
      refine .bind (Prog.all_forM fun _ _ => keepsWatcher_logLine ..) fun _ => ?_
      split
      · exact .bind (keepsWatcher_logLine ..) fun _ => trivial
      · refine .bind (hreopen current).keepsWatcher fun r => ?_
        cases r with
        | error error => exact .bind (keepsWatcher_logLine ..) fun _ => trivial
        | ok opened =>
          exact .bind (keepsWatcher_sendReplace _) fun _ =>
            .bind (Prog.all_forM fun _ _ => keepsWatcher_logLine ..) fun _ => trivial

/-- The same for a cycle: `A` of what it opened and published; `C` when files were replaced and
nothing could be opened, or `B` as before. -/
lemma wp_updateCycle {E : Env Choice Sys} {autoUpdate : RuntimeState → Bool}
    {update : RuntimeState → SysProg (Report ι)} {reopen : RuntimeState → SysProg δ}
    {replace : RuntimeState → δ → RuntimeState} {failedKey upToDate updatedKey : String}
    {replacements : ι → List (String × String)} {A : δ → Sys → Prop} {B C : Sys → Prop} {t : Rt}
    (hB : Stable E B) (hC : Stable E C) (hA : ∀ opened, Stable E (A opened))
    (hupdate : ∀ s, B s → (update t.published).wp Sys.handle E (fun r s' => match r with
      | .ok report => if report.done = [] then B s' else C s'
      | .error _ => B s') s)
    (hopen : ∀ s, C s → (reopen t.published).wp Sys.handle E (fun r s' => match r with
      | .ok opened => A opened s'
      | .error _ => C s') s)
    (ht : B t.sys) :
    (updateCycle autoUpdate update reopen replace failedKey upToDate updatedKey replacements).wp
      Rt.handle (Rt.env E) (fun r t' => match r with
        | .ok (.applied _) => ∃ opened, t'.published = replace t.published opened ∧ A opened t'.sys
        | .ok .openFailed => t'.published = t.published ∧ C t'.sys
        | _ => t'.published = t.published ∧ B t'.sys) t := by
  have hforM : ∀ {I : Sys → Prop} {γ : Type} (state : RuntimeState) (l : List γ)
      (level : Level) (message : γ → String), Stable E I →
      Prog.Keeps Rt.handle (Rt.env E) (fun t => t.published = state ∧ I t.sys)
        (forM l fun item => logLine level (message item)) := by
    intro I γ state l level message hI
    induction l with
    | nil => exact .ret _
    | cons item l ih => exact .bind (keeps_logLine hI _ _ _) fun _ => ih
  rw [updateCycle]
  apply wp_borrow
  intro s₁ hs₁
  have h₁ := hB.rely hs₁ ht
  dsimp only
  split
  · exact ⟨rfl, h₁⟩
  · apply wp_match (hupdate s₁ h₁)
    intro r s₂ h₂
    cases r with
    | error error =>
      exact (keeps_logLine hB t.published _ _).seq ⟨rfl, h₂⟩ nofun fun _ _ h => h
    | ok report =>
      dsimp only at h₂ ⊢
      by_cases hdone : report.done = []
      · rw [if_pos hdone] at h₂
        refine (hforM t.published _ _ _ hB).seq ⟨rfl, h₂⟩ nofun fun _ t₃ h₃ => ?_
        simp only [hdone, List.isEmpty_nil, if_true]
        exact (keeps_logLine hB t.published _ _).seq h₃ nofun fun _ _ h => h
      · rw [if_neg hdone] at h₂
        refine (hforM t.published _ _ _ hC).seq ⟨rfl, h₂⟩ nofun ?_
        rintro _ ⟨s₃, published⟩ ⟨rfl, h₃⟩
        have hdone' : report.done.isEmpty = false := by simpa using hdone
        simp only [hdone', Bool.false_eq_true, if_false]
        apply wp_match (hopen s₃ h₃)
        intro r s₄ h₄
        cases r with
        | error error => exact (keeps_logLine hC _ _ _).seq ⟨rfl, h₄⟩ nofun fun _ _ h => h
        | ok opened =>
          apply wp_sendReplace
          intro s₅ hs₅
          exact (hforM _ _ _ _ (hA opened)).seq ⟨rfl, (hA opened).rely hs₅ h₄⟩ nofun
            fun _ _ h => ⟨opened, h⟩

def updateIp2region : RtProg CycleEnd :=
  updateCycle (·.config.ip2region.autoUpdate) (fun current => Ip2Region.update current.config.ip2region)
    (fun current => Ip2Region.open current.config.ip2region) RuntimeState.withIp2region
    "log.ip2region_update_failed" "ip2region databases are already up to date"
    "log.ip2region_updated"
    fun database => [("version", database.version.name), ("path", database.path.display)]

def updateSecurity [StdParse] [StdCase] : RtProg CycleEnd :=
  updateCycle (·.config.security.autoUpdate) (fun current => Security.update current.config.security)
    (fun current => Security.open current.config.security) RuntimeState.withSecurity
    "log.security_list_update_failed" "security lists are already up to date"
    "log.security_list_updated"
    fun list => [("kind", list.kind), ("path", list.path.display)]

end Update

/-! ### Jobs -/

inductive Job where
  | reload
  | updateIp2region
  | updateSecurity
  deriving DecidableEq

inductive JobEnd where
  | reload (result : ReloadEnd)
  | cycle (result : CycleEnd)

/-- The job published a new state. -/
def JobEnd.isApplied : JobEnd → Bool
  | reload (.applied _) | cycle (.applied _) => true
  | _ => false

def Job.run [StdParse] [StdCase] [Toml.Parse] [Builtin] [UrlParse] (configPath : Path) :
    Job → RtProg JobEnd
  | reload          => do return .reload (← reloadConfig configPath)
  | updateIp2region => do return .cycle (← TransferGateway.updateIp2region)
  | updateSecurity  => do return .cycle (← TransferGateway.updateSecurity)

end TransferGateway
