import TransferGateway.Lib.Spacing
import TransferGateway.Runtime.Settling
import TransferGateway.Runtime.Timers

/-!
# The cadence of the updates

A timer is set again behind each of its cycles and behind each reload. However the reloads, the
cycles of the other timer and the clock interleave, the cycles of one timer begin at a distance.
-/

namespace TransferGateway

section Task

variable [Xdb] [StdParse] [StdCase] [Toml.Parse] [Builtin] [UrlParse] {configPath : Path}

/-! ### When cycles begin -/

/-- A cycle of the timer begins in this step. -/
def Timed.Begins (timer : Timer) (t t' : Timed) : Prop :=
  t.watcher.phase = .waiting ∧ t'.serving = timer ∧ ∃ rest, t'.watcher.phase = .updating rest

/-- A run of the task from its spawn on, and when the cycles of the timer began, the last one first.
Whenever the timer was set, the published configuration asked for this delay at least. -/
inductive Timed.Runs (configPath : Path) (timer : Timer) (delay : ℕ) : Timed → List ℕ → Prop where
  | spawn {s : Sys} {runtime : RuntimeState} (now far : Instant)
      (h : Gateway.Reach configPath (fun _ _ => True) (.starting s (.ret (.running runtime)))) :
      Runs configPath timer delay (.spawned s runtime now far) []
  | begin {t t' : Timed} {begun : List ℕ} (h : Runs configPath timer delay t begun)
      (hstep : t.Step configPath (some t')) (hbegins : t.Begins timer t') :
      Runs configPath timer delay t' (t.now.secs :: begun)
  | other {t t' : Timed} {begun : List ℕ} (h : Runs configPath timer delay t begun)
      (hstep : t.Step configPath (some t')) (hother : ¬t.Begins timer t')
      (hdelay : t.toSet.head? = some timer → delay ≤ timer.nextDelay t.watcher.rt.published) :
      Runs configPath timer delay t' begun

omit [StdParse] [Builtin] in
/-- The delay that a loaded configuration asks for is a second at least. -/
lemma RuntimeState.HasLoaded.one_le_nextDelay {state : RuntimeState} (h : state.HasLoaded)
    (timer : Timer) : 1 ≤ timer.nextDelay state := by
  obtain ⟨config, path, hloaded, hconfig⟩ := h
  have hvalid := hloaded.spec.1
  simp only [AppConfig.validate, except_bind_eq_ok] at hvalid
  obtain ⟨_, -, _, hip2region, _, hsecurity, -⟩ := hvalid
  have hinterval : ¬(timer.autoUpdate config = true ∧ timer.updateIntervalSecs config = 0) := by
    cases timer with
    | ip2region =>
      simp only [Ip2RegionConfig.validate, except_bind_eq_ok, bailIf_eq_ok] at hip2region
      tauto
    | security =>
      simp only [SecurityConfig.validate, except_bind_eq_ok, bailIf_eq_ok] at hsecurity
      tauto
  have hresolved : timer.autoUpdate (config.resolvePaths path) = timer.autoUpdate config ∧
      timer.updateIntervalSecs (config.resolvePaths path) = timer.updateIntervalSecs config := by
    cases timer <;> exact ⟨rfl, rfl⟩
  rw [Timer.nextDelay_eq, hconfig, hresolved.1, hresolved.2, nextUpdateDelay]
  by_cases hauto : timer.autoUpdate config = true
  · rw [if_pos hauto]
    exact Nat.one_le_iff_ne_zero.mpr fun hzero => hinterval ⟨hauto, hzero⟩
  · rw [if_neg hauto]
    decide

/-! ### Their distance -/

/-- The timer is due a distance after its cycles began, or it is still to be set. -/
def Timed.Keeps (timer : Timer) (delay : ℕ) (begun : List ℕ) (t : Timed) : Prop :=
  (∃ rest, t.watcher.phase = .updating rest) ∧ t.serving = timer ∨ timer ∈ t.toSet ∨
    ∀ earlier ∈ begun, earlier + delay ≤ (t.deadline timer).secs

namespace Timed.Runs

variable {timer : Timer} {delay : ℕ} {t t' : Timed} {begun : List ℕ}

lemma reach (h : Timed.Runs configPath timer delay t begun) :
    Timed.Reach configPath (fun _ => True) (some t) := by
  induction h with
  | spawn now far h => exact .spawn now far h
  | begin _ hstep _ ih => exact ih.step hstep trivial
  | other _ hstep _ _ ih => exact ih.step hstep trivial

/-- A cycle begins where its timer is due. -/
lemma due_of_begins (hstep : t.Step configPath (some t')) (hbegins : t.Begins timer t') :
    t.toSet = [] ∧ t.deadline timer ≤ t.now ∧ t'.now = t.now := by
  obtain ⟨hwaiting, hserving, rest, hphase⟩ := hbegins
  generalize hx : some t' = x at hstep
  cases hstep with
  | fire timer' hset _ hdue =>
    cases hx
    obtain rfl : timer' = timer := hserving
    exact ⟨hset, hdue, rfl⟩
  | tick h | change h =>
    cases hx
    cases hwaiting.symm.trans hphase
  | task hset h hquiet =>
    cases hx
    rw [hwaiting, hphase] at hquiet
    exact hquiet.elim
  | reloadEnd hreloading => cases hwaiting.symm.trans hreloading
  | updateEnd hupdating => cases hwaiting.symm.trans hupdating
  | set hset =>
    obtain ⟨deadline, -, rfl⟩ := Option.map_eq_some_iff.mp hx.symm
    cases hwaiting.symm.trans hphase

/-- One step that begins no cycle of the timer. -/
lemma keeps_other (h : Timed.Reach configPath (fun _ => True) (some t))
    (hstep : t.Step configPath (some t')) (hother : ¬t.Begins timer t')
    (hnow : ∀ earlier ∈ begun, earlier ≤ t.now.secs)
    (hdelay : t.toSet.head? = some timer → delay ≤ timer.nextDelay t.watcher.rt.published)
    (hkeeps : t.Keeps timer delay begun) :
    (∀ earlier ∈ begun, earlier ≤ t'.now.secs) ∧ t'.Keeps timer delay begun := by
  generalize hx : some t' = x at hstep
  cases hstep with
  | tick h =>
    cases hx
    exact ⟨fun earlier hmem => (hnow earlier hmem).trans h, hkeeps⟩
  | change h =>
    cases hx
    exact ⟨hnow, hkeeps⟩
  | @task w' hset h hquiet =>
    cases hx
    refine ⟨hnow, ?_⟩
    obtain ⟨⟨rest, hphase⟩, hserving⟩ | hmem | hdeadline := hkeeps
    · rw [hphase] at hquiet
      refine .inl ⟨?_, hserving⟩
      cases h with
      | updateOp c _ => exact ⟨_, rfl⟩
      | updateEnd _ => exact hquiet.elim
      | ip2regionTimer _ | securityTimer _ => exact ⟨_, rfl⟩
      | change h _ | error h _ | debounced h | drain h _ | drained h _ | reloadOp _ h
      | reloadEnd h => cases hphase.symm.trans h
    · exact .inr (.inl hmem)
    · exact .inr (.inr hdeadline)
  | fire timer' hset hphase hdue =>
    cases hx
    have hne : timer' ≠ timer := fun heq => hother ⟨hphase, heq, _, rfl⟩
    refine ⟨hnow, ?_⟩
    obtain ⟨⟨rest, hrest⟩, -⟩ | hmem | hdeadline := hkeeps
    · cases hphase.symm.trans hrest
    · simp [hset] at hmem
    · exact .inr (.inr hdeadline)
  | reloadEnd hphase =>
    cases hx
    refine ⟨hnow, .inr (.inl ?_)⟩
    cases timer <;> simp
  | updateEnd hphase =>
    cases hx
    refine ⟨hnow, ?_⟩
    have hempty : t.toSet = [] := by
      by_contra hset
      cases (h.waiting hset).symm.trans hphase
    obtain ⟨-, rfl⟩ | hmem | hdeadline := hkeeps
    · exact .inr (.inl (List.mem_singleton_self _))
    · simp [hempty] at hmem
    · exact .inr (.inr hdeadline)
  | @set timer' rest hset =>
    obtain ⟨deadline, hdeadline, rfl⟩ := Option.map_eq_some_iff.mp hx.symm
    refine ⟨hnow, ?_⟩
    by_cases heq : timer' = timer
    · -- the timer is set behind the cycles that began
      subst heq
      refine .inr (.inr fun earlier hmem => ?_)
      have hlate := hdelay (by rw [hset, List.head?_cons])
      simp only [Function.update_self, Instant.checkedAdd_secs hdeadline]
      exact Nat.add_le_add (hnow earlier hmem) hlate
    · obtain ⟨⟨rest', hrest⟩, -⟩ | hmem | hdeadlines := hkeeps
      · cases (h.waiting (by simp [hset])).symm.trans hrest
      · rw [hset] at hmem
        exact .inr (.inl ((List.mem_cons.mp hmem).resolve_left (Ne.symm heq)))
      · refine .inr (.inr fun earlier hmem => ?_)
        simpa only [Function.update_of_ne (Ne.symm heq)] using hdeadlines earlier hmem

/-- What holds all along: the timer is due a distance after its cycles began. -/
lemma keeps (h : Timed.Runs configPath timer delay t begun) :
    (∀ earlier ∈ begun, earlier ≤ t.now.secs) ∧ Spaced delay begun ∧
      t.Keeps timer delay begun := by
  induction h with
  | spawn now far h => exact ⟨by simp, .nil, .inr (.inr (by simp))⟩
  | @begin t t' begun h hstep hbegins ih =>
    obtain ⟨hnow, hspaced, hkeeps⟩ := ih
    obtain ⟨hset, hdue, heq⟩ := due_of_begins hstep hbegins
    have hlate : ∀ earlier ∈ begun, earlier + delay ≤ t.now.secs := by
      obtain ⟨⟨rest, hrest⟩, -⟩ | hmem | hdeadline := hkeeps
      · cases hbegins.1.symm.trans hrest
      · simp [hset] at hmem
      · exact fun earlier hmem => (hdeadline earlier hmem).trans hdue
    refine ⟨?_, hspaced.cons hlate, .inl ⟨hbegins.2.2, hbegins.2.1⟩⟩
    rw [heq, List.forall_mem_cons]
    exact ⟨le_rfl, hnow⟩
  | other h hstep hother hdelay ih =>
    obtain ⟨hnow, hspaced, hkeeps⟩ := ih
    obtain ⟨hnow', hkeeps'⟩ := keeps_other h.reach hstep hother hnow hdelay hkeeps
    exact ⟨hnow', hspaced, hkeeps'⟩

/-- A loaded configuration never asks for a shorter delay than a second. -/
lemma max_one (h : Timed.Runs configPath timer delay t begun) :
    Timed.Runs configPath timer (max delay 1) t begun := by
  induction h with
  | spawn now far h => exact .spawn now far h
  | begin _ hstep hbegins ih => exact ih.begin hstep hbegins
  | @other t t' begun h hstep hother hdelay ih =>
    refine ih.other hstep hother fun hset => max_le (hdelay hset) ?_
    apply RuntimeState.HasLoaded.one_le_nextDelay
    apply h.reach.hasLoaded
    intro hempty
    simp [hempty] at hset

/-- However reloads, the cycles of the other timer, the writers and the clock interleave, the cycles
of a timer begin at the distance that every configuration asked for, and at a second. -/
theorem spaced (h : Timed.Runs configPath timer delay t begun) :
    Spaced (max delay 1) begun ∧ ∀ a b,
      max delay 1 * begun.countP (fun instant => a ≤ instant ∧ instant ≤ b) ≤
        (b - a) + max delay 1 :=
  ⟨h.max_one.keeps.2.1, h.max_one.keeps.2.1.countP_le⟩

end Timed.Runs

end Task

/-! ### The small gateway -/

section Tor

attribute [local instance] noXdb dottedParse asciiCase torParse noBuiltin httpsUrl

private lemma torServing_idle : (torServing.any fun t =>
    !t.published.config.ip2region.autoUpdate) = true := by
  decide +kernel

/-- A timer that is off is served and set again. -/
private lemma idle_cycle {t : Timed} {begun : List ℕ} (now : Instant)
    (h : Timed.Runs torPath .ip2region 3600 t begun) (hphase : t.watcher.phase = .waiting)
    (hset : t.toSet = []) (hoff : t.watcher.rt.published.config.ip2region.autoUpdate = false)
    (hnow : t.now ≤ now) (hdue : t.deadline .ip2region ≤ now) (hroom : now.secs + 3600 < 2 ^ 63) :
    ∃ t', Timed.Runs torPath .ip2region 3600 t' (now.secs :: begun) ∧
      t'.watcher.phase = .waiting ∧ t'.toSet = [] ∧
      t'.watcher.rt.published = t.watcher.rt.published ∧ t'.now = now ∧
      (t'.deadline .ip2region).secs = now.secs + 3600 := by
  have hdelay : Timer.ip2region.nextDelay t.watcher.rt.published = 3600 := by
    rw [Timer.nextDelay_eq, Timer.autoUpdate, hoff]
    rfl
  have hticked := h.other (.tick hnow) (fun hbegins => by
    obtain ⟨-, -, rest, hrest⟩ := hbegins
    cases hphase.symm.trans hrest) (by simp [hset])
  have hfired := hticked.begin (.fire .ip2region hset hphase hdue) ⟨hphase, rfl, _, rfl⟩
  obtain ⟨k, hk, hret⟩ : ∃ k : RuntimeState → RtProg CycleEnd,
      updateIp2region = .call (.inr .borrow) k ∧
      k t.watcher.rt.published = .ret .disabled := by
    refine ⟨_, rfl, ?_⟩
    simp only [Prog.bind, hoff, Bool.not_false, if_true]
    rfl
  have hborrowed := hfired.other (.task hset (.updateOp .calm (congrArg Phase.updating hk)) trivial)
    (fun hbegins => by cases hbegins.1) (by simp [hset])
  let ended : Timed :=
    ⟨{ t.watcher with phase := .waiting }, now, t.deadline, .ip2region, [.ip2region]⟩
  have hended : Timed.Runs torPath .ip2region 3600 ended (now.secs :: begun) := by
    have hret' := hborrowed.other (.updateEnd (congrArg Phase.updating hret))
      (fun hbegins => by cases hbegins.1) (by simp [hset])
    exact hret'
  have hsum : ended.set .ip2region [] = some
      { ended with
        deadline := Function.update t.deadline .ip2region ⟨_, Nat.add_pos_left now.pos 3600, hroom⟩
        toSet := [] } := by
    rw [Timed.set, hdelay, Instant.checkedAdd, dif_pos hroom]
    rfl
  have hstep : ended.Step torPath (ended.set .ip2region []) := .set rfl
  rw [hsum] at hstep
  have hagain := hended.other hstep (fun hbegins => by
    obtain ⟨-, -, rest, hrest⟩ := hbegins
    cases hrest) fun _ => hdelay.ge
  refine ⟨_, hagain, rfl, rfl, rfl, rfl, ?_⟩
  simp only [Function.update_self]

/-- The update of the small gateway's databases is off, and its cycles begin every hour. -/
theorem Timed.Runs.spaced_tor :
    ∃ t : Timed, Timed.Runs torPath .ip2region 3600 t [7201, 3601] ∧
      Spaced (max 3600 1) [7201, 3601] := by
  obtain ⟨t, ht, hidle⟩ := (Option.any_eq_true _ _).mp torServing_idle
  simp only [Bool.not_eq_true'] at hidle
  have hdelay : Timer.ip2region.nextDelay t.published = 3600 := by
    rw [Timer.nextDelay_eq, Timer.autoUpdate, hidle]
    rfl
  let start : Instant := ⟨1, by decide, by decide⟩
  have hspawned : Timed.Runs torPath .ip2region 3600 (.spawned t.sys t.published start start) [] :=
    .spawn _ _ (reach_torStarting ht)
  have hdue : ((Timed.spawned t.sys t.published start start).deadline .ip2region).secs = 3601 := by
    change ((start.checkedAdd (Timer.ip2region.nextDelay t.published)).getD start).secs = 3601
    rw [hdelay, Instant.checkedAdd, dif_pos (by decide)]
    rfl
  obtain ⟨t₁, h₁, hphase₁, hset₁, hpublished₁, hnow₁, hdeadline₁⟩ :=
    idle_cycle ⟨3601, by decide, by decide⟩ hspawned rfl rfl hidle (by decide : 1 ≤ 3601) hdue.le
      (by decide)
  obtain ⟨t₂, h₂, -⟩ :=
    idle_cycle ⟨7201, by decide, by decide⟩ h₁ hphase₁ hset₁ (by rw [hpublished₁]; exact hidle)
      (by rw [hnow₁]; exact (by decide : 3601 ≤ 7201)) hdeadline₁.le (by decide)
  exact ⟨t₂, h₂, h₂.spaced.1⟩

end Tor

end TransferGateway
