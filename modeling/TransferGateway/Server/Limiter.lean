import TransferGateway.Lib.Pool
import TransferGateway.Server.Run

/-!
# The connection limiter

`ConnectionLimiter::try_acquire` raises a counter in a loop of weak exchanges, and a permit lowers it
when it is dropped. The steps of all calls and the drops of the permits are interleaved in any way.
-/

namespace TransferGateway

/-! ### Calls -/

/-- Where a call of `try_acquire` stands, and what becomes of its permit. -/
inductive Acquire where
  /-- Before the first load. -/
  | called (maximum : UInt64)
  /-- At the head of the loop. -/
  | trying (maximum active : UInt64)
  /-- `None` was returned. -/
  | refused
  /-- The permit lives. -/
  | granted
  /-- The handler that had the permit has come to its end. -/
  | dropped (result : HandlerEnd)
  deriving DecidableEq

/-- What settles the next step: what the hardware does, or how the handler ends. -/
inductive AcquireChoice where
  | goesOn (w : Weak)
  | ends (result : HandlerEnd)

def Acquire.step : AcquireChoice → Acquire → Atomic UInt64 → Option (Acquire × Atomic UInt64)
  | .goesOn w, .called maximum, counter => some (.trying maximum (counter.load w.age), counter)
  | .goesOn w, .trying maximum active, counter =>
    if active ≥ maximum then some (.refused, counter)
    else match counter.compareExchangeWeak active (active + 1) w with
      | (.ok _, counter) => some (.granted, counter)
      | (.error current, counter) => some (.trying maximum current, counter)
  -- `ConnectionPermit::drop`
  | .ends result, .granted, counter => some (.dropped result, (counter.fetchSub 1).2)
  | _, _, _ => none

/-- All that a call can do. -/
inductive Acquire.Steps (counter : Atomic UInt64) :
    AcquireChoice → Acquire → Acquire → Atomic UInt64 → Prop where
  | load {w : Weak} {maximum : UInt64} :
      Steps counter (.goesOn w) (.called maximum) (.trying maximum (counter.load w.age)) counter
  | refuse {w : Weak} {maximum active : UInt64} (h : maximum ≤ active) :
      Steps counter (.goesOn w) (.trying maximum active) .refused counter
  | grant {w : Weak} {maximum : UInt64} (h : counter.current < maximum) :
      Steps counter (.goesOn w) (.trying maximum counter.current) .granted
        (counter.write (counter.current + 1))
  | retry {w : Weak} {maximum active : UInt64} (h : active < maximum) :
      Steps counter (.goesOn w) (.trying maximum active) (.trying maximum (counter.load w.age))
        counter
  | drop {result : HandlerEnd} :
      Steps counter (.ends result) .granted (.dropped result)
        (counter.write (counter.current - 1))

lemma Acquire.step_cases {c : AcquireChoice} {call call' : Acquire} {counter counter' : Atomic UInt64}
    (h : Acquire.step c call counter = some (call', counter')) :
    Acquire.Steps counter c call call' counter' := by
  unfold Acquire.step at h
  split at h
  next => cases h; exact .load
  next w maximum active =>
    split_ifs at h with hfull
    · cases h
      exact .refuse hfull
    · have hlt : active < maximum := UInt64.not_le.mp hfull
      rw [Atomic.compareExchangeWeak] at h
      split_ifs at h with hexchange
      · obtain ⟨rfl, -⟩ := hexchange
        cases h
        exact .grant hlt
      · cases h
        exact .retry hlt
  next => cases h; exact .drop
  next => cases h

/-- A step writes at most the current value. -/
lemma Acquire.Steps.mem_values {c : AcquireChoice} {call call' : Acquire}
    {counter counter' : Atomic UInt64} (h : Acquire.Steps counter c call call' counter')
    {value : UInt64} (hvalue : value ∈ counter'.values) :
    value = counter'.current ∨ value ∈ counter.values := by
  cases h with
  | load | refuse | retry => exact Or.inr hvalue
  | grant | drop => exact List.mem_cons.mp hvalue

def Acquire.isGranted : Acquire → Bool
  | .granted => true
  | _ => false

/-- Below a maximum the counter does not overflow. -/
lemma toNat_add_one_of_lt {a b : UInt64} (h : a < b) : (a + 1).toNat = a.toNat + 1 := by
  have hlt := UInt64.lt_iff_toNat_lt.mp h
  have hmax := b.toNat_lt
  rw [UInt64.toNat_add, UInt64.toNat_one]
  omega

lemma toNat_sub_one_of_pos {a : UInt64} (h : 0 < a.toNat) : (a - 1).toNat = a.toNat - 1 :=
  UInt64.toNat_sub_of_le _ _ (UInt64.le_iff_toNat_le.mpr h)

/-! ### Runs -/

/-- The counter, and every call so far. -/
abbrev ConnectionLimiter := Pool Acquire (Atomic UInt64)

abbrev LimiterEvent := Pool.Event Acquire AcquireChoice

namespace ConnectionLimiter

/-- The number of permits that live. -/
def live (s : ConnectionLimiter) : ℕ := s.parties.countP Acquire.isGranted

abbrev next (s : ConnectionLimiter) : LimiterEvent → Option ConnectionLimiter :=
  Pool.next Acquire.step s

/-- The runs of a new limiter. A call may come with any maximum. -/
abbrev Run : List (ConnectionLimiter × LimiterEvent) → ConnectionLimiter → Prop :=
  Pool.Run Acquire.step (fun call => ∃ maximum, call = .called maximum) (.new 0)

/-- The number of permits that live at some instant of a run up to `s` was `value`. -/
def WasLive (history : List (ConnectionLimiter × LimiterEvent)) (s : ConnectionLimiter)
    (value : UInt64) : Prop :=
  ∃ t ∈ history.map Prod.fst ++ [s], t.live = value.toNat

/-- What the call in position `i` knows of the counter is `value`, from its last step. So many
permits lived at that moment, or earlier where its load took an old value. -/
def Observed (history : List (ConnectionLimiter × LimiterEvent)) (i : ℕ) (value : UInt64) : Prop :=
  ∃ past t w later, history = past ++ (t, .move i (.goesOn w)) :: later ∧
    (∀ e ∈ later, e.2.mover ≠ some i) ∧ t.shared.load w.age = value ∧
    (w.age = 0 → t.live = value.toNat) ∧ WasLive past t value

variable {history : List (ConnectionLimiter × LimiterEvent)} {s : ConnectionLimiter}

lemma live_pos {i : ℕ} (hcall : s.parties[i]? = some .granted) : 0 < s.live :=
  List.countP_pos_iff.mpr ⟨_, List.mem_of_getElem? hcall, rfl⟩

/-- The instants of a run that has gone on. -/
lemma mem_instants {past later : List (ConnectionLimiter × LimiterEvent)}
    {t u : ConnectionLimiter} {e : LimiterEvent} (hu : u ∈ past.map Prod.fst ++ [t]) :
    u ∈ (past ++ (t, e) :: later).map Prod.fst ++ [s] := by
  have hpast : (past ++ (t, e) :: later).map Prod.fst ++ [s] =
      (past.map Prod.fst ++ [t]) ++ (later.map Prod.fst ++ [s]) := by
    simp
  rw [hpast]
  exact List.mem_append_left _ hu

lemma current_eq_live (h : Run history s) : s.shared.current.toNat = s.live := by
  refine h.count (m := fun counter => counter.current.toNat) rfl ?_ ?_
  · rintro call ⟨maximum, rfl⟩
    rfl
  · intro c call counter call' counter' hstep hpos
    cases Acquire.step_cases hstep with
    | load => rfl
    | refuse => rfl
    | retry => rfl
    | @grant w maximum hlt =>
      exact toNat_add_one_of_lt hlt
    | drop =>
      have hpos : 0 < counter.current.toNat := hpos rfl
      have hpred := toNat_sub_one_of_pos hpos
      change (counter.current - 1).toNat + 1 = counter.current.toNat
      omega

/-- Every value that the counter has had is the number of permits at some instant. -/
lemma wasLive_of_mem (h : Run history s) {value : UInt64} (hvalue : value ∈ s.shared.values) :
    WasLive history s value := by
  induction h with
  | start =>
    obtain rfl : value = 0 := List.mem_singleton.mp hvalue
    exact ⟨_, List.mem_singleton_self _, rfl⟩
  | @next history s s' e h he hs ih =>
    have hearlier : value ∈ s.shared.values → WasLive (history ++ [(s, e)]) s' value := by
      intro hold
      obtain ⟨t, ht, hlive⟩ := ih hold
      exact ⟨t, mem_instants ht, hlive⟩
    obtain ⟨call, rfl, rfl⟩ | ⟨i, c, call, call', counter, rfl, -, hmove, rfl⟩ := Pool.next_cases hs
    · exact hearlier hvalue
    · rcases (Acquire.step_cases hmove).mem_values hvalue with rfl | hold
      · exact ⟨_, List.mem_append_right _ (List.mem_singleton_self _),
          (current_eq_live (h.next he hs)).symm⟩
      · exact hearlier hold

/-- What a call compares with its maximum, it has observed. -/
lemma observed_of_trying (h : Run history s) {i : ℕ} {maximum active : UInt64}
    (hcall : s.parties[i]? = some (.trying maximum active)) : Observed history i active := by
  rcases h.last_step hcall with ⟨_, henters⟩ |
    ⟨past, t, c, call, counter, later, rfl, hlater, hpast, -, hstep⟩
  · cases henters
  · have hload : ∀ w : Weak, c = .goesOn w → active = t.shared.load w.age →
        Observed (past ++ (t, .move i c) :: later) i active := by
      rintro w rfl rfl
      refine ⟨past, t, w, later, rfl, hlater, rfl, fun hage => ?_,
        wasLive_of_mem hpast (t.shared.load_mem w.age)⟩
      rw [hage, Atomic.load_zero]
      exact (current_eq_live hpast).symm
    cases Acquire.step_cases hstep with
    | load => exact hload _ rfl rfl
    | retry => exact hload _ rfl rfl

/-- In every interleaving the counter is the number of permits that live. A step that drops a permit
meets a positive counter, one that grants a permit meets fewer permits than its call's maximum, and a
call that is refused has observed its maximum at least. -/
theorem permits_counted (h : Run history s) :
    s.shared.current.toNat = s.live ∧
    ∀ i c call call' counter, s.parties[i]? = some call →
      Acquire.step c call s.shared = some (call', counter) →
      (call = .granted → 0 < s.shared.current.toNat) ∧
      ∀ maximum active, call = .trying maximum active →
        (call' = .granted → s.live < maximum.toNat) ∧
        (call' = .refused → maximum ≤ active ∧ Observed history i active) := by
  have hlive := current_eq_live h
  refine ⟨hlive, fun i c call call' counter hcall hstep => ⟨?_, ?_⟩⟩
  · rintro rfl
    exact hlive ▸ live_pos hcall
  · rintro maximum active rfl
    refine ⟨?_, ?_⟩
    · rintro rfl
      cases Acquire.step_cases hstep with
      | grant hlt =>
        rw [← hlive]
        exact UInt64.lt_iff_toNat_lt.mp hlt
    · rintro rfl
      cases Acquire.step_cases hstep with
      | refuse hfull => exact ⟨hfull, observed_of_trying h hcall⟩

/-- Two calls for one place: both read 0, one is granted, and the exchange of the other fails. It is
refused, as it has observed 1. -/
theorem permits_counted_race :
    let w : AcquireChoice := .goesOn ⟨0, false⟩
    ∃ history, history.map Prod.snd = [.enter (.called 1), .enter (.called 1), .move 0 w,
        .move 1 w, .move 0 w, .move 1 w] ∧
      Run history ⟨[.granted, .trying 1 1], ⟨1, [0]⟩⟩ ∧ Observed history 1 1 := by
  intro w
  have hstart : Run [] ⟨[], .new 0⟩ := .start
  have hend : Pool.follow Acquire.step ⟨[], .new 0⟩ [.enter (.called 1), .enter (.called 1),
      .move 0 w, .move 1 w, .move 0 w, .move 1 w] =
      some (⟨[.granted, .trying 1 1], ⟨1, [0]⟩⟩ : ConnectionLimiter) := rfl
  obtain ⟨history, h, hevents⟩ := hstart.follow (by simp) hend
  exact ⟨history, hevents, h, (((permits_counted h).2 1 w _ _ _ rfl rfl).2 1 1 rfl).2 rfl |>.2⟩

/-! ### The accept branch -/

/-- The loop of `run` at some instant: it counts the permits that live then, and its limit is that
of the call. -/
structure Counts [Xdb] (server : Server) (s : ConnectionLimiter) (maximum : UInt64) : Prop where
  active : server.active = s.live
  maximum : server.published.config.server.maxConnections = maximum.toNat

/-- The accept branch at one instant does what a call does step by step. It takes the connection
where the exchange succeeds, and it warns where the refused call has read the counter; and the end of
a handler is the drop of its permit. -/
theorem accept_at_instant [Xdb] (h : Run history s) {i : ℕ} {c : AcquireChoice}
    {call call' : Acquire} {s' : ConnectionLimiter} (hcall : s.parties[i]? = some call)
    (hs : s.next (.move i c) = some s') (hcall' : s'.parties[i]? = some call') :
    (∀ maximum active, call = .trying maximum active →
      (call' = .granted → ∀ server, Counts server s maximum → ∀ peer,
        server.accept (.ok peer) = .serving { server with active := s'.live }) ∧
      (call' = .refused → ∃ t ∈ history.map Prod.fst ++ [s], ∀ server, Counts server t maximum →
        ∀ peer, server.accept (.ok peer) = .serving (server.logged .warn
          (server.published.language.render "log.connection_limit" [])))) ∧
    ∀ result, call' = .dropped result → ∀ server maximum, Counts server s maximum →
      (server.handlerEnded result).active = s'.live := by
  have hlive := current_eq_live h
  have hlive' : s'.shared.current.toNat = s'.live := current_eq_live (h.next (by simp) hs)
  obtain ⟨_, hevent, -⟩ | ⟨_, _, call₁, call₁', counter, hevent, hcall₁, hstep, rfl⟩ :=
    Pool.next_cases hs
  · cases hevent
  cases hevent
  obtain rfl : call = call₁ := Option.some.inj (hcall.symm.trans hcall₁)
  obtain ⟨hi, -⟩ := List.getElem?_eq_some_iff.mp hcall
  obtain rfl : call₁' = call' := by simpa [hi] using hcall'
  rw [← hlive']
  refine ⟨fun maximum active htrying => ⟨?_, ?_⟩, ?_⟩
  · rintro rfl server hserver peer
    cases Acquire.step_cases hstep with
    | grant hlt =>
      obtain ⟨rfl, rfl⟩ := Acquire.trying.inj htrying
      rw [Server.accept, hserver.active, hserver.maximum, ← hlive,
        if_neg (Nat.not_le.mpr (UInt64.lt_iff_toNat_lt.mp hlt))]
      exact congrArg (fun n => Progress.serving { server with active := n })
        (toNat_add_one_of_lt hlt).symm
  · rintro rfl
    subst htrying
    obtain ⟨past, t, w, later, rfl, -, -, -, u, hu, hvalue⟩ := observed_of_trying h hcall
    refine ⟨u, mem_instants hu, fun server hserver peer => ?_⟩
    cases Acquire.step_cases hstep with
    | refuse hfull =>
      rw [Server.accept, hserver.active, hserver.maximum, hvalue,
        if_pos (UInt64.le_iff_toNat_le.mp hfull)]
  · rintro result rfl server maximum hserver
    cases Acquire.step_cases hstep with
    | drop =>
      have hended : (server.handlerEnded result).active = server.active - 1 := by
        cases result <;> rfl
      have hpos : 0 < s.shared.current.toNat := hlive ▸ live_pos hcall
      rw [hended, hserver.active, ← hlive]
      exact (toNat_sub_one_of_pos hpos).symm

end ConnectionLimiter

end TransferGateway
