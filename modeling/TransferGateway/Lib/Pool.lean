import Mathlib.Data.List.Basic
import Mathlib.Tactic.Common

/-!
# Parties on a shared state

Any number of parties take steps on a state that they share. Their steps are interleaved in any way,
and new parties come at any moment. What a party does is given by a step function, with a label for
what the environment settles.

An `Atomic` is a cell that the parties use without a lock.
-/

/-! ### Pools -/

/-- The parties, which keep their positions, and what they share. -/
structure Pool (τ : Type*) (σ : Type*) where
  parties : List τ
  shared : σ

namespace Pool

/-- A party comes, or one of the parties takes a step. -/
inductive Event (τ : Type*) (L : Type*) where
  | enter (p : τ)
  | move (i : ℕ) (l : L)

variable {τ σ L : Type*}

/-- The party that takes a step. -/
def Event.mover : Event τ L → Option ℕ
  | .enter _  => none
  | .move i _ => some i

section Step

variable (step : L → τ → σ → Option (τ × σ))

/-- The pool after an event, if it can happen. -/
def next (s : Pool τ σ) : Event τ L → Option (Pool τ σ)
  | .enter p  => some ⟨s.parties ++ [p], s.shared⟩
  | .move i l =>
    s.parties[i]?.bind fun p => (step l p s.shared).map fun r => ⟨s.parties.set i r.1, r.2⟩

/-- The pool after some events. -/
def follow (s : Pool τ σ) (events : List (Event τ L)) : Option (Pool τ σ) :=
  events.foldlM (next step) s

/-- The runs, with each event and the pool it has met. Only parties that satisfy `enters` come. -/
inductive Run (enters : τ → Prop) (start : σ) :
    List (Pool τ σ × Event τ L) → Pool τ σ → Prop where
  | start : Run enters start [] ⟨[], start⟩
  | next {history : List (Pool τ σ × Event τ L)} {s s' : Pool τ σ} {e : Event τ L}
      (h : Run enters start history s) (he : ∀ p, e = .enter p → enters p)
      (hs : s.next step e = some s') : Run enters start (history ++ [(s, e)]) s'

end Step

variable {step : L → τ → σ → Option (τ × σ)} {enters : τ → Prop} {start : σ}

/-- All that an event can do. -/
lemma next_cases {s s' : Pool τ σ} {e : Event τ L} (h : s.next step e = some s') :
    (∃ p, e = .enter p ∧ s' = ⟨s.parties ++ [p], s.shared⟩) ∨
    ∃ i l p p' shared, e = .move i l ∧ s.parties[i]? = some p ∧
      step l p s.shared = some (p', shared) ∧ s' = ⟨s.parties.set i p', shared⟩ := by
  cases e with
  | enter p => exact Or.inl ⟨p, rfl, (Option.some.inj h).symm⟩
  | move i l =>
    obtain ⟨p, hp, h⟩ := Option.bind_eq_some_iff.mp h
    obtain ⟨⟨p', shared⟩, hstep, rfl⟩ := Option.map_eq_some_iff.mp h
    exact Or.inr ⟨i, l, p, p', shared, rfl, hp, hstep, rfl⟩

namespace Run

/-- A run goes on with a script. -/
lemma follow {history : List (Pool τ σ × Event τ L)} {s s' : Pool τ σ} {events : List (Event τ L)}
    (h : Run step enters start history s) (henters : ∀ p, .enter p ∈ events → enters p)
    (hs : s.follow step events = some s') :
    ∃ history', Run step enters start history' s' ∧
      history'.map Prod.snd = history.map Prod.snd ++ events := by
  induction events generalizing history s with
  | nil =>
    obtain rfl : s = s' := Option.some.inj hs
    exact ⟨history, h, (List.append_nil _).symm⟩
  | cons e events ih =>
    rw [Pool.follow, List.foldlM_cons] at hs
    obtain ⟨s₁, hs₁, hs⟩ := Option.bind_eq_some_iff.mp hs
    have hfirst : Run step enters start (history ++ [(s, e)]) s₁ := by
      refine h.next (fun p hp => henters p ?_) hs₁
      rw [hp]
      exact List.mem_cons_self
    obtain ⟨history', hrun, hevents⟩ :=
      ih hfirst (fun p hp => henters p (List.mem_cons_of_mem _ hp)) hs
    exact ⟨history', hrun, by simp [hevents]⟩

/-- A run of some parties is one of others, if those are among them. -/
lemma mono {enters' : τ → Prop} {history : List (Pool τ σ × Event τ L)} {s : Pool τ σ}
    (h : Run step enters start history s) (henters : ∀ p, enters p → enters' p) :
    Run step enters' start history s := by
  induction h with
  | start => exact .start
  | next h he hs ih => exact ih.next (fun p hp => henters p (he p hp)) hs

/-- What holds of every party that comes, and of the state at the start, holds as long as the steps
keep it. -/
theorem invariant {P : τ → Prop} {I : σ → Prop} {history : List (Pool τ σ × Event τ L)}
    {s : Pool τ σ} (h : Run step enters start history s) (hstart : I start)
    (henters : ∀ p, enters p → P p)
    (hstep : ∀ l p s p' s', step l p s = some (p', s') → P p → I s → P p' ∧ I s') :
    I s.shared ∧ ∀ p ∈ s.parties, P p := by
  induction h with
  | start => exact ⟨hstart, by simp⟩
  | next h he hs ih =>
    obtain ⟨p, rfl, rfl⟩ | ⟨i, l, p, p', shared, rfl, hp, hmove, rfl⟩ := next_cases hs
    · refine ⟨ih.1, fun q hq => ?_⟩
      rcases List.mem_append.mp hq with hq | hq
      · exact ih.2 q hq
      · exact List.mem_singleton.mp hq ▸ henters p (he p rfl)
    · obtain ⟨hp', hshared⟩ := hstep l p _ p' shared hmove (ih.2 p (List.mem_of_getElem? hp)) ih.1
      refine ⟨hshared, fun q hq => ?_⟩
      rcases List.mem_or_eq_of_mem_set hq with hq | rfl
      · exact ih.2 q hq
      · exact hp'

/-- A number in the shared state counts the parties of a kind, as long as each step accounts for
what it does to its own party. -/
theorem count {b : τ → Bool} {m : σ → ℕ} {history : List (Pool τ σ × Event τ L)} {s : Pool τ σ}
    (h : Run step enters start history s) (hstart : m start = 0)
    (henters : ∀ p, enters p → b p = false)
    (hstep : ∀ l p s p' s', step l p s = some (p', s') → (b p = true → 0 < m s) →
      m s' + (b p).toNat = m s + (b p').toNat) :
    m s.shared = s.parties.countP b := by
  induction h with
  | start => exact hstart
  | next h he hs ih =>
    obtain ⟨p, rfl, rfl⟩ | ⟨i, l, p, p', shared, rfl, hp, hmove, rfl⟩ := next_cases hs
    · simp [ih, henters p (he p rfl)]
    · obtain ⟨hi, rfl⟩ := List.getElem?_eq_some_iff.mp hp
      have hpos : b _ = true → 0 < _ := fun hb =>
        List.countP_pos_iff.mpr ⟨_, List.getElem_mem hi, hb⟩
      have haccount := hstep l _ _ p' shared hmove (ih ▸ hpos)
      rw [ih] at haccount
      simp only [List.countP_set hi]
      cases hb : b _ <;> cases hb' : b p' <;>
        simp only [hb, hb', Bool.toNat_false, Bool.toNat_true, forall_const] at haccount hpos ⊢ <;>
        simp <;> omega

/-- A party is as it came, or as its last step has left it. -/
theorem last_step {history : List (Pool τ σ × Event τ L)} {s : Pool τ σ} {i : ℕ} {p : τ}
    (h : Run step enters start history s) (hp : s.parties[i]? = some p) :
    enters p ∨ ∃ past t l q shared later, history = past ++ (t, .move i l) :: later ∧
      (∀ e ∈ later, e.2.mover ≠ some i) ∧ Run step enters start past t ∧
      t.parties[i]? = some q ∧ step l q t.shared = some (p, shared) := by
  induction h with
  | start => simp at hp
  | @next history s s' e h he hs ih =>
    -- a later event of another party changes nothing
    have hlater : e.mover ≠ some i → s.parties[i]? = some p →
        enters p ∨ ∃ past t l q shared later,
          history ++ [(s, e)] = past ++ (t, .move i l) :: later ∧
          (∀ e ∈ later, e.2.mover ≠ some i) ∧ Run step enters start past t ∧
          t.parties[i]? = some q ∧ step l q t.shared = some (p, shared) := by
      intro hne hold
      rcases ih hold with henters | ⟨past, t, l, q, shared, later, rfl, hlater, hrest⟩
      · exact Or.inl henters
      · refine Or.inr ⟨past, t, l, q, shared, later ++ [(s, e)], by simp, ?_, hrest⟩
        intro e' he'
        rcases List.mem_append.mp he' with he' | he'
        · exact hlater e' he'
        · exact List.mem_singleton.mp he' ▸ hne
    obtain ⟨q, rfl, rfl⟩ | ⟨j, l, q, q', shared, rfl, hq, hmove, rfl⟩ := next_cases hs
    · by_cases hi : i < s.parties.length
      · exact hlater (by simp [Event.mover]) (by rwa [List.getElem?_append_left hi] at hp)
      · rw [List.getElem?_append_right (Nat.le_of_not_lt hi)] at hp
        have hmem := List.mem_of_getElem? hp
        exact Or.inl (List.mem_singleton.mp hmem ▸ he q rfl)
    · by_cases hij : j = i
      · subst hij
        obtain ⟨hi, -⟩ := List.getElem?_eq_some_iff.mp hq
        obtain rfl : q' = p := by simpa [hi] using hp
        exact Or.inr ⟨history, s, l, q, shared, [], rfl, by simp, h, hq, hmove⟩
      · exact hlater (by simpa [Event.mover] using hij) (by rwa [List.getElem?_set_ne hij] at hp)

end Run

end Pool

/-! ### Atomic cells -/

/-- A cell with the values that were overwritten, the latest first. -/
structure Atomic (α : Type*) where
  current : α
  earlier : List α

/-- What the hardware settles: how old the value is that a load takes, and whether a weak exchange
fails for no reason. -/
structure Weak where
  age : ℕ
  spurious : Bool

namespace Atomic

variable {α : Type*}

def new (a : α) : Atomic α := ⟨a, []⟩

/-- Every value that the cell has had. -/
def values (c : Atomic α) : List α := c.current :: c.earlier

def write (c : Atomic α) (a : α) : Atomic α := ⟨a, c.values⟩

/-- A load takes some value that the cell has had; the current one is of age 0. -/
def load (c : Atomic α) (age : ℕ) : α := c.values.getD age c.current

/-- An exchange acts on the current value. A weak one may fail where that is the expected one, and
a failed one is a load. -/
def compareExchangeWeak [DecidableEq α] (c : Atomic α) (expected new : α) (w : Weak) :
    Except α α × Atomic α :=
  if c.current = expected ∧ w.spurious = false then (.ok c.current, c.write new)
  else (.error (c.load w.age), c)

def fetchSub [Sub α] (c : Atomic α) (a : α) : α × Atomic α :=
  (c.current, c.write (c.current - a))

@[simp] lemma load_zero (c : Atomic α) : c.load 0 = c.current := rfl

lemma load_mem (c : Atomic α) (age : ℕ) : c.load age ∈ c.values := by
  rw [load, List.getD_eq_getElem?_getD]
  cases h : c.values[age]? with
  | none => exact List.mem_cons_self
  | some a => exact List.mem_of_getElem? h

end Atomic
