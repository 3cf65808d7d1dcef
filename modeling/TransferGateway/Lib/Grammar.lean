import Mathlib.Data.List.Infix
import Mathlib.Tactic.Common

/-!
# Readers and grammars

A reader is a program with an input and errors that takes a front part of the input. A grammar
relates values to the words that spell them. A reader recognizes a grammar when it returns a value
exactly where a word of the value comes next, and goes on behind that word; it accepts a language
when it returns a value exactly where the whole rest of the input spells it.

The rules follow the structure of a reader, so a grammar for it can be read off its text.
-/

namespace Grammar

/-- Inputs that are read from the front. -/
class Input (σ : Type) (τ : outParam Type) where
  /-- What is left to read. -/
  rest : σ → List τ
  /-- The input behind the next tokens. -/
  skip : σ → ℕ → σ
  Valid : σ → Prop
  rest_skip (s : σ) (n : ℕ) : rest (skip s n) = (rest s).drop n
  skip_zero (s : σ) : skip s 0 = s
  skip_skip (s : σ) (m n : ℕ) : skip (skip s m) n = skip s (m + n)
  valid_skip {s : σ} {n : ℕ} : Valid s → n ≤ (rest s).length → Valid (skip s n)

open Input

variable {σ τ ε α β : Type}

/-- A word of `G`, and behind it one of the grammar that its value selects. -/
def seq (G : α → List τ → Prop) (H : α → β → List τ → Prop) (b : β) (w : List τ) : Prop :=
  ∃ a u v, G a u ∧ H a b v ∧ w = u ++ v

/-- The empty word, for one value. -/
def empty (a : α) (b : α) (w : List τ) : Prop :=
  b = a ∧ w = []

section Input

variable [Input σ τ]

/-- The reader returns `a` exactly where a word of `a` comes next, and goes on behind it. -/
def Recognizes (p : StateT σ (Except ε) α) (G : α → List τ → Prop) : Prop :=
  ∀ s, Valid s → ∀ a s', p s = .ok (a, s') ↔
    ∃ w, G a w ∧ w <+: rest s ∧ s' = skip s w.length

/-- The reader returns `a` exactly where the rest of the input spells `a`. -/
def Accepts (p : StateT σ (Except ε) α) (L : α → List τ → Prop) : Prop :=
  ∀ s, Valid s → ∀ a, (∃ s', p s = .ok (a, s')) ↔ L a (rest s)

/-- Every error of the reader is one of `E`. -/
def Fails (p : StateT σ (Except ε) α) (E : ε → Prop) : Prop :=
  ∀ s, Valid s → ∀ e, p s = .error e → E e

lemma bind_eq_ok {p : StateT σ (Except ε) α} {f : α → StateT σ (Except ε) β} {s s' : σ} {b : β} :
    (p >>= f) s = .ok (b, s') ↔ ∃ a s₁, p s = .ok (a, s₁) ∧ f a s₁ = .ok (b, s') := by
  change (p s >>= fun x => f x.1 x.2) = _ ↔ _
  rcases p s with e | ⟨a, s₁⟩
  · simp [bind, Except.bind]
  · constructor
    · intro h
      exact ⟨a, s₁, rfl, h⟩
    · rintro ⟨a', s₂, h, hf⟩
      cases h
      exact hf

lemma bind_eq_error {p : StateT σ (Except ε) α} {f : α → StateT σ (Except ε) β} {s : σ} {e : ε} :
    (p >>= f) s = .error e ↔
      p s = .error e ∨ ∃ a s₁, p s = .ok (a, s₁) ∧ f a s₁ = .error e := by
  change (p s >>= fun x => f x.1 x.2) = _ ↔ _
  rcases p s with e' | ⟨a, s₁⟩
  · simp [bind, Except.bind]
  · constructor
    · intro h
      exact Or.inr ⟨a, s₁, rfl, h⟩
    · rintro (h | ⟨a', s₂, h, hf⟩)
      · cases h
      · cases h
        exact hf

/-- A result that is there is used at once. -/
lemma liftM_ok_bind (a : α) (f : α → StateT σ (Except ε) β) :
    (liftM (Except.ok a : Except ε α) : StateT σ (Except ε) α) >>= f = f a := rfl

/-- A word and one behind it are a front part together. -/
lemma append_prefix_iff {u v w : List τ} :
    u ++ v <+: w ↔ u <+: w ∧ v <+: w.drop u.length := by
  constructor
  · rintro ⟨t, rfl⟩
    simp [List.append_assoc]
  · rintro ⟨⟨t, rfl⟩, h⟩
    rw [List.drop_left] at h
    exact (List.prefix_append_right_inj u).mpr h

namespace Recognizes

variable {G : α → List τ → Prop} {H : α → β → List τ → Prop}

lemma congr {G' : α → List τ → Prop} {p : StateT σ (Except ε) α} (hp : Recognizes p G)
    (h : ∀ a w, G a w ↔ G' a w) : Recognizes p G' := by
  intro s hs a s'
  rw [hp s hs]
  exact exists_congr fun w => and_congr_left fun _ => h a w

/-- Where a word of the grammar comes next the input stays valid behind it. -/
lemma valid {s : σ} (hs : Valid s) {w : List τ} (hw : w <+: rest s) :
    Valid (skip s w.length) :=
  valid_skip hs hw.length_le

lemma pure (a : α) : Recognizes (ε := ε) (Pure.pure a : StateT σ (Except ε) α) (empty a) := by
  intro s hs b s'
  change Except.ok (a, s) = _ ↔ _
  constructor
  · intro h
    cases h
    exact ⟨[], ⟨rfl, rfl⟩, List.nil_prefix, (skip_zero s).symm⟩
  · rintro ⟨w, ⟨rfl, rfl⟩, -, rfl⟩
    rw [List.length_nil, skip_zero]

lemma throw (e : ε) : Recognizes (MonadExcept.throw e : StateT σ (Except ε) α)
    (fun _ (_ : List τ) => False) := by
  intro s _ a s'
  change Except.error e = _ ↔ _
  simp

/-- A result that is already there. -/
lemma ofExcept (x : Except ε α) :
    Recognizes (liftM x : StateT σ (Except ε) α) fun a (w : List τ) => x = .ok a ∧ w = [] := by
  cases x with
  | ok a =>
    refine (pure a).congr fun b w => ?_
    simp only [empty, Except.ok.injEq, eq_comm]
  | error e =>
    refine (throw e).congr fun b w => ?_
    simp

/-- `if c { return Err(e) }`, and then the rest. -/
lemma guard {c : Prop} [Decidable c] {e : ε} {p : StateT σ (Except ε) α} (hp : Recognizes p G) :
    Recognizes (if c then MonadExcept.throw e else p) fun a w => ¬c ∧ G a w := by
  split_ifs with hc
  · exact (throw e).congr fun a w => by simp [hc]
  · exact hp.congr fun a w => by simp [hc]

lemma bind {p : StateT σ (Except ε) α} {f : α → StateT σ (Except ε) β} (hp : Recognizes p G)
    (hf : ∀ a, Recognizes (f a) (H a)) : Recognizes (p >>= f) (seq G H) := by
  intro s hs b s'
  rw [bind_eq_ok]
  constructor
  · rintro ⟨a, s₁, ha, hb⟩
    obtain ⟨u, hu, hpre, rfl⟩ := (hp s hs a s₁).mp ha
    obtain ⟨v, hv, hpre', rfl⟩ := (hf a _ (valid hs hpre) b s').mp hb
    rw [rest_skip] at hpre'
    refine ⟨u ++ v, ⟨a, u, v, hu, hv, rfl⟩, append_prefix_iff.mpr ⟨hpre, hpre'⟩, ?_⟩
    rw [skip_skip, List.length_append]
  · rintro ⟨_, ⟨a, u, v, hu, hv, rfl⟩, hpre, rfl⟩
    obtain ⟨hpre, hpre'⟩ := append_prefix_iff.mp hpre
    refine ⟨a, _, (hp s hs a _).mpr ⟨u, hu, hpre, rfl⟩, ?_⟩
    rw [hf a _ (valid hs hpre)]
    refine ⟨v, hv, ?_, ?_⟩
    · rwa [rest_skip]
    · rw [skip_skip, List.length_append]

/-- The reader returns the value of the word that comes next. -/
lemma eq_ok {p : StateT σ (Except ε) α} (hp : Recognizes p G) {s : σ} (hs : Valid s) {a : α}
    {w : List τ} (hw : G a w) (hpre : w <+: rest s) : p s = .ok (a, skip s w.length) :=
  (hp s hs a _).mpr ⟨w, hw, hpre, rfl⟩

/-- A recognized grammar is unambiguous: two words in front of one input are the same. -/
lemma unique {p : StateT σ (Except ε) α} (hp : Recognizes p G) {s : σ} (hs : Valid s) {a b : α}
    {u v : List τ} (ha : G a u) (hb : G b v) (hu : u <+: rest s) (hv : v <+: rest s) :
    a = b ∧ u = v := by
  have heq : (a, skip s u.length) = (b, skip s v.length) :=
    Except.ok.inj ((hp.eq_ok hs ha hu).symm.trans (hp.eq_ok hs hb hv))
  have hskip := congrArg (fun x : α × σ => (rest x.2).length) heq
  simp only [rest_skip, List.length_drop] at hskip
  have hlength : u.length = v.length := by
    have := hu.length_le
    have := hv.length_le
    omega
  exact ⟨congrArg Prod.fst heq, List.IsPrefix.eq_of_length
    (List.prefix_of_prefix_length_le hu hv hlength.le) hlength⟩

end Recognizes

/-- A front part that is recognized, and a rest that is accepted. -/
lemma Recognizes.accepts_bind {G : α → List τ → Prop} {L : α → β → List τ → Prop}
    {p : StateT σ (Except ε) α} {f : α → StateT σ (Except ε) β} (hp : Recognizes p G)
    (hf : ∀ a, Accepts (f a) (L a)) : Accepts (p >>= f) (seq G L) := by
  intro s hs b
  constructor
  · rintro ⟨s', h⟩
    obtain ⟨a, s₁, ha, hb⟩ := bind_eq_ok.mp h
    obtain ⟨u, hu, hpre, rfl⟩ := (hp s hs a s₁).mp ha
    have hrest := (hf a _ (Recognizes.valid hs hpre) b).mp ⟨s', hb⟩
    rw [rest_skip] at hrest
    exact ⟨a, u, _, hu, hrest, (List.prefix_iff_eq_append.mp hpre).symm⟩
  · rintro ⟨a, u, v, hu, hv, hrest⟩
    have hpre : u <+: rest s := hrest ▸ List.prefix_append u v
    obtain ⟨s', hs'⟩ := (hf a (skip s u.length) (Recognizes.valid hs hpre) b).mpr (by
      rw [rest_skip, hrest, List.drop_left]
      exact hv)
    exact ⟨s', bind_eq_ok.mpr ⟨a, _, hp.eq_ok hs hu hpre, hs'⟩⟩

/-! ### Errors -/

namespace Fails

variable {E E' : ε → Prop}

lemma mono {p : StateT σ (Except ε) α} (hp : Fails p E) (hE : ∀ e, E e → E' e) : Fails p E' :=
  fun s hs e h => hE e (hp s hs e h)

lemma pure (a : α) : Fails (Pure.pure a : StateT σ (Except ε) α) E := by
  intro s _ e h
  cases h

lemma throw {e : ε} (he : E e) : Fails (MonadExcept.throw e : StateT σ (Except ε) α) E := by
  intro s _ e' h
  cases h
  exact he

/-- The later part is reached with the values of the grammar only. -/
lemma bind {G : α → List τ → Prop} {p : StateT σ (Except ε) α} {f : α → StateT σ (Except ε) β}
    (hp : Fails p E) (hG : Recognizes p G) (hf : ∀ a w, G a w → Fails (f a) E) :
    Fails (p >>= f) E := by
  intro s hs e h
  obtain h | ⟨a, s₁, ha, he⟩ := bind_eq_error.mp h
  · exact hp s hs e h
  · obtain ⟨w, hw, hpre, rfl⟩ := (hG s hs a s₁).mp ha
    exact hf a w hw _ (Recognizes.valid hs hpre) e he

end Fails

end Input

end Grammar
