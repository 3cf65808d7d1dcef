import Mathlib.Logic.Basic
import Mathlib.Tactic.Common

/-!
# Programs over operations

A program issues operations and goes on with their results, or it returns, or it fails. What an
operation does to a state is given by a handler, and a choice settles what the environment decides
(a fault, an answer from the network). Other parties may change the state before each operation.
An `Env` says which changes and choices are admitted.

`Outcome` is the relation between a start and the ends of the executions that the environment
admits, `wp` the weakest precondition over them, and `run` follows one script.
-/

/-- A program over the operations `S`, where `S β` are those with a result in `β`, that returns
an `α` or fails with an `ε`. -/
inductive Prog (S : Type → Type) (ε α : Type) : Type 1 where
  | ret (a : α)
  | fail (e : ε)
  | call {β : Type} (o : S β) (k : β → Prog S ε α)

/-- What operations do, under a choice. -/
abbrev Handler (S : Type → Type) (C σ : Type) := (β : Type) → S β → C → σ → β × σ

/-- What the environment may do: the changes the others may make, and the choices. -/
structure Env (C σ : Type) where
  interferes : σ → σ → Prop
  admits : C → Prop

/-- No interference, and every choice. -/
def Env.alone (C σ : Type) : Env C σ where
  interferes s s' := s' = s
  admits _ := True

/-- The environment does no more than another one. -/
structure Env.Within {C σ : Type} (E' E : Env C σ) : Prop where
  interferes : ∀ s s', E'.interferes s s' → E.interferes s s'
  admits : ∀ c, E'.admits c → E.admits c

namespace Prog

variable {S T : Type → Type} {ε ε' α β : Type}

/-! ### Composition -/

/-- Sequencing; a failure skips the rest. -/
protected def bind : Prog S ε α → (α → Prog S ε β) → Prog S ε β
  | ret a, f    => f a
  | fail e, _   => fail e
  | call o k, f => call o fun r => (k r).bind f

instance : Monad (Prog S ε) where
  pure := ret
  bind := Prog.bind

protected lemma bind_ret (p : Prog S ε α) : p.bind ret = p := by
  induction p with
  | ret a => rfl
  | fail e => rfl
  | call o k ih => exact congrArg (call o) (funext ih)

protected lemma bind_assoc {γ : Type} (p : Prog S ε α) (f : α → Prog S ε β)
    (g : β → Prog S ε γ) : (p.bind f).bind g = p.bind fun a => (f a).bind g := by
  induction p with
  | ret a => rfl
  | fail e => rfl
  | call o k ih => exact congrArg (call o) (funext ih)

instance : LawfulMonad (Prog S ε) :=
  LawfulMonad.mk' _ Prog.bind_ret (fun _ _ => rfl) Prog.bind_assoc

/-- Issue one operation. -/
def perform (o : S α) : Prog S ε α := call o ret

/-- The outcome of a program as a value, for a `match` on it. -/
def attempt : Prog S ε α → Prog S ε' (Except ε α)
  | ret a    => ret (.ok a)
  | fail e   => ret (.error e)
  | call o k => call o fun r => (k r).attempt

/-- Replace the error. -/
def mapError (f : ε → ε') : Prog S ε α → Prog S ε' α
  | ret a    => ret a
  | fail e   => fail (f e)
  | call o k => call o fun r => (k r).mapError f

/-- `?` on a result that is already there. -/
def ofExcept : Except ε α → Prog S ε α
  | .ok a    => ret a
  | .error e => fail e

@[simp] lemma ofExcept_ok (a : α) : (ofExcept (.ok a) : Prog S ε α) = pure a := rfl

@[simp] lemma ofExcept_error (e : ε) : (ofExcept (.error e) : Prog S ε α) = fail e := rfl

/-- Operations of `S` issued as operations of `T`. -/
def lift (e : (β : Type) → S β → T β) : Prog S ε α → Prog T ε α
  | ret a    => ret a
  | fail err => fail err
  | call o k => call (e _ o) fun r => (k r).lift e

/-! ### Weakest preconditions -/

section Wp

variable {C σ : Type} (h : Handler S C σ) (E : Env C σ)

/-- `Q` holds of the outcome, whatever the others do and the environment chooses. -/
def wp : Prog S ε α → (Except ε α → σ → Prop) → σ → Prop
  | ret a, Q, s    => Q (.ok a) s
  | fail e, Q, s   => Q (.error e) s
  | call o k, Q, s =>
    ∀ s', E.interferes s s' → ∀ c, E.admits c → (k (h _ o c s').1).wp Q (h _ o c s').2

variable {h E}

@[simp] lemma wp_ret (a : α) (Q : Except ε α → σ → Prop) (s : σ) :
    (ret a : Prog S ε α).wp h E Q s ↔ Q (.ok a) s := Iff.rfl

@[simp] lemma wp_pure (a : α) (Q : Except ε α → σ → Prop) (s : σ) :
    (pure a : Prog S ε α).wp h E Q s ↔ Q (.ok a) s := Iff.rfl

@[simp] lemma wp_fail (e : ε) (Q : Except ε α → σ → Prop) (s : σ) :
    (fail e : Prog S ε α).wp h E Q s ↔ Q (.error e) s := Iff.rfl

@[simp] lemma wp_perform (o : S α) (Q : Except ε α → σ → Prop) (s : σ) :
    (perform o).wp h E Q s ↔
      ∀ s', E.interferes s s' → ∀ c, E.admits c → Q (.ok (h _ o c s').1) (h _ o c s').2 := Iff.rfl

@[simp] lemma wp_ofExcept (x : Except ε α) (Q : Except ε α → σ → Prop) (s : σ) :
    (ofExcept x : Prog S ε α).wp h E Q s ↔ Q x s := by
  cases x <;> rfl

@[simp] lemma wp_bind (p : Prog S ε α) (f : α → Prog S ε β) (Q : Except ε β → σ → Prop) (s : σ) :
    (p >>= f).wp h E Q s ↔
      p.wp h E (fun r s' => match r with
        | .ok a => (f a).wp h E Q s'
        | .error e => Q (.error e) s') s := by
  change (p.bind f).wp h E Q s ↔ _
  induction p generalizing s with
  | ret a => rfl
  | fail e => rfl
  | call o k ih => exact forall₄_congr fun s' _ c _ => ih _ _

@[simp] lemma wp_attempt (p : Prog S ε α) (Q : Except ε' (Except ε α) → σ → Prop) (s : σ) :
    p.attempt.wp h E Q s ↔ p.wp h E (fun r s' => Q (.ok r) s') s := by
  induction p generalizing s with
  | ret a => rfl
  | fail e => rfl
  | call o k ih => exact forall₄_congr fun s' _ c _ => ih _ _

@[simp] lemma wp_mapError (f : ε → ε') (p : Prog S ε α) (Q : Except ε' α → σ → Prop) (s : σ) :
    (p.mapError f).wp h E Q s ↔ p.wp h E (fun r s' => Q (r.mapError f) s') s := by
  induction p generalizing s with
  | ret a => rfl
  | fail e => rfl
  | call o k ih => exact forall₄_congr fun s' _ c _ => ih _ _

/-- Weaken the postcondition. -/
lemma wp_mono {p : Prog S ε α} {Q Q' : Except ε α → σ → Prop} {s : σ}
    (hp : p.wp h E Q s) (hQ : ∀ r s', Q r s' → Q' r s') : p.wp h E Q' s := by
  induction p generalizing s with
  | ret a => exact hQ _ _ hp
  | fail e => exact hQ _ _ hp
  | call o k ih => exact fun s' hs' c hc => ih _ (hp s' hs' c hc)

lemma wp_always {Q : Except ε α → σ → Prop} (hQ : ∀ r s', Q r s') (p : Prog S ε α) (s : σ) :
    p.wp h E Q s := by
  induction p generalizing s with
  | ret a => exact hQ _ _
  | fail e => exact hQ _ _
  | call o k ih => exact fun _ _ _ _ => ih _ _

lemma wp_and {p : Prog S ε α} {Q Q' : Except ε α → σ → Prop} {s : σ}
    (hp : p.wp h E Q s) (hp' : p.wp h E Q' s) :
    p.wp h E (fun r s' => Q r s' ∧ Q' r s') s := by
  induction p generalizing s with
  | ret a => exact ⟨hp, hp'⟩
  | fail e => exact ⟨hp, hp'⟩
  | call o k ih => exact fun s' hs' c hc => ih _ (hp s' hs' c hc) (hp' s' hs' c hc)

/-- A handler that does no more than another one allows. -/
lemma wp_of_restricts {h' : Handler S C σ}
    (hh : ∀ {β} (o : S β) c, E.admits c → ∀ s, ∃ c', E.admits c' ∧ h' β o c s = h β o c' s)
    {p : Prog S ε α} {Q : Except ε α → σ → Prop} {s : σ} (hp : p.wp h E Q s) :
    p.wp h' E Q s := by
  induction p generalizing s with
  | ret a => exact hp
  | fail e => exact hp
  | call o k ih =>
    intro s' hs c hc
    obtain ⟨c', hc', heq⟩ := hh o c hc s'
    have := hp s' hs c' hc'
    rw [← heq] at this
    exact ih _ this

/-- The rule of sequencing: `R` holds in between. -/
lemma wp_seq {p : Prog S ε α} {f : α → Prog S ε β} {R : Except ε α → σ → Prop}
    {Q : Except ε β → σ → Prop} {s : σ} (hp : p.wp h E R s)
    (hok : ∀ a s', R (.ok a) s' → (f a).wp h E Q s')
    (herror : ∀ e s', R (.error e) s' → Q (.error e) s') : (p >>= f).wp h E Q s := by
  rw [wp_bind]
  apply wp_mono hp
  intro r s' hr
  cases r with
  | ok a => exact hok a s' hr
  | error e => exact herror e s' hr

/-- Sequencing, when the value in between is known. -/
lemma wp_seq_value {p : Prog S ε α} {f : α → Prog S ε β} {a : α} {R : σ → Prop}
    {Q : Except ε β → σ → Prop} {s : σ} (hp : p.wp h E (fun r s' => r = .ok a ∧ R s') s)
    (hok : ∀ s', R s' → (f a).wp h E Q s') : (p >>= f).wp h E Q s := by
  apply wp_seq hp
  · rintro b s' ⟨hb, hs'⟩
    cases hb
    exact hok s' hs'
  · rintro e s' ⟨he, -⟩
    cases he

/-- A postcondition that asks nothing of a failure. -/
@[simp] def onOk (Q : α → σ → Prop) : Except ε α → σ → Prop
  | .ok a, s => Q a s
  | .error _, _ => True

/-- Sequencing, when a failure is fine. -/
lemma wp_seq_onOk {p : Prog S ε α} {f : α → Prog S ε β} {R : α → σ → Prop} {Q : β → σ → Prop}
    {s : σ} (hp : p.wp h E (onOk R) s) (hok : ∀ a s', R a s' → (f a).wp h E (onOk Q) s') :
    (p >>= f).wp h E (onOk Q) s :=
  wp_seq hp hok fun _ _ _ => trivial

lemma wp_onOk_true (p : Prog S ε α) (s : σ) : p.wp h E (onOk fun _ _ => True) s := by
  refine wp_always (fun r _ => ?_) p s
  cases r <;> trivial

lemma wp_onOk_mono {p : Prog S ε α} {Q Q' : α → σ → Prop} {s : σ} (hp : p.wp h E (onOk Q) s)
    (hQ : ∀ a s', Q a s' → Q' a s') : p.wp h E (onOk Q') s := by
  apply wp_mono hp
  intro r s' hr
  cases r with
  | ok a => exact hQ a s' hr
  | error e => trivial

/-- A postcondition that asks nothing of a failure, together with one on the state. -/
lemma wp_onOk_and {p : Prog S ε α} {Q : α → σ → Prop} {I : σ → Prop} {s : σ}
    (hp : p.wp h E (onOk Q) s) (hI : p.wp h E (fun _ s' => I s') s) :
    p.wp h E (onOk fun a s' => Q a s' ∧ I s') s := by
  apply wp_mono (wp_and hp hI)
  intro r s' hr
  cases r with
  | ok a => exact hr
  | error e => trivial

/-- A precondition survives interference when the postcondition does. -/
lemma wp_stable (htrans : ∀ {a b c}, E.interferes a b → E.interferes b c → E.interferes a c)
    {p : Prog S ε α} {Q : Except ε α → σ → Prop}
    (hQ : ∀ r s s', Q r s → E.interferes s s' → Q r s') {s s' : σ}
    (hp : p.wp h E Q s) (hs : E.interferes s s') : p.wp h E Q s' := by
  cases p with
  | ret a => exact hQ _ _ _ hp hs
  | fail e => exact hQ _ _ _ hp hs
  | call o k => exact fun s'' hs'' c hc => hp s'' (htrans hs hs'') c hc

/-- Every operation the program may issue satisfies `P`. -/
def All (P : (β : Type) → S β → Prop) : Prog S ε α → Prop
  | ret _    => True
  | fail _   => True
  | call o k => P _ o ∧ ∀ r, (k r).All P

/-- A property that the operations of a program and the others keep holds at its end. -/
lemma wp_invariant {P : (β : Type) → S β → Prop} {I : σ → Prop}
    (hrely : ∀ {s s'}, E.interferes s s' → I s → I s')
    (hop : ∀ {β} (o : S β), P β o → ∀ c, E.admits c → ∀ s, I s → I (h _ o c s).2)
    {p : Prog S ε α} (hp : p.All P) {s : σ} (hs : I s) : p.wp h E (fun _ s' => I s') s := by
  induction p generalizing s with
  | ret a => exact hs
  | fail e => exact hs
  | call o k ih =>
    exact fun s' hs' c hc => ih _ (hp.2 _) (hop o hp.1 c hc s' (hrely hs' hs))

/-- Every execution that starts with `I` ends with it. -/
def Keeps (h : Handler S C σ) (E : Env C σ) (I : σ → Prop) (p : Prog S ε α) : Prop :=
  ∀ s, I s → p.wp h E (fun _ s' => I s') s

namespace Keeps

variable {I : σ → Prop}

lemma ret (a : α) : Keeps h E I (ret a : Prog S ε α) := fun _ hs => hs

lemma fail (e : ε) : Keeps h E I (fail e : Prog S ε α) := fun _ hs => hs

lemma ofExcept (x : Except ε α) : Keeps h E I (ofExcept x : Prog S ε α) := by
  cases x with
  | ok a => exact ret a
  | error e => exact fail e

lemma bind {p : Prog S ε α} {f : α → Prog S ε β} (hp : Keeps h E I p)
    (hf : ∀ a, Keeps h E I (f a)) : Keeps h E I (p >>= f) :=
  fun s hs => wp_seq (hp s hs) (fun a s' hs' => hf a s' hs') fun _ _ hs' => hs'

lemma attempt {p : Prog S ε α} (hp : Keeps h E I p) :
    Keeps h E I (p.attempt : Prog S ε' (Except ε α)) :=
  fun s hs => (wp_attempt p _ s).mpr (hp s hs)

/-- Sequencing after a program that keeps a property. -/
lemma seq {p : Prog S ε α} {f : α → Prog S ε β} {Q : Except ε β → σ → Prop} {s : σ}
    (hp : Keeps h E I p) (hs : I s) (herror : ∀ e s', I s' → Q (.error e) s')
    (hok : ∀ a s', I s' → (f a).wp h E Q s') : (p >>= f).wp h E Q s :=
  wp_seq (hp s hs) hok herror

lemma wp_onOk {p : Prog S ε α} {s : σ} (hp : Keeps h E I p) (hs : I s) :
    p.wp h E (onOk fun _ => I) s := by
  apply wp_mono (hp s hs)
  intro r s' hs'
  cases r with
  | ok a => exact hs'
  | error e => trivial

/-- What the single operations of a program and the others keep, the program keeps. -/
lemma of_all {P : (β : Type) → S β → Prop} {p : Prog S ε α} (hp : p.All P)
    (hrely : ∀ {s s'}, E.interferes s s' → I s → I s')
    (hop : ∀ {β} (o : S β), P β o → ∀ c, E.admits c → ∀ s, I s → I (h _ o c s).2) :
    Keeps h E I p :=
  fun _ hs => wp_invariant hrely hop hp hs

end Keeps

/-! ### Lifting -/

/-- What holds of a program holds of its lifting, over a state that carries the smaller one. -/
lemma wp_lift {D τ : Type} {hT : Handler T D τ} {ET : Env D τ} (e : (β : Type) → S β → T β)
    (π : τ → σ) (κ : D → C)
    (hrely : ∀ {t t'}, ET.interferes t t' → E.interferes (π t) (π t'))
    (hadmits : ∀ {d}, ET.admits d → E.admits (κ d))
    (hop : ∀ {β} (o : S β) d t,
      h _ o (κ d) (π t) = ((hT _ (e _ o) d t).1, π (hT _ (e _ o) d t).2))
    {p : Prog S ε α} {Q : Except ε α → σ → Prop} {t : τ} (hp : p.wp h E Q (π t)) :
    (p.lift e).wp hT ET (fun r t' => Q r (π t')) t := by
  induction p generalizing t with
  | ret a => exact hp
  | fail err => exact hp
  | call o k ih =>
    intro t' ht' d hd
    have := hp (π t') (hrely ht') (κ d) (hadmits hd)
    rw [hop] at this
    exact ih _ this

end Wp

/-! ### Operations a program may issue -/

section All

variable {P P' : (β : Type) → S β → Prop}

@[simp] lemma all_ret (a : α) : (ret a : Prog S ε α).All P ↔ True := Iff.rfl

@[simp] lemma all_pure (a : α) : (pure a : Prog S ε α).All P ↔ True := Iff.rfl

@[simp] lemma all_fail (e : ε) : (fail e : Prog S ε α).All P ↔ True := Iff.rfl

@[simp] lemma all_perform (o : S α) : (perform o : Prog S ε α).All P ↔ P _ o :=
  ⟨fun h => h.1, fun h => ⟨h, fun _ => trivial⟩⟩

@[simp] lemma all_ofExcept (x : Except ε α) : (ofExcept x : Prog S ε α).All P ↔ True := by
  cases x <;> rfl

lemma all_true (p : Prog S ε α) : p.All fun _ _ => True := by
  induction p with
  | ret a => trivial
  | fail e => trivial
  | call o k ih => exact ⟨trivial, ih⟩

lemma All.bind {p : Prog S ε α} {f : α → Prog S ε β} (hp : p.All P)
    (hf : ∀ a, (f a).All P) : (p >>= f).All P := by
  change (p.bind f).All P
  induction p with
  | ret a => exact hf a
  | fail e => trivial
  | call o k ih => exact ⟨hp.1, fun r => ih r (hp.2 r)⟩

@[simp] lemma all_attempt (p : Prog S ε α) :
    (p.attempt : Prog S ε' (Except ε α)).All P ↔ p.All P := by
  induction p with
  | ret a => rfl
  | fail e => rfl
  | call o k ih => exact and_congr Iff.rfl (forall_congr' ih)

@[simp] lemma all_mapError (f : ε → ε') (p : Prog S ε α) : (p.mapError f).All P ↔ p.All P := by
  induction p with
  | ret a => rfl
  | fail e => rfl
  | call o k ih => exact and_congr Iff.rfl (forall_congr' ih)

lemma All.mono {p : Prog S ε α} (hp : p.All P) (h : ∀ {β} (o : S β), P β o → P' β o) :
    p.All P' := by
  induction p with
  | ret a => trivial
  | fail e => trivial
  | call o k ih => exact ⟨h o hp.1, fun r => ih r (hp.2 r)⟩

lemma All.lift {e : (β : Type) → S β → T β} {R : (β : Type) → T β → Prop} {p : Prog S ε α}
    (hp : p.All P) (h : ∀ {β} (o : S β), P β o → R β (e β o)) : (p.lift e).All R := by
  induction p with
  | ret a => trivial
  | fail e => trivial
  | call o k ih => exact ⟨h o hp.1, fun r => ih _ (hp.2 _)⟩

lemma all_forM {l : List α} {f : α → Prog S ε PUnit} (h : ∀ a ∈ l, (f a).All P) :
    (forM l f).All P := by
  induction l with
  | nil => trivial
  | cons a l ih =>
    exact All.bind (h a List.mem_cons_self) fun _ => ih fun b hb => h b (List.mem_cons_of_mem _ hb)

/-- Every value the program may return satisfies `R`. -/
def Returns (R : α → Prop) : Prog S ε α → Prop
  | ret a    => R a
  | fail _   => True
  | call _ k => ∀ r, (k r).Returns R

lemma Returns.bind {R : α → Prop} {R' : β → Prop} {p : Prog S ε α} {f : α → Prog S ε β}
    (hp : p.Returns R) (hf : ∀ a, R a → (f a).Returns R') : (p >>= f).Returns R' := by
  change (p.bind f).Returns R'
  induction p with
  | ret a => exact hf a hp
  | fail e => trivial
  | call o k ih => exact fun r => ih r (hp r)

lemma returns_of_forall {R : α → Prop} (hR : ∀ a, R a) (p : Prog S ε α) : p.Returns R := by
  induction p with
  | ret a => exact hR a
  | fail e => trivial
  | call o k ih => exact ih

/-- Sequencing, when anything may be returned in between. -/
lemma returns_bind {R : β → Prop} {p : Prog S ε α} {f : α → Prog S ε β}
    (hf : ∀ a, (f a).Returns R) : (p >>= f).Returns R :=
  Returns.bind (returns_of_forall (R := fun _ => True) (fun _ => trivial) p) fun a _ => hf a

lemma returns_ofExcept {R : α → Prop} {x : Except ε α} (h : ∀ a, x = .ok a → R a) :
    (ofExcept x : Prog S ε α).Returns R := by
  cases x with
  | ok a => exact h a rfl
  | error e => trivial

lemma Returns.mapError {R : α → Prop} {p : Prog S ε α} (f : ε → ε') (hp : p.Returns R) :
    (p.mapError f).Returns R := by
  induction p with
  | ret a => exact hp
  | fail e => trivial
  | call o k ih => exact fun r => ih r (hp r)

lemma Returns.lift {R : α → Prop} {e : (β : Type) → S β → T β} {p : Prog S ε α}
    (hp : p.Returns R) : (p.lift e).Returns R := by
  induction p with
  | ret a => exact hp
  | fail err => trivial
  | call o k ih => exact fun r => ih r (hp r)

lemma Returns.wp {C σ : Type} {h : Handler S C σ} {E : Env C σ} {R : α → Prop}
    {p : Prog S ε α} (hp : p.Returns R) (s : σ) : p.wp h E (onOk fun a _ => R a) s := by
  induction p generalizing s with
  | ret a => exact hp
  | fail e => trivial
  | call o k ih => exact fun _ _ _ _ => ih _ (hp _) _

/-- Sequencing after a program whose results are known. -/
lemma Keeps.bind_of_returns {C σ : Type} {h : Handler S C σ} {E : Env C σ} {I : σ → Prop}
    {R : α → Prop} {p : Prog S ε α} {f : α → Prog S ε β} (hp : Keeps h E I p) (hr : p.Returns R)
    (hf : ∀ a, R a → Keeps h E I (f a)) : Keeps h E I (p >>= f) :=
  fun s hs => wp_seq (wp_and (hp s hs) (hr.wp s)) (fun a s' h => hf a h.2 s' h.1) fun _ _ h => h.1

/-- Every error the program may fail with satisfies `R`. -/
def Throws (R : ε → Prop) : Prog S ε α → Prop
  | ret _    => True
  | fail e   => R e
  | call _ k => ∀ r, (k r).Throws R

@[simp] lemma throws_perform {R : ε → Prop} (o : S α) : (perform o : Prog S ε α).Throws R :=
  fun _ => trivial

lemma Throws.bind {R : ε → Prop} {p : Prog S ε α} {f : α → Prog S ε β} (hp : p.Throws R)
    (hf : ∀ a, (f a).Throws R) : (p >>= f).Throws R := by
  change (p.bind f).Throws R
  induction p with
  | ret a => exact hf a
  | fail e => exact hp
  | call o k ih => exact fun r => ih r (hp r)

lemma Throws.mapError {R : ε' → Prop} {p : Prog S ε α} {f : ε → ε'}
    (hp : p.Throws fun e => R (f e)) : (p.mapError f).Throws R := by
  induction p with
  | ret a => trivial
  | fail e => exact hp
  | call o k ih => exact fun r => ih r (hp r)

lemma Throws.lift {R : ε → Prop} {e : (β : Type) → S β → T β} {p : Prog S ε α}
    (hp : p.Throws R) : (p.lift e).Throws R := by
  induction p with
  | ret a => trivial
  | fail err => exact hp
  | call o k ih => exact fun r => ih r (hp r)

lemma Throws.wp {C σ : Type} {h : Handler S C σ} {E : Env C σ} {R : ε → Prop} {p : Prog S ε α}
    (hp : p.Throws R) (s : σ) : p.wp h E (fun r _ => ∀ e, r = .error e → R e) s := by
  induction p generalizing s with
  | ret a => simp
  | fail e =>
    intro e' he'
    cases he'
    exact hp
  | call o k ih => exact fun _ _ _ _ => ih _ (hp _) _

lemma All.bind_of_returns {R : α → Prop} {p : Prog S ε α} {f : α → Prog S ε β} (hp : p.All P)
    (hr : p.Returns R) (hf : ∀ a, R a → (f a).All P) : (p >>= f).All P := by
  change (p.bind f).All P
  induction p with
  | ret a => exact hf a hr
  | fail e => trivial
  | call o k ih => exact ⟨hp.1, fun r => ih r (hp.2 r) (hr r)⟩

/-- Every error that an execution ends with satisfies `R`. -/
def Raises {C σ : Type} (h : Handler S C σ) (E : Env C σ) (R : ε → Prop) (p : Prog S ε α) : Prop :=
  ∀ s, p.wp h E (fun r _ => ∀ e, r = .error e → R e) s

namespace Raises

variable {C σ : Type} {h : Handler S C σ} {E : Env C σ} {R : ε → Prop}

lemma ret (a : α) : Raises h E R (ret a : Prog S ε α) := by
  intro s e he
  cases he

lemma fail {e : ε} (he : R e) : Raises h E R (fail e : Prog S ε α) := by
  intro s e' he'
  cases he'
  exact he

lemma ofExcept {x : Except ε α} (hx : ∀ e, x = .error e → R e) :
    Raises h E R (ofExcept x : Prog S ε α) := by
  cases x with
  | ok a => exact ret a
  | error e => exact fail (hx e rfl)

lemma perform (o : S α) : Raises h E R (perform o : Prog S ε α) := by
  intro s s' _ c _ e he
  cases he

lemma bind {p : Prog S ε α} {f : α → Prog S ε β} (hp : Raises h E R p)
    (hf : ∀ a, Raises h E R (f a)) : Raises h E R (p >>= f) := by
  refine fun s => wp_seq (hp s) (fun a s' _ => hf a s') fun e s' h e' he' => ?_
  cases he'
  exact h e rfl

lemma mapError {R' : ε' → Prop} {f : ε → ε'} {p : Prog S ε α} (hp : Raises h E R p)
    (hf : ∀ e, R e → R' (f e)) : Raises h E R' (p.mapError f) := by
  intro s
  rw [wp_mapError]
  apply wp_mono (hp s)
  intro r s' hr e he
  cases r with
  | ok a => cases he
  | error e' =>
    cases he
    exact hf e' (hr e' rfl)

lemma lift {D τ : Type} {hT : Handler T D τ} {ET : Env D τ} (e : (β : Type) → S β → T β)
    (π : τ → σ) (κ : D → C) (hrely : ∀ {t t'}, ET.interferes t t' → E.interferes (π t) (π t'))
    (hadmits : ∀ {d}, ET.admits d → E.admits (κ d))
    (hop : ∀ {β} (o : S β) d t,
      h _ o (κ d) (π t) = ((hT _ (e _ o) d t).1, π (hT _ (e _ o) d t).2))
    {p : Prog S ε α} (hp : Raises h E R p) : Raises hT ET R (p.lift e) :=
  fun t => wp_lift e π κ hrely hadmits hop (hp (π t))

lemma of_throws {p : Prog S ε α} (hp : p.Throws R) : Raises h E R p :=
  hp.wp

end Raises

end All

/-! ### Journals -/

/-- A state, and what was noted down about the operations that led to it. -/
structure Journal (σ ρ : Type) where
  state : σ
  notes : List ρ

section Journal

variable {C σ ρ : Type} {h : Handler S C σ} {E : Env C σ}

/-- The handler that notes something about each operation. -/
def noting (h : Handler S C σ) (note : (β : Type) → S β → C → σ → ρ) :
    Handler S C (Journal σ ρ) := fun β o c t =>
  ((h β o c t.state).1, ⟨(h β o c t.state).2, t.notes ++ [note β o c t.state]⟩)

/-- The others do not reach the journal. -/
def unnoted (E : Env C σ) : Env C (Journal σ ρ) where
  interferes t t' := E.interferes t.state t'.state ∧ t'.notes = t.notes
  admits := E.admits

variable {note : (β : Type) → S β → C → σ → ρ}

/-- What holds of the states holds with a journal. -/
lemma wp_noting {p : Prog S ε α} {Q : Except ε α → σ → Prop} {t : Journal σ ρ}
    (hp : p.wp h E Q t.state) :
    p.wp (noting h note) (unnoted E) (fun r t' => Q r t'.state) t := by
  induction p generalizing t with
  | ret a => exact hp
  | fail e => exact hp
  | call o k ih => exact fun t' ht' c hc => ih _ (hp t'.state ht'.1 c hc)

/-- What the operations keep and their notes say. -/
lemma keeps_noting {P : (β : Type) → S β → Prop} {I : σ → Prop} {N : ρ → Prop} {p : Prog S ε α}
    (hp : p.All P) (hrely : ∀ {s s'}, E.interferes s s' → I s → I s')
    (hop : ∀ {β} (o : S β), P β o → ∀ c, E.admits c → ∀ s, I s →
      I (h _ o c s).2 ∧ N (note _ o c s)) :
    Keeps (noting h note) (unnoted E) (fun t => I t.state ∧ ∀ n ∈ t.notes, N n) p := by
  refine .of_all hp (fun ht hI => ⟨hrely ht.1 hI.1, ht.2 ▸ hI.2⟩) fun o ho c hc t hI => ?_
  obtain ⟨hstate, hnote⟩ := hop o ho c hc t.state hI.1
  refine ⟨hstate, fun n hn => ?_⟩
  rcases List.mem_append.mp hn with hn | hn
  · exact hI.2 n hn
  · exact List.mem_singleton.mp hn ▸ hnote

end Journal

/-! ### Outcomes and runs -/

section Outcome

variable {C σ : Type} (h : Handler S C σ) (E : Env C σ)

/-- Some execution that the environment admits ends with `r` in `s'`. -/
def Outcome : Prog S ε α → σ → Except ε α → σ → Prop
  | ret a, s, r, s'    => r = .ok a ∧ s' = s
  | fail e, s, r, s'   => r = .error e ∧ s' = s
  | call o k, s, r, s' =>
    ∃ s₁, E.interferes s s₁ ∧ ∃ c, E.admits c ∧ (k (h _ o c s₁).1).Outcome (h _ o c s₁).2 r s'

variable {h E}

/-- The weakest precondition is the one for all outcomes. -/
theorem wp_iff_outcome {p : Prog S ε α} {Q : Except ε α → σ → Prop} {s : σ} :
    p.wp h E Q s ↔ ∀ r s', p.Outcome h E s r s' → Q r s' := by
  induction p generalizing s with
  | ret a =>
    refine ⟨?_, fun hQ => hQ _ _ ⟨rfl, rfl⟩⟩
    rintro hp _ _ ⟨rfl, rfl⟩
    exact hp
  | fail e =>
    refine ⟨?_, fun hQ => hQ _ _ ⟨rfl, rfl⟩⟩
    rintro hp _ _ ⟨rfl, rfl⟩
    exact hp
  | call o k ih =>
    constructor
    · rintro hp r s' ⟨s₁, hs₁, c, hc, hout⟩
      exact (ih _).mp (hp s₁ hs₁ c hc) r s' hout
    · intro hQ s₁ hs₁ c hc
      exact (ih _).mpr fun r s' hout => hQ r s' ⟨s₁, hs₁, c, hc, hout⟩

lemma wp_outcome (p : Prog S ε α) (s : σ) : p.wp h E (p.Outcome h E s) s :=
  wp_iff_outcome.mpr fun _ _ hout => hout

/-- A program ends, where the others can always let it go on. -/
lemma exists_outcome {I : σ → Prop} (hlive : ∀ s, I s → ∃ s', E.interferes s s' ∧ I s')
    {c : C} (hc : E.admits c) (hop : ∀ {β} (o : S β) s, I s → I (h _ o c s).2)
    (p : Prog S ε α) {s : σ} (hs : I s) : ∃ r s', p.Outcome h E s r s' := by
  induction p generalizing s with
  | ret a => exact ⟨_, s, rfl, rfl⟩
  | fail e => exact ⟨_, s, rfl, rfl⟩
  | call o k ih =>
    obtain ⟨s₁, hinterferes, hs₁⟩ := hlive s hs
    obtain ⟨r, s', hout⟩ := ih (h _ o c s₁).1 (hop o s₁ hs₁)
    exact ⟨r, s', s₁, hinterferes, c, hc, hout⟩

/-- The executions of a program whose result is only renamed. -/
lemma outcome_map {p : Prog S ε α} {f : α → β} {s s' : σ} {b : β} :
    (p >>= fun a => pure (f a)).Outcome h E s (.ok b) s' ↔
      ∃ a, f a = b ∧ p.Outcome h E s (.ok a) s' := by
  change (p.bind fun a => ret (f a)).Outcome h E s (.ok b) s' ↔ _
  induction p generalizing s with
  | ret a =>
    constructor
    · rintro ⟨hb, rfl⟩
      exact ⟨a, (Except.ok.inj hb).symm, rfl, rfl⟩
    · rintro ⟨_, rfl, ha, rfl⟩
      exact ⟨by rw [Except.ok.inj ha], rfl⟩
  | fail e => exact ⟨fun h => (nomatch h.1), fun ⟨_, _, h⟩ => (nomatch h.1)⟩
  | call o k ih =>
    constructor
    · rintro ⟨s₁, hs₁, c, hc, hout⟩
      obtain ⟨a, ha, hout⟩ := (ih _).mp hout
      exact ⟨a, ha, s₁, hs₁, c, hc, hout⟩
    · rintro ⟨a, ha, s₁, hs₁, c, hc, hout⟩
      exact ⟨s₁, hs₁, c, hc, (ih _).mpr ⟨a, ha, hout⟩⟩

/-- What happens at one operation: what the others do before it, and the choice. -/
structure Move (C σ : Type) where
  interfere : σ → σ
  choice : C

variable (h) in
/-- Follow a script of moves. -/
def run : Prog S ε α → (ℕ → Move C σ) → σ → Except ε α × σ
  | ret a, _, s    => (.ok a, s)
  | fail e, _, s   => (.error e, s)
  | call o k, m, s =>
    let r := h _ o (m 0).choice ((m 0).interfere s)
    (k r.1).run (fun n => m (n + 1)) r.2

variable (h) in
/-- The states before and after each operation of a run. -/
def trace : Prog S ε α → (ℕ → Move C σ) → σ → List (σ × σ)
  | ret _, _, _    => []
  | fail _, _, _   => []
  | call o k, m, s =>
    let s₁ := (m 0).interfere s
    let r := h _ o (m 0).choice s₁
    (s₁, r.2) :: (k r.1).trace (fun n => m (n + 1)) r.2

/-- A run on admitted moves is an execution. -/
lemma outcome_run (p : Prog S ε α) {m : ℕ → Move C σ}
    (hm : ∀ n, (∀ s, E.interferes s ((m n).interfere s)) ∧ E.admits (m n).choice) (s : σ) :
    p.Outcome h E s (p.run h m s).1 (p.run h m s).2 := by
  induction p generalizing s m with
  | ret a => exact ⟨rfl, rfl⟩
  | fail e => exact ⟨rfl, rfl⟩
  | call o k ih =>
    exact ⟨_, (hm 0).1 s, _, (hm 0).2, ih _ (fun n => hm (n + 1)) _⟩

/-- What a run returns is a value the program may return. -/
lemma Returns.run {R : α → Prop} {p : Prog S ε α} (hp : p.Returns R) {m : ℕ → Move C σ} {s : σ}
    {a : α} (h : (p.run h m s).1 = .ok a) : R a := by
  induction p generalizing s m with
  | ret b => exact Except.ok.inj h ▸ hp
  | fail e => cases h
  | call o k ih => exact ih _ (hp _) h

/-- A run without interference. -/
lemma outcome_run_alone (p : Prog S ε α) (choice : ℕ → C) (s : σ) :
    p.Outcome h (Env.alone C σ) s (p.run h (fun n => ⟨id, choice n⟩) s).1
      (p.run h (fun n => ⟨id, choice n⟩) s).2 :=
  outcome_run p (fun _ => ⟨fun _ => rfl, trivial⟩) s

end Outcome

end Prog
