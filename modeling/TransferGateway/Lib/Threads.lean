import TransferGateway.Lib.Pool
import TransferGateway.Lib.Prog

/-!
# Programs that run at once

A pool whose parties are programs. Each has a state of its own, and one operation at a time is carried
out on that and on the shared state.
-/

/-- What is left of a program, and the state of its own. -/
structure Thread (S : Type → Type) (ε α κ : Type) where
  left : Prog S ε α
  own : κ

namespace Thread

variable {S : Type → Type} {ε α κ σ C R : Type}

/-- What settles a step: the choice of an operation, or what the thread receives from outside. -/
inductive Label (C R : Type) where
  | acts (c : C)
  | receives (r : R)

/-- The thread issues its next operation, or it receives something. -/
def step (h : Handler S C (κ × σ)) (receive : R → κ → κ) :
    Label C R → Thread S ε α κ → σ → Option (Thread S ε α κ × σ)
  | .receives r, t, s => some ({ t with own := receive r t.own }, s)
  | .acts c, t, s =>
    match t.left with
    | .call o k =>
      let r := h _ o c (t.own, s)
      some (⟨k r.1, r.2.1⟩, r.2.2)
    | .ret _ | .fail _ => none

/-- The program has come to its end. -/
def isDone (t : Thread S ε α κ) : Bool :=
  match t.left with
  | .ret _ | .fail _ => true
  | .call _ _ => false

variable {h : Handler S C (κ × σ)} {receive : R → κ → κ} {enters : Thread S ε α κ → Prop}
  {start : σ}

/-- What every operation keeps that the programs may issue holds of the shared state in every run. -/
theorem shared_invariant {P : (β : Type) → S β → Prop} {I : σ → Prop}
    {history : List (Pool (Thread S ε α κ) σ × Pool.Event (Thread S ε α κ) (Label C R))}
    {s : Pool (Thread S ε α κ) σ} (hrun : Pool.Run (step h receive) enters start history s)
    (hstart : I start) (henters : ∀ t, enters t → t.left.All P)
    (hop : ∀ {β} (o : S β), P β o → ∀ c own s, I s → I (h β o c (own, s)).2.2) : I s.shared := by
  refine (hrun.invariant (P := fun t => t.left.All P) hstart henters ?_).1
  intro l t s t' s' hstep hall hI
  cases l with
  | receives r =>
    obtain ⟨rfl, rfl⟩ := Prod.mk.inj (Option.some.inj hstep)
    exact ⟨hall, hI⟩
  | acts c =>
    obtain ⟨left, own⟩ := t
    cases left with
    | ret a => cases hstep
    | fail e => cases hstep
    | call o k =>
      obtain ⟨rfl, rfl⟩ := Prod.mk.inj (Option.some.inj hstep)
      exact ⟨hall.2 _, hop o hall.1 c own s hI⟩

end Thread
