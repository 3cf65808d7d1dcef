import Mathlib.Algebra.BigOperators.Group.Finset.Piecewise
import Mathlib.Algebra.Order.Monoid.Canonical.Defs
import TransferGateway.Lib.Steps
import TransferGateway.Lib.Threads

/-!
# What operations cost

Each operation has a cost, in a monoid with an order. A program keeps to a budget if the operations
on each of its paths together cost no more, whatever they return.
-/

namespace Prog

variable {S T : Type → Type} {ε ε' α β M : Type} [AddCommMonoid M] [PartialOrder M]

section Affords

variable (cost : (β : Type) → S β → M)

/-- The operations of each path cost at most the budget. -/
def Affords : Prog S ε α → M → Prop
  | ret _, _       => True
  | fail _, _      => True
  | call o k, budget => ∃ rest, cost _ o + rest ≤ budget ∧ ∀ r, (k r).Affords rest

variable {cost} {budget budget' : M}

lemma Affords.mono {p : Prog S ε α} (h : p.Affords cost budget) (hle : budget ≤ budget') :
    p.Affords cost budget' := by
  cases p with
  | ret a => trivial
  | fail e => trivial
  | call o k =>
    obtain ⟨rest, hrest, hk⟩ := h
    exact ⟨rest, hrest.trans hle, hk⟩

@[simp] lemma affords_ofExcept (x : Except ε α) :
    (ofExcept x : Prog S ε α).Affords cost budget := by
  cases x <;> trivial

/-- A check costs nothing. -/
lemma affords_ofExcept_bind {x : Except ε α} {f : α → Prog S ε β}
    (hf : ∀ a, (f a).Affords cost budget) : (ofExcept x >>= f).Affords cost budget := by
  cases x with
  | ok a => exact hf a
  | error e => trivial

lemma affords_perform {o : S α} (ho : cost _ o ≤ budget) :
    (perform o : Prog S ε α).Affords cost budget :=
  ⟨0, (add_zero _).trans_le ho, fun _ => trivial⟩

lemma affords_perform_bind {o : S α} {f : α → Prog S ε β} (ho : cost _ o + budget' ≤ budget)
    (hf : ∀ r, (f r).Affords cost budget') : (perform o >>= f).Affords cost budget :=
  ⟨budget', ho, hf⟩

/-- The rule of sequencing. -/
lemma Affords.bind [IsOrderedAddMonoid M] [CanonicallyOrderedAdd M] {p : Prog S ε α}
    {f : α → Prog S ε β} (hp : p.Affords cost budget) (hf : ∀ a, (f a).Affords cost budget') :
    (p >>= f).Affords cost (budget + budget') := by
  change (p.bind f).Affords cost _
  induction p generalizing budget with
  | ret a => exact (hf a).mono le_add_self
  | fail e => trivial
  | call o k ih =>
    obtain ⟨rest, hrest, hk⟩ := hp
    refine ⟨rest + budget', ?_, fun r => ih r (hk r)⟩
    rw [← add_assoc]
    exact add_le_add_left hrest budget'

lemma Affords.mapError {p : Prog S ε α} (hp : p.Affords cost budget) (f : ε → ε') :
    (p.mapError f).Affords cost budget := by
  induction p generalizing budget with
  | ret a => trivial
  | fail e => trivial
  | call o k ih =>
    obtain ⟨rest, hrest, hk⟩ := hp
    exact ⟨rest, hrest, fun r => ih r (hk r)⟩

lemma Affords.attempt {p : Prog S ε α} (hp : p.Affords cost budget) :
    (p.attempt : Prog S ε' (Except ε α)).Affords cost budget := by
  induction p generalizing budget with
  | ret a => trivial
  | fail e => trivial
  | call o k ih =>
    obtain ⟨rest, hrest, hk⟩ := hp
    exact ⟨rest, hrest, fun r => ih r (hk r)⟩

lemma Affords.lift [IsOrderedAddMonoid M] {cost' : (β : Type) → T β → M}
    {e : (β : Type) → S β → T β} {p : Prog S ε α} (hp : p.Affords cost budget)
    (he : ∀ {β} (o : S β), cost' _ (e _ o) ≤ cost _ o) :
    (p.lift e).Affords cost' budget := by
  induction p generalizing budget with
  | ret a => trivial
  | fail err => trivial
  | call o k ih =>
    obtain ⟨rest, hrest, hk⟩ := hp
    exact ⟨rest, (add_le_add_left (he o) rest).trans hrest, fun r => ih r (hk r)⟩

end Affords

end Prog

/-! ### Programs that run at once -/

namespace Pool

variable {τ σ L M : Type*} [AddCommMonoid M] [PartialOrder M] [IsOrderedAddMonoid M]
  {step : L → τ → σ → Option (τ × σ)} {enters : τ → Prop} {start : σ}

/-- Each party comes with a share, and its steps pay from it for what they do to the shared state. -/
theorem Run.shares (Holds : τ → M → Prop) (spent : σ → M) {budget : M}
    {history : List (Pool τ σ × Event τ L)} {s : Pool τ σ} (h : Run step enters start history s)
    (henters : ∀ p, enters p → Holds p budget)
    (hstep : ∀ l p s p' s' m, step l p s = some (p', s') → Holds p m →
      ∃ m', Holds p' m' ∧ m' + spent s' ≤ m + spent s) :
    ∃ share : ℕ → M, (∀ i p, s.parties[i]? = some p → Holds p (share i)) ∧
      ∑ i ∈ Finset.range s.parties.length, share i + spent s.shared ≤
        s.parties.length • budget + spent start := by
  induction h with
  | start => exact ⟨fun _ => 0, by simp, by simp⟩
  | @next history s _ e h he hs ih =>
    obtain ⟨share, hshare, hsum⟩ := ih
    obtain ⟨p, rfl, rfl⟩ | ⟨i, l, p, p', shared, rfl, hp, hmove, rfl⟩ := next_cases hs
    · refine ⟨Function.update share s.parties.length budget, fun j q hq => ?_, ?_⟩
      · by_cases hj : j = s.parties.length
        · subst hj
          simp only [List.getElem?_concat_length] at hq
          rw [Function.update_self]
          exact Option.some.inj hq ▸ henters p (he p rfl)
        · rw [Function.update_of_ne hj]
          apply hshare j q
          obtain ⟨hlt, -⟩ := List.getElem?_eq_some_iff.mp hq
          simp only [List.length_append, List.length_singleton] at hlt
          rwa [List.getElem?_append_left (Nat.lt_of_le_of_ne (Nat.le_of_lt_succ hlt) hj)] at hq
      · rw [List.length_append, List.length_singleton, Finset.sum_range_succ, Function.update_self,
          Finset.sum_update_of_notMem (by simp), succ_nsmul, add_right_comm, add_right_comm _ budget]
        exact add_le_add_left hsum budget
    · obtain ⟨m', hm', hpaid⟩ := hstep l p _ p' shared (share i) hmove (hshare i p hp)
      obtain ⟨hi, -⟩ := List.getElem?_eq_some_iff.mp hp
      refine ⟨Function.update share i m', fun j q hq => ?_, ?_⟩
      · by_cases hij : j = i
        · subst hij
          rw [List.getElem?_set_self hi] at hq
          rw [Function.update_self]
          exact Option.some.inj hq ▸ hm'
        · rw [List.getElem?_set_ne (Ne.symm hij)] at hq
          rw [Function.update_of_ne hij]
          exact hshare j q hq
      · have hmem : i ∈ Finset.range s.parties.length := Finset.mem_range.mpr hi
        rw [List.length_set, Finset.sum_update_of_mem hmem]
        refine le_trans ?_ hsum
        rw [← Finset.add_sum_erase _ _ hmem, ← Finset.erase_eq]
        rw [add_right_comm, add_right_comm (share i)]
        exact add_le_add_left hpaid _

end Pool

namespace Thread

variable {S : Type → Type} {ε α κ σ C R M : Type} [AddCommMonoid M] [PartialOrder M]
  {h : Handler S C (κ × σ)} {receive : R → κ → κ} {enters : Thread S ε α κ → Prop} {start : σ}

/-- All that a step of a program within its budget does. -/
lemma step_affords {cost : (β : Type) → S β → M} {budget : M} {l : Label C R}
    {t t' : Thread S ε α κ} {s s' : σ} (hstep : step h receive l t s = some (t', s'))
    (ht : t.left.Affords cost budget) :
    (∃ r, t' = { t with own := receive r t.own } ∧ s' = s) ∨
      ∃ (β : Type) (o : S β) (c : C) (rest : M), cost β o + rest ≤ budget ∧
        t'.left.Affords cost rest ∧ (t'.own, s') = (h β o c (t.own, s)).2 := by
  cases l with
  | receives r =>
    obtain ⟨rfl, rfl⟩ := Prod.mk.inj (Option.some.inj hstep)
    exact .inl ⟨r, rfl, rfl⟩
  | acts c =>
    obtain ⟨left, own⟩ := t
    cases left with
    | ret a => cases hstep
    | fail e => cases hstep
    | call o k =>
      obtain ⟨rfl, rfl⟩ := Prod.mk.inj (Option.some.inj hstep)
      obtain ⟨rest, hrest, hk⟩ := ht
      exact .inr ⟨_, o, c, rest, hrest, hk _, rfl⟩

/-- Programs that come with a budget keep to it: each in its own state, and all of them together in
the shared one. -/
theorem spent_le [IsOrderedAddMonoid M] [CanonicallyOrderedAdd M] {cost : (β : Type) → S β → M}
    (used : κ → M) (spent : σ → M) {budget : M}
    {history : List (Pool (Thread S ε α κ) σ × Pool.Event (Thread S ε α κ) (Label C R))}
    {s : Pool (Thread S ε α κ) σ} (hrun : Pool.Run (step h receive) enters start history s)
    (henters : ∀ t, enters t → t.left.Affords cost budget ∧ used t.own = 0)
    (hreceive : ∀ r own, used (receive r own) ≤ used own)
    (hop : ∀ {β} (o : S β) c own s, used (h β o c (own, s)).2.1 ≤ used own + cost β o ∧
      spent (h β o c (own, s)).2.2 ≤ spent s + cost β o) :
    (∀ t ∈ s.parties, used t.own ≤ budget) ∧
      spent s.shared ≤ s.parties.length • budget + spent start := by
  constructor
  · -- what is left of a program affords what it has not used yet
    have hkept := hrun.invariant (I := fun _ => True)
      (P := fun t => ∃ rest, used t.own + rest ≤ budget ∧ t.left.Affords cost rest) trivial
      (fun t ht => ⟨budget, by rw [(henters t ht).2, zero_add], (henters t ht).1⟩) ?_
    · intro t ht
      obtain ⟨rest, hrest, -⟩ := hkept.2 t ht
      exact le_self_add.trans hrest
    · rintro l t s t' s' hstep ⟨rest, hrest, hleft⟩ -
      refine ⟨?_, trivial⟩
      obtain ⟨r, rfl, -⟩ | ⟨β, o, c, rest', hrest', hleft', hown⟩ := step_affords hstep hleft
      · exact ⟨rest, (add_le_add_left (hreceive r t.own) rest).trans hrest, hleft⟩
      · refine ⟨rest', ?_, hleft'⟩
        have hused : used t'.own ≤ used t.own + cost β o := by
          rw [show t'.own = (h β o c (t.own, s)).2.1 from congrArg Prod.fst hown]
          exact (hop o c t.own s).1
        calc used t'.own + rest' ≤ used t.own + cost β o + rest' := add_le_add_left hused rest'
          _ = used t.own + (cost β o + rest') := add_assoc ..
          _ ≤ used t.own + rest := add_le_add_right hrest' _
          _ ≤ budget := hrest
  · -- a program pays from its share for what it does to the shared state
    have hpaid : ∀ l (t : Thread S ε α κ) s t' s' (m : M), step h receive l t s = some (t', s') →
        t.left.Affords cost m → ∃ m', t'.left.Affords cost m' ∧ m' + spent s' ≤ m + spent s := by
      intro l t s t' s' m hstep hleft
      obtain ⟨r, rfl, rfl⟩ | ⟨β, o, c, rest, hrest, hleft', hown⟩ := step_affords hstep hleft
      · exact ⟨m, hleft, le_rfl⟩
      · refine ⟨rest, hleft', ?_⟩
        have hspent : spent s' ≤ spent s + cost β o := by
          rw [show s' = (h β o c (t.own, s)).2.2 from congrArg Prod.snd hown]
          exact (hop o c t.own s).2
        calc rest + spent s' ≤ rest + (spent s + cost β o) := add_le_add_right hspent rest
          _ = cost β o + rest + spent s := by rw [add_comm (spent s), ← add_assoc, add_comm rest]
          _ ≤ m + spent s := add_le_add_left hrest _
    obtain ⟨share, -, hsum⟩ := hrun.shares (fun t m => t.left.Affords cost m) spent
      (fun t ht => (henters t ht).1) hpaid
    exact le_add_self.trans hsum

end Thread
