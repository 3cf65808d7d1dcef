import Mathlib.Data.List.Basic
import Mathlib.Tactic.Linarith

/-!
# Instants with a distance

A list of instants, the last one first, in which each is some distance behind the one before it.
-/

/-- Each instant is at least `k` behind those before it. -/
def Spaced (k : ℕ) (instants : List ℕ) : Prop :=
  instants.Pairwise fun later earlier => earlier + k ≤ later

namespace Spaced

variable {k : ℕ} {instants : List ℕ}

lemma nil : Spaced k [] := List.Pairwise.nil

lemma cons {now : ℕ} (h : Spaced k instants) (hnow : ∀ earlier ∈ instants, earlier + k ≤ now) :
    Spaced k (now :: instants) :=
  List.Pairwise.cons hnow h

/-- Not many of them fall into a period. -/
theorem countP_le (h : Spaced k instants) (a b : ℕ) :
    k * instants.countP (fun instant => a ≤ instant ∧ instant ≤ b) ≤ (b - a) + k := by
  induction instants generalizing b with
  | nil => simp
  | cons now instants ih =>
    obtain ⟨hnow, h⟩ := List.pairwise_cons.mp h
    by_cases hin : a ≤ now ∧ now ≤ b
    · rw [List.countP_cons_of_pos (by simpa using hin), Nat.mul_add_one]
      by_cases hroom : a + k ≤ now
      · -- the others fall into a period that ends before
        have hothers : instants.countP (fun instant => a ≤ instant ∧ instant ≤ b) ≤
            instants.countP (fun instant => a ≤ instant ∧ instant ≤ now - k) := by
          refine List.countP_mono_left fun earlier hmem hearlier => ?_
          simp only [decide_eq_true_eq] at hearlier ⊢
          exact ⟨hearlier.1, Nat.le_sub_of_add_le (hnow earlier hmem)⟩
        have hcount := (Nat.mul_le_mul_left k hothers).trans (ih h (now - k))
        omega
      · have hnone : instants.countP (fun instant => a ≤ instant ∧ instant ≤ b) = 0 := by
          rw [List.countP_eq_zero]
          intro earlier hmem hearlier
          simp only [decide_eq_true_eq] at hearlier
          exact hroom ((Nat.add_le_add_right hearlier.1 k).trans (hnow earlier hmem))
        rw [hnone, Nat.mul_zero, Nat.zero_add]
        exact Nat.le_add_left k _
    · rw [List.countP_cons_of_neg (by simpa using hin)]
      exact ih h b

end Spaced
