import Mathlib.Data.Nat.Count
import Mathlib.Tactic.Ring

/-!
# Choice by weight

A slot picks the element at which the running sum of the weights reaches it. Every element is picked
by as many slots as it weighs, and the slot zero goes to the first one besides.
-/

namespace Weighted

variable {α : Type*} (weight : α → ℕ)

def pick (slot : ℕ) : List α → Option α
  | []     => none
  | a :: l => if slot ≤ weight a then some a else pick (slot - weight a) l

def total (l : List α) : ℕ := (l.map weight).sum

variable {weight}

@[simp] lemma total_nil : total weight [] = 0 := rfl

@[simp] lemma total_cons (a : α) (l : List α) : total weight (a :: l) = weight a + total weight l :=
  List.sum_cons

lemma pick_zero (l : List α) : pick weight 0 l = l.head? := by
  cases l <;> simp [pick]

lemma pick_isSome {l : List α} {slot : ℕ} (hne : l ≠ []) (h : slot ≤ total weight l) :
    (pick weight slot l).isSome = true := by
  induction l generalizing slot with
  | nil => exact absurd rfl hne
  | cons a l ih =>
    rw [pick]
    split
    · rfl
    · rename_i hlt
      rw [total_cons] at h
      refine ih ?_ (by omega)
      rintro rfl
      rw [total_nil] at h
      omega

lemma mem_of_pick {l : List α} {slot : ℕ} {a : α} (h : pick weight slot l = some a) : a ∈ l := by
  induction l generalizing slot with
  | nil => cases h
  | cons b l ih =>
    rw [pick] at h
    split at h
    · cases h
      exact List.mem_cons_self
    · exact List.mem_cons_of_mem _ (ih h)

variable [DecidableEq α]

lemma count_pick_succ (l : List α) (a : α) :
    Nat.count (fun slot => pick weight (slot + 1) l = some a) (total weight l) =
      l.count a * weight a := by
  induction l with
  | nil => simp [pick]
  | cons b l ih =>
    -- the slots up to the weight of `b`, and the others
    have hhead : Nat.count (fun slot => pick weight (slot + 1) (b :: l) = some a) (weight b) =
        if b = a then weight b else 0 := by
      have hpick : ∀ slot < weight b, pick weight (slot + 1) (b :: l) = some b :=
        fun slot hslot => if_pos hslot
      split
      · rename_i hba
        exact Nat.count_iff_forall.mpr fun slot hslot => by rw [hpick slot hslot, hba]
      · rename_i hba
        apply Nat.count_iff_forall_not.mpr
        intro slot hslot
        rw [hpick slot hslot]
        simpa using hba
    have htail : ∀ slot, pick weight (weight b + slot + 1) (b :: l) = pick weight (slot + 1) l := by
      intro slot
      rw [pick, if_neg (by omega)]
      congr 1
      omega
    rw [total_cons, Nat.count_add, hhead]
    simp only [htail, ih, List.count_cons, beq_iff_eq]
    split
    · rename_i hba
      rw [hba]
      ring
    · ring

/-- How many slots pick an element. -/
theorem count_pick (l : List α) (a : α) :
    Nat.count (fun slot => pick weight slot l = some a) (total weight l + 1) =
      l.count a * weight a + if l.head? = some a then 1 else 0 := by
  rw [Nat.count_succ', count_pick_succ]
  simp only [pick_zero]

end Weighted
