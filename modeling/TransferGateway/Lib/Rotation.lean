import Mathlib.Data.Int.CardIntervalMod
import Mathlib.Data.Nat.Periodic

/-!
# Rotations

A counter of a bounded size goes round, and its value picks one of `n` places.
-/

namespace Rotation

/-! ### Periods -/

section Periodic

variable {p : ℕ → Prop} [DecidablePred p] {period : ℕ}

lemma count_congr {q : ℕ → Prop} [DecidablePred q] {n : ℕ} (h : ∀ k < n, p k ↔ q k) :
    Nat.count p n = Nat.count q n :=
  Nat.le_antisymm (Nat.count_mono_left fun k hk => (h k hk).mp)
    (Nat.count_mono_left fun k hk => (h k hk).mpr)

/-- Any whole number of periods has its share, wherever it starts. -/
lemma count_periods (hp : Function.Periodic p period) (start periods : ℕ) :
    Nat.count (fun i => p (start + i)) (periods * period) = periods * Nat.count p period := by
  have hone : ∀ start, Nat.count (fun i => p (start + i)) period = Nat.count p period := by
    intro start
    have hfront := Nat.count_add p start period
    have hback := Nat.count_add p period start
    have hshift : Nat.count (fun i => p (period + i)) start = Nat.count p start := by
      simp only [Nat.add_comm period, hp _]
    rw [Nat.add_comm period start] at hback
    omega
  induction periods with
  | zero => simp
  | succ periods ih =>
    rw [Nat.succ_mul, Nat.count_add, ih, Nat.succ_mul]
    simp only [← Nat.add_assoc, hone]

lemma exists_in_period (hp : Function.Periodic p period) (start : ℕ) :
    (∃ i < period, p (start + i)) ↔ ∃ i < period, p i := by
  have hcount := count_periods hp start 1
  rw [Nat.one_mul, Nat.one_mul] at hcount
  rw [← Nat.count_ne_iff_exists, ← Nat.count_ne_iff_exists, hcount]

end Periodic

/-! ### Places -/

/-- The place that comes `k`-th, with a counter of `period` values. -/
def place (period n k : ℕ) : ℕ := k % period % n

/-- How often a place comes among the first `turns`. -/
def times (period n i turns : ℕ) : ℕ := Nat.count (fun k => place period n k = i) turns

variable {period n i j : ℕ}

/-- Within a period the places come by turns. -/
lemma times_of_le {turns : ℕ} (hi : i < n) (h : turns ≤ period) :
    times period n i turns = turns / n + if i < turns % n then 1 else 0 := by
  have hplace : times period n i turns = Nat.count (· ≡ i [MOD n]) turns := by
    apply count_congr
    intro k hk
    rw [place, Nat.mod_eq_of_lt (hk.trans_le h), Nat.ModEq, Nat.mod_eq_of_lt hi]
  rw [hplace, Nat.count_modEq_card _ (Nat.zero_lt_of_lt hi), Nat.mod_eq_of_lt hi]

lemma place_of_lt {k : ℕ} (h : k < period) : place period n k = k % n := by
  rw [place, Nat.mod_eq_of_lt h]

/-- Any `n` turns in a row take every place once, as long as the counter does not go round. -/
lemma map_place_perm {start : ℕ} (h : start + n ≤ period) :
    ((List.range' start n).map (place period n)).Perm (List.range n) := by
  have hplaces : (List.range' start n).map (place period n) =
      (List.range' start n).map (· % n) := by
    refine List.map_congr_left fun k hk => place_of_lt ?_
    have := (List.mem_range'_1.mp hk).2
    omega
  have hmod := Nat.multiset_Ico_map_mod start n
  rw [Multiset.Ico, Nat.Ico_eq_range', Multiset.range, Nat.add_sub_cancel_left,
    Multiset.map_coe, Multiset.coe_eq_coe] at hmod
  rw [hplaces]
  exact hmod

lemma times_add_period (turns : ℕ) :
    times period n i (period + turns) = times period n i period + times period n i turns := by
  rw [times, Nat.count_add]
  simp only [place, Nat.add_mod_left]
  rfl

/-- Two places come equally often, but for one in each period. -/
theorem times_le (hpos : 0 < period) (hi : i < n) (hj : j < n) (turns : ℕ) :
    times period n i turns ≤ times period n j turns + 1 + turns / period := by
  have hperiod : ∀ {turns}, turns ≤ period →
      times period n i turns ≤ times period n j turns + 1 := by
    intro turns h
    rw [times_of_le hi h, times_of_le hj h]
    split <;> split <;> omega
  induction turns using Nat.strongRecOn with
  | _ turns ih =>
    rcases Nat.le_total turns period with hle | hle
    · exact (hperiod hle).trans (Nat.le_add_right _ _)
    · -- the first period, and the rest
      obtain ⟨rest, rfl⟩ := Nat.exists_eq_add_of_le hle
      have hfirst := hperiod (le_refl period)
      have hrest := ih rest (by omega)
      rw [times_add_period, times_add_period, Nat.add_div_left _ hpos]
      omega

end Rotation
