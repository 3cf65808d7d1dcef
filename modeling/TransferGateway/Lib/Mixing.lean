import Mathlib.Algebra.Order.Floor.Div
import Mathlib.Data.BitVec
import Mathlib.Data.FinEnum
import Mathlib.Data.Int.CardIntervalMod
import Mathlib.Data.Nat.Prime.Basic
import Mathlib.SetTheory.Cardinal.Finite

/-!
# Mixing of words

The steps that number generators mix a word with lose nothing of it. What is mixed picks one of `n`
places, and over all words no place comes off worse than another.
-/

namespace Mixing

/-! ### Steps -/

section Steps

variable {w : ℕ}

def multiplyAdd (a c x : BitVec w) : BitVec w := x * a + c

def xorShift (k : ℕ) (x : BitVec w) : BitVec w := x ^^^ (x >>> k)

lemma multiplyAdd_injective {a c : BitVec w} (ha : a.toNat % 2 = 1) :
    Function.Injective (multiplyAdd a c) := by
  intro x y h
  have hmul : x * a = y * a := (BitVec.add_left_inj c).mp h
  have hmod : x.toNat * a.toNat ≡ y.toNat * a.toNat [MOD 2 ^ w] := by
    simpa [Nat.ModEq] using congrArg BitVec.toNat hmul
  have hcoprime : (2 ^ w).Coprime a.toNat :=
    Nat.Coprime.pow_left w (Nat.coprime_two_left.mpr (Nat.odd_iff.mpr ha))
  apply BitVec.eq_of_toNat_eq
  simpa [Nat.ModEq, Nat.mod_eq_of_lt x.isLt, Nat.mod_eq_of_lt y.isLt] using
    hmod.cancel_right_of_coprime hcoprime

/-- Only the zero word is its own shift. -/
lemma eq_zero_of_shift_eq {k : ℕ} (hk : 0 < k) {x : BitVec w} (h : x >>> k = x) : x = 0 := by
  have hdiv : x.toNat / 2 ^ k = x.toNat := by
    simpa [Nat.shiftRight_eq_div_pow] using congrArg BitVec.toNat h
  apply BitVec.eq_of_toNat_eq
  by_contra hne
  have hpos : 0 < x.toNat := Nat.pos_of_ne_zero (by simpa using hne)
  exact (Nat.div_lt_self hpos (Nat.one_lt_two_pow hk.ne')).ne hdiv

lemma xorShift_injective {k : ℕ} (hk : 0 < k) :
    Function.Injective (xorShift k : BitVec w → BitVec w) := by
  intro x y h
  rw [xorShift, xorShift] at h
  -- what the words differ in is its own shift
  have hshift : (x ^^^ y) >>> k = x ^^^ y := by
    calc (x ^^^ y) >>> k = x ^^^ (x ^^^ x >>> k) ^^^ y >>> k := by
          rw [BitVec.ushiftRight_xor_distrib, ← BitVec.xor_assoc, BitVec.xor_self,
            BitVec.zero_xor]
      _ = x ^^^ y := by
          rw [h, BitVec.xor_assoc, BitVec.xor_assoc, BitVec.xor_self, BitVec.xor_zero]
  exact BitVec.xor_eq_zero_iff.mp (eq_zero_of_shift_eq hk hshift)

end Steps

/-! ### Places -/

section Places

variable {α : Type*} {size n i : ℕ} {f : α → Fin size}

lemma card_fin (p : ℕ → Prop) [DecidablePred p] :
    Nat.card {k : Fin size // p k} = Nat.count p size := by
  let numbers : {k : Fin size // p k} ≃ {k : ℕ // k < size ∧ p k} :=
    (Fin.equivSubtype.subtypeEquiv fun _ => Iff.rfl).trans
      (Equiv.subtypeSubtypeEquivSubtypeInter (· < size) p)
  rw [Nat.card_congr numbers, Nat.count_eq_card_filter_range]
  apply Nat.subtype_card
  simp

/-- How many words pick a place. -/
theorem card_place (hf : Function.Bijective f) (hi : i < n) :
    Nat.card {x : α // (f x : ℕ) % n = i} = size / n + if i < size % n then 1 else 0 := by
  let words : {x : α // (f x : ℕ) % n = i} ≃ {k : Fin size // (k : ℕ) % n = i} :=
    (Equiv.ofBijective f hf).subtypeEquiv fun _ => Iff.rfl
  have hcount : Nat.count (· % n = i) size = Nat.count (· ≡ i [MOD n]) size := by
    simp only [Nat.ModEq, Nat.mod_eq_of_lt hi]
  rw [Nat.card_congr words, card_fin (· % n = i), hcount,
    Nat.count_modEq_card _ (Nat.zero_lt_of_lt hi), Nat.mod_eq_of_lt hi]

/-- How often a place comes when the words come one after the other. -/
lemma count_place {g : ℕ → Fin size} (hg : Function.Bijective fun k : Fin size => g k)
    (hi : i < n) : ((List.range size).map fun k => (g k : ℕ) % n).count i =
      size / n + if i < size % n then 1 else 0 := by
  rw [← card_place hg hi, card_fin fun k => (g k : ℕ) % n = i, List.count, List.countP_map,
    Nat.count]
  apply List.countP_congr
  simp

/-- The shares of two places differ by one at most. -/
lemma share_eq (size : ℕ) {n i : ℕ} (hn : 0 < n) :
    size / n + (if i < size % n then 1 else 0) = size / n ∨
      size / n + (if i < size % n then 1 else 0) = size ⌈/⌉ n := by
  by_cases hi : i < size % n
  · right
    have hrest : (size % n + n - 1) / n = 1 := by
      have := Nat.mod_lt size hn
      exact Nat.div_eq_of_lt_le (by omega) (by omega)
    have hsize := Nat.mod_add_div size n
    calc size / n + (if i < size % n then 1 else 0)
        = (size % n + n - 1 + n * (size / n)) / n := by
          rw [if_pos hi, Nat.add_mul_div_left _ _ hn, hrest, Nat.add_comm]
      _ = (size + n - 1) / n := by
          congr 1
          omega
      _ = size ⌈/⌉ n := (Nat.ceilDiv_eq_add_pred_div size n).symm
  · exact Or.inl (by rw [if_neg hi, Nat.add_zero])

end Places

end Mixing
