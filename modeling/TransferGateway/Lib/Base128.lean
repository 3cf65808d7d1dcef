import Mathlib.Algebra.Group.Nat.Defs
import Mathlib.Data.Nat.Notation
import Mathlib.Tactic.Common

/-!
# Numbers in groups of seven bits

A number is spelled by bytes of seven bits each, least significant first; the top bit of a byte
says that another one follows. A number has many words, and one shortest word.
-/

namespace Base128

/-- The number that the groups give. -/
def value : List UInt8 → ℕ
  | [] => 0
  | b :: w => b.toNat % 128 + 128 * value w

/-- Every byte but the last has its top bit set. -/
inductive Terminated : List UInt8 → Prop where
  | last {b : UInt8} (hb : b.toNat < 128) : Terminated [b]
  | cons {b : UInt8} {w : List UInt8} (hb : 128 ≤ b.toNat) (hw : Terminated w) :
      Terminated (b :: w)

/-- A terminated word whose last group is not zero, unless it is the only one. -/
inductive Minimal : List UInt8 → Prop where
  | last {b : UInt8} (hb : b.toNat < 128) : Minimal [b]
  | cons {b : UInt8} {w : List UInt8} (hb : 128 ≤ b.toNat) (hw : Minimal w) (hne : w ≠ [0]) :
      Minimal (b :: w)

@[simp] lemma value_nil : value [] = 0 := rfl

@[simp] lemma value_cons (b : UInt8) (w : List UInt8) :
    value (b :: w) = b.toNat % 128 + 128 * value w := rfl

lemma value_lt (w : List UInt8) : value w < 128 ^ w.length := by
  induction w with
  | nil => simp
  | cons b w ih =>
    rw [value_cons, List.length_cons, Nat.pow_succ]
    omega

lemma Terminated.length_pos {w : List UInt8} (hw : Terminated w) : 0 < w.length := by
  cases hw <;> simp

lemma Minimal.terminated {w : List UInt8} (hw : Minimal w) : Terminated w := by
  induction hw with
  | last hb => exact .last hb
  | cons hb _ _ ih => exact .cons hb ih

/-- A byte is its group and its top bit. -/
lemma byte_eq {b c : UInt8} (hmod : b.toNat % 128 = c.toNat % 128)
    (htop : b.toNat < 128 ↔ c.toNat < 128) : b = c := by
  apply UInt8.toNat_inj.mp
  have := b.toNat_lt
  have := c.toNat_lt
  omega

/-- The only minimal word of zero. -/
lemma Minimal.eq_of_value_eq_zero {w : List UInt8} (hw : Minimal w) (h : value w = 0) :
    w = [0] := by
  induction hw with
  | @last b hb =>
    rw [value_cons, value_nil] at h
    have hzero : b = 0 := byte_eq (by simpa using h) (by simpa using hb)
    rw [hzero]
  | cons hb hw hne ih =>
    rw [value_cons] at h
    exact absurd (ih (by omega)) hne

/-- Another word of the same number is longer. -/
theorem Minimal.eq_or_length_lt {u v : List UInt8} (hu : Minimal u) (hv : Terminated v)
    (h : value v = value u) : v = u ∨ u.length < v.length := by
  induction hu generalizing v with
  | @last b hb =>
    cases hv with
    | last hc =>
      left
      simp only [value_cons, value_nil] at h
      exact congrArg (fun x => [x]) (byte_eq (by omega) (iff_of_true hc hb))
    | cons hc hw =>
      right
      simpa using hw.length_pos
  | @cons b u hb hu hne ih =>
    cases hv with
    | last hc =>
      simp only [value_cons, value_nil] at h
      exact absurd (hu.eq_of_value_eq_zero (by omega)) hne
    | @cons c v hc hv =>
      simp only [value_cons] at h
      obtain rfl | hlt := ih hv (by omega)
      · left
        exact congrArg (fun x => x :: _) (byte_eq (by omega) (by omega))
      · right
        simpa using hlt

end Base128
