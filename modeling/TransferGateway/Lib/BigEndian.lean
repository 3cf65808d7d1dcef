import Mathlib.Data.List.Induction
import Mathlib.Algebra.Order.Ring.Nat

/-!
# Big-endian numbers

Bytes spell a number in base 256, the most significant one first. Each byte is a digit of that
number, and the usual loop over a 64-bit word computes it from at most eight bytes.
-/

namespace BigEndian

/-- The number that the bytes spell. -/
def value (bytes : List UInt8) : ℕ :=
  bytes.foldl (fun n byte => n * 256 + byte.toNat) 0

lemma value_append (bytes : List UInt8) (byte : UInt8) :
    value (bytes ++ [byte]) = value bytes * 256 + byte.toNat := by
  simp [value]

lemma value_lt (bytes : List UInt8) : value bytes < 256 ^ bytes.length := by
  induction bytes using List.reverseRecOn with
  | nil => decide
  | append_singleton bytes byte ih =>
    have hlt := byte.toNat_lt
    rw [value_append, List.length_append, List.length_singleton, Nat.pow_succ]
    omega

/-- Each byte is a digit of the number. -/
lemma value_digit {bytes : List UInt8} {index : ℕ} (h : index < bytes.length) :
    value bytes / 256 ^ (bytes.length - 1 - index) % 256 = bytes[index].toNat := by
  induction bytes using List.reverseRecOn with
  | nil => simp at h
  | append_singleton bytes byte ih =>
    have hlt := byte.toNat_lt
    rw [List.length_append, List.length_singleton] at h
    rw [value_append, List.length_append, List.length_singleton, Nat.add_sub_cancel]
    by_cases hlast : index < bytes.length
    · have hpow : (256 : ℕ) ^ (bytes.length - index) = 256 * 256 ^ (bytes.length - 1 - index) := by
        rw [← Nat.pow_succ']
        congr 1
        omega
      rw [List.getElem_append_left hlast, ← ih hlast, hpow, ← Nat.div_div_eq_div_mul]
      congr 2
      omega
    · obtain rfl : index = bytes.length := by omega
      simp

/-- A loop that shifts a word and puts the next byte behind it loses nothing of eight bytes. -/
lemma toNat_foldl {bytes : List UInt8} (h : bytes.length ≤ 8) :
    (bytes.foldl (fun (n : UInt64) byte => n <<< 8 ||| byte.toUInt64) 0).toNat = value bytes := by
  induction bytes using List.reverseRecOn with
  | nil => rfl
  | append_singleton bytes byte ih =>
    rw [List.length_append, List.length_singleton] at h
    have hlt := byte.toNat_lt
    have hsmall : value bytes < 256 ^ 7 :=
      Nat.lt_of_lt_of_le (value_lt bytes) (Nat.pow_le_pow_right (by decide) (by omega))
    have hshift : ∀ n : UInt64, (n <<< 8).toNat = n.toNat <<< 8 % 2 ^ 64 :=
      fun n => UInt64.toNat_shiftLeft n 8
    rw [List.foldl_append, value_append, List.foldl_cons, List.foldl_nil, UInt64.toNat_or, hshift,
      ih (by omega), Nat.shiftLeft_eq, Nat.mod_eq_of_lt (by omega), UInt8.toNat_toUInt64,
      Nat.mul_comm, ← Nat.two_pow_add_eq_or_of_lt hlt]

end BigEndian
