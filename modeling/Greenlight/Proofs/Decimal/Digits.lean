import Greenlight.Decimal.Reader
import Mathlib.Algebra.Order.Ring.Nat
import Mathlib.Data.List.Basic

/-! # Rows of digits

Main statement: the digits of a number have its value, also with zeros in front of them or behind. -/

namespace Greenlight.Decimal

theorem digitChars_eq (n : Nat) : digitChars n = Nat.toDigits 10 n := Nat.toList_repr

theorem isDigit_of_mem_digitChars {n : Nat} {c : Char} (h : c ∈ digitChars n) : c.isDigit = true :=
  Nat.isDigit_of_mem_toDigits (by decide) (by decide) (digitChars_eq n ▸ h)

theorem digitChars_ne_nil (n : Nat) : digitChars n ≠ [] := digitChars_eq n ▸ Nat.toDigits_ne_nil

theorem digitsValue_digitChars (n : Nat) : digitsValue (digitChars n) = n :=
  digitChars_eq n ▸ Nat.ofDigitChars_ten_toDigits

theorem digitsValue_zeros_append (zeros : Nat) (cs : List Char) :
    digitsValue (List.replicate zeros '0' ++ cs) = digitsValue cs := by
  change Nat.ofDigitChars 10 _ 0 = Nat.ofDigitChars 10 _ 0
  rw [Nat.ofDigitChars_append, Nat.ofDigitChars_replicate_zero, Nat.mul_zero]

theorem digitsValue_append_zeros (cs : List Char) (zeros : Nat) :
    digitsValue (cs ++ List.replicate zeros '0') = digitsValue cs * 10 ^ zeros := by
  change Nat.ofDigitChars 10 _ 0 = Nat.ofDigitChars 10 _ 0 * _
  rw [Nat.ofDigitChars_append, Nat.ofDigitChars_replicate_zero, Nat.mul_comm]

/-- A number above zero does not begin with the digit zero. -/
theorem head?_digitChars {n : Nat} (h : n ≠ 0) : (digitChars n).head? ≠ some '0' := by
  rw [digitChars_eq]
  induction n using Nat.strongRecOn with
  | ind n ih =>
    by_cases hn : n < 10
    · have hdigit : ∀ d < 10, d ≠ 0 → [d.digitChar].head? ≠ some '0' := by decide
      rw [Nat.toDigits_of_lt_base hn]
      exact hdigit n hn h
    · rw [Nat.toDigits_of_base_le (by decide) (Nat.le_of_not_lt hn),
        List.head?_append_of_ne_nil _ Nat.toDigits_ne_nil]
      exact ih (n / 10) (by omega) (by omega)

theorem length_digitChars_le_iff {n k : Nat} (hk : 0 < k) : (digitChars n).length ≤ k ↔ n < 10 ^ k := by
  rw [digitChars_eq]
  exact Nat.length_toDigits_le_iff (by decide) hk

theorem length_digitChars_pos (n : Nat) : 0 < (digitChars n).length :=
  List.length_pos_iff.2 (digitChars_ne_nil n)

end Greenlight.Decimal
