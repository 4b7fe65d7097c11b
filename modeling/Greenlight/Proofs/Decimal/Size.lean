import Greenlight.Decimal.Shortest
import Mathlib.Algebra.Order.Field.Power
import Mathlib.Data.Rat.Cast.Order
import Mathlib.Tactic.FieldSimp
import Mathlib.Tactic.Linarith
import Mathlib.Tactic.NormNum
import Mathlib.Tactic.Positivity
import Mathlib.Tactic.Ring

/-! # Sizes as rational numbers

Decimals and doubles are compared by their exact sizes. Main statement: the test whether a decimal reads
back to a double is the test whether it lies among the numbers that round to the double. -/

namespace Greenlight.Decimal

/-- The size of a decimal. -/
def size (digits : Nat) (exponent : Int) : ℚ := digits * 10 ^ exponent

/-- The size of a double. -/
def Binary.size (b : Binary) : ℚ := b.mantissa * 2 ^ b.exponent

/-- A size that a double has, as it is read off its bits. -/
structure Binary.IsDouble (b : Binary) : Prop where
  mantissa_lt : b.mantissa < 2 ^ 53
  le_exponent : -1074 ≤ b.exponent
  exponent_le : b.exponent ≤ 971
  /-- Above the lowest exponent the leading bit is set. -/
  le_mantissa : -1074 < b.exponent → 2 ^ 52 ≤ b.mantissa
  narrowBelow_iff : b.narrowBelow = true ↔ b.mantissa = 2 ^ 52 ∧ -1074 < b.exponent

/-! ## Powers -/

theorem cast_tenTo (n : Nat) : (tenTo n : ℚ) = 10 ^ n := by
  simp [tenTo]

/-- A power with a whole exponent is the quotient of two with natural ones, of which one is `1`. -/
theorem zpow_eq_div {x : ℚ} (i : Int) : x ^ i = x ^ i.toNat / x ^ (-i).toNat := by
  rcases le_total 0 i with hi | hi
  · have hneg : (-i).toNat = 0 := by omega
    rw [hneg, pow_zero, div_one, ← zpow_natCast, Int.toNat_of_nonneg hi]
  · have hpos : i.toNat = 0 := by omega
    rw [hpos, pow_zero, one_div, ← zpow_natCast, Int.toNat_of_nonneg (by omega), zpow_neg, inv_inv]

/-- A quotient is its whole part and what is left over. -/
theorem cast_div_eq (n : Nat) {d : Nat} (hd : 0 < d) :
    (n : ℚ) / d = (n / d : Nat) + ((n % d : Nat) : ℚ) / d := by
  have hpos : (0 : ℚ) < d := Nat.cast_pos.2 hd
  have hn : (n : ℚ) = d * (n / d : Nat) + (n % d : Nat) := by
    exact_mod_cast (Nat.div_add_mod n d).symm
  rw [hn, add_div, mul_div_cancel_left₀ _ hpos.ne']

/-- What is left over is less than one. -/
theorem cast_mod_div_lt_one (n : Nat) {d : Nat} (hd : 0 < d) : ((n % d : Nat) : ℚ) / d < 1 := by
  rw [div_lt_one (Nat.cast_pos.2 hd)]
  exact_mod_cast Nat.mod_lt n hd

theorem size_of_nonneg (digits : Nat) {exponent : Int} (h : 0 ≤ exponent) :
    size digits exponent = digits * 10 ^ exponent.toNat := by
  rw [size, zpow_eq_div exponent, show (-exponent).toNat = 0 by omega, pow_zero, div_one]

theorem size_of_nonpos (digits : Nat) {exponent : Int} (h : exponent ≤ 0) :
    size digits exponent = digits / 10 ^ (-exponent).toNat := by
  rw [size, zpow_eq_div exponent, show exponent.toNat = 0 by omega, pow_zero, mul_one_div]

theorem Binary.fraction_eq (b : Binary) : (b.fraction.1 : ℚ) / b.fraction.2 = b.size := by
  unfold Binary.fraction Binary.size
  rw [zpow_eq_div b.exponent]
  simp [Nat.shiftLeft_eq, mul_div_assoc]

theorem Binary.fraction_pos (b : Binary) : 0 < b.fraction.2 := by
  simp [Binary.fraction, Nat.shiftLeft_eq]

/-! ## Comparing -/

section Comparing

variable {a n : Nat} {i j : Int}

/-- What is compared are both sizes times the same number. -/
theorem exists_scale (a n : Nat) (i j : Int) : ∃ c : ℚ, 0 < c ∧
    (((a * tenTo i.toNat) <<< (-j).toNat : Nat) : ℚ) = size a i * c ∧
    (((n * tenTo (-i).toNat) <<< j.toNat : Nat) : ℚ) = n * 2 ^ j * c := by
  refine ⟨10 ^ (-i).toNat * 2 ^ (-j).toNat, by positivity, ?_, ?_⟩
  · rw [size, zpow_eq_div i, Nat.shiftLeft_eq]
    push_cast [cast_tenTo]
    field_simp
  · rw [zpow_eq_div j, Nat.shiftLeft_eq]
    push_cast [cast_tenTo]
    field_simp

theorem compareScaled_eq_lt_iff : compareScaled a i n j = .lt ↔ size a i < n * 2 ^ j := by
  obtain ⟨c, hc, hleft, hright⟩ := exists_scale a n i j
  rw [compareScaled, Nat.compare_eq_lt, ← Nat.cast_lt (α := ℚ), hleft, hright,
    mul_lt_mul_iff_of_pos_right hc]

theorem compareScaled_eq_gt_iff : compareScaled a i n j = .gt ↔ n * 2 ^ j < size a i := by
  obtain ⟨c, hc, hleft, hright⟩ := exists_scale a n i j
  rw [compareScaled, Nat.compare_eq_gt, ← Nat.cast_lt (α := ℚ), hleft, hright,
    mul_lt_mul_iff_of_pos_right hc]

theorem compareScaled_eq_eq_iff : compareScaled a i n j = .eq ↔ size a i = n * 2 ^ j := by
  obtain ⟨c, hc, hleft, hright⟩ := exists_scale a n i j
  rw [compareScaled, Nat.compare_eq_eq, ← Nat.cast_inj (R := ℚ), hleft, hright,
    mul_left_inj' hc.ne']

end Comparing

/-! ## The numbers that round to a double -/

/-- Half the gap to the next smaller double, in units of the mantissa. -/
def Binary.below (b : Binary) : ℚ := if b.narrowBelow then 1 / 4 else 1 / 2

/-- A number rounds to the double: it lies up to half the gap on either side, and the ends count if the
mantissa is even. -/
def Binary.Rounds (b : Binary) (x : ℚ) : Prop :=
  let y := x / 2 ^ b.exponent
  b.mantissa - b.below < y ∧ y < b.mantissa + 1 / 2 ∨
    b.mantissa % 2 = 0 ∧ b.mantissa - b.below ≤ y ∧ y ≤ b.mantissa + 1 / 2

theorem Binary.below_le (b : Binary) : b.below ≤ 1 / 2 := by
  unfold below
  split <;> norm_num

theorem Binary.Rounds.bounds {b : Binary} {x : ℚ} (h : b.Rounds x) :
    b.mantissa - b.below ≤ x / 2 ^ b.exponent ∧ x / 2 ^ b.exponent ≤ b.mantissa + 1 / 2 ∧
      (b.mantissa % 2 = 1 →
        b.mantissa - b.below < x / 2 ^ b.exponent ∧ x / 2 ^ b.exponent < b.mantissa + 1 / 2) := by
  rcases h with ⟨hlow, hhigh⟩ | ⟨heven, hlow, hhigh⟩
  · exact ⟨hlow.le, hhigh.le, fun _ => ⟨hlow, hhigh⟩⟩
  · exact ⟨hlow, hhigh, fun hodd => absurd hodd (by omega)⟩

theorem Binary.Rounds.pos {b : Binary} {x : ℚ} (h : b.Rounds x) (hm : 0 < b.mantissa) : 0 < x := by
  have hmantissa : (1 : ℚ) ≤ b.mantissa := by exact_mod_cast hm
  have hbelow := b.below_le
  have hquotient : 0 < x / 2 ^ b.exponent := by linarith [h.bounds.1]
  exact (div_pos_iff_of_pos_right (by positivity)).1 hquotient

theorem Binary.readsBack_iff {b : Binary} (hb : 0 < b.mantissa) (digits : Nat) (exponent : Int) :
    b.readsBack digits exponent = true ↔ b.Rounds (Decimal.size digits exponent) := by
  have hunit : (2 : ℚ) ^ b.exponent = 4 * 2 ^ (b.exponent - 2) := by
    rw [zpow_sub₀ two_ne_zero]
    ring
  have hlow : ((if b.narrowBelow then 4 * b.mantissa - 1 else 4 * b.mantissa - 2 : Nat) : ℚ) =
      4 * (b.mantissa - b.below) := by
    unfold below
    split
    · rw [Nat.cast_sub (by omega)]
      push_cast
      ring
    · rw [Nat.cast_sub (by omega)]
      push_cast
      ring
  have hhigh : ((4 * b.mantissa + 2 : Nat) : ℚ) = 4 * (b.mantissa + 1 / 2) := by
    push_cast
    ring
  have hpos : (0 : ℚ) < 2 ^ b.exponent := by positivity
  have hscale (c : ℚ) : 4 * c * 2 ^ (b.exponent - 2) = c * 2 ^ b.exponent := by
    rw [hunit]
    ring
  unfold readsBack Rounds
  simp only [Bool.and_eq_true, Bool.or_eq_true, beq_iff_eq, compareScaled_eq_lt_iff,
    compareScaled_eq_gt_iff, compareScaled_eq_eq_iff, hlow, hhigh, hscale, lt_div_iff₀ hpos,
    div_lt_iff₀ hpos, le_div_iff₀ hpos, div_le_iff₀ hpos, le_iff_lt_or_eq]
  rw [eq_comm (a := Decimal.size digits exponent) (b := (b.mantissa - b.below) * _)]
  tauto

end Greenlight.Decimal
