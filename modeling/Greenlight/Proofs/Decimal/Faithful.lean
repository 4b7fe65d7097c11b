import Greenlight.Proofs.Decimal.Digits
import Greenlight.Proofs.Decimal.Nearest
import Greenlight.Proofs.Decimal.Shortest

/-! # Decimals of doubles are read back

Main statement: the shortest decimal of a double is read as this double, so that no two doubles have the
same decimal. -/

namespace Greenlight.Decimal

/-! ## The decimal of a double -/

/-- A decimal stands for what is read off the bits of a double. -/
inductive StandsFor : Decimal → Reading → Prop where
  | undefined : StandsFor .undefined .undefined
  | infinite (negative : Bool) : StandsFor (.infinite negative) (.infinite negative)
  | zero (negative : Bool) : StandsFor (.finite negative 0 0) (.finite negative ⟨0, -1074, false⟩)
  | finite (negative : Bool) {digits : Nat} {exponent : Int} {b : Binary} (hd : digits % 10 ≠ 0)
      (hb : b.IsDouble) (hm : 0 < b.mantissa) (h : b.Rounds (size digits exponent)) :
      StandsFor (.finite negative digits exponent) (.finite negative b)

theorem ofFloat_standsFor (x : Float) : StandsFor (ofFloat x) (Reading.ofFloat x) := by
  have hreading := unpacks x
  unfold ofFloat
  generalize Reading.ofFloat x = reading at hreading
  generalize x.toModel.unpack = unpacked at hreading
  cases hreading with
  | undefined => exact .undefined
  | infinite negative => exact .infinite negative
  | zero negative => exact .zero negative
  | @finite negative b hb hm =>
    have hrounds := hb.rounds_shortestFrom hm 16 1 rfl
    have hdigits : (b.shortestFrom b.leadingExponent 16 1).1 ≠ 0 := by
      intro hzero
      have hpos := hrounds.pos hm
      rw [hzero, size, Nat.cast_zero, zero_mul] at hpos
      exact lt_irrefl _ hpos
    obtain ⟨digits, exponent, hcanonical, hd, hsize⟩ :=
      exists_canonical hdigits negative (b.shortestFrom b.leadingExponent 16 1).2
    dsimp only
    rw [if_neg hm.ne', hcanonical]
    exact .finite negative hd hb hm (hsize ▸ hrounds)

theorem StandsFor.isCanonical {d : Decimal} {r : Reading} (h : StandsFor d r) : IsCanonical d := by
  cases h with
  | undefined | infinite => trivial
  | zero => exact .inr ⟨rfl, rfl⟩
  | finite _ hd => exact .inl hd

/-! ## Reading it back -/

/-- The digits of a number tell its size up to a factor of ten. -/
theorem bounds_of_digitChars {digits : Nat} (hd : digits ≠ 0) :
    10 ^ ((digitChars digits).length - 1) ≤ digits ∧ digits < 10 ^ (digitChars digits).length := by
  have hlength := length_digitChars_pos digits
  refine ⟨?_, (length_digitChars_le_iff hlength).1 le_rfl⟩
  by_cases hone : (digitChars digits).length = 1
  · rw [hone]
    exact Nat.pos_of_ne_zero hd
  · refine not_lt.1 fun hlt => ?_
    have := (length_digitChars_le_iff (by omega)).2 hlt
    omega

theorem size_bounds {digits : Nat} (hd : digits ≠ 0) (exponent : Int) :
    (10 : ℚ) ^ (exponent + (digitChars digits).length - 1) ≤ size digits exponent ∧
      size digits exponent < 10 ^ (exponent + (digitChars digits).length) := by
  obtain ⟨hlow, hhigh⟩ := bounds_of_digitChars hd
  have hlength := length_digitChars_pos digits
  have hpos : (0 : ℚ) < 10 ^ exponent := by positivity
  have hlow : (10 : ℚ) ^ ((digitChars digits).length - 1) ≤ digits := by exact_mod_cast hlow
  have hhigh : (digits : ℚ) < 10 ^ (digitChars digits).length := by exact_mod_cast hhigh
  rw [size, show exponent + (digitChars digits).length - 1 =
    ((digitChars digits).length - 1 : Nat) + exponent by omega, add_comm exponent,
    zpow_add₀ (by norm_num), zpow_add₀ (by norm_num), zpow_natCast, zpow_natCast]
  exact ⟨mul_le_mul_of_nonneg_right hlow hpos.le, mul_lt_mul_of_pos_right hhigh hpos⟩

/-- The range of doubles. -/
theorem Binary.Rounds.range {b : Binary} {x : ℚ} (hb : b.IsDouble) (hm : 0 < b.mantissa)
    (h : b.Rounds x) : (10 : ℚ) ^ (-324 : Int) < x ∧ x < 10 ^ (309 : Int) := by
  obtain ⟨hlow, hhigh, -⟩ := h.bounds
  have hbelow := b.below_le
  have hpos : (0 : ℚ) < 2 ^ b.exponent := by positivity
  have hmantissa : (1 : ℚ) ≤ b.mantissa := by exact_mod_cast hm
  have hlt : (b.mantissa : ℚ) + 1 ≤ 2 ^ 53 := by exact_mod_cast hb.mantissa_lt
  have hleast : (2 : ℚ) ^ (-1074 : Int) ≤ 2 ^ b.exponent :=
    zpow_le_zpow_right₀ (by norm_num) hb.le_exponent
  have hgreatest : (2 : ℚ) ^ b.exponent ≤ 2 ^ (971 : Int) :=
    zpow_le_zpow_right₀ (by norm_num) hb.exponent_le
  have hten : (2 * 2 ^ 1074 : ℚ) < 10 ^ 324 := by
    exact_mod_cast (by decide +kernel : 2 * 2 ^ 1074 < 10 ^ 324)
  have htop : (2 ^ 53 * 2 ^ 971 : ℚ) < 10 ^ 309 := by
    exact_mod_cast (by decide +kernel : 2 ^ 53 * 2 ^ 971 < 10 ^ 309)
  constructor
  · calc (10 : ℚ) ^ (-324 : Int) = (10 ^ 324)⁻¹ := zpow_neg ..
      _ < (2 * 2 ^ 1074)⁻¹ := inv_strictAnti₀ (by positivity) hten
      _ = 1 / 2 * 2 ^ (-1074 : Int) := by
        rw [mul_inv, one_div]
        rfl
      _ ≤ 1 / 2 * 2 ^ b.exponent := by linarith
      _ ≤ x := (le_div_iff₀ hpos).1 (by linarith)
  · calc x ≤ 2 ^ 53 * 2 ^ b.exponent := (div_le_iff₀ hpos).1 (by linarith)
      _ ≤ 2 ^ 53 * 2 ^ (971 : Int) := by linarith
      _ < 10 ^ (309 : Int) := htop

/-- What arithmetic negates. -/
theorem neg_ofModel_pack {b : Binary} (hb : b.IsDouble) (hm : 0 < b.mantissa) :
    -Float.ofModel (.pack (.finite .positive b.mantissa b.exponent hm)) =
      Float.ofModel (.pack (.finite .negative b.mantissa b.exponent hm)) := by
  change Float.ofModel (.pack (Float.Model.unpack _).neg) = _
  rw [unpack_pack .positive hb hm]
  rfl

theorem StandsFor.toFloat_eq {d : Decimal} {reading : Reading} {unpacked : Float.Model.UnpackedFloat}
    (h : StandsFor d reading) (hu : Unpacks unpacked reading) : d.toFloat = .ofModel (.pack unpacked) := by
  cases h with
  | undefined =>
    cases hu
    rfl
  | infinite negative =>
    cases hu
    cases negative <;> rfl
  | zero negative =>
    cases hu with
    | zero => cases negative <;> rfl
    | finite _ _ hm => exact absurd rfl hm.ne
  | @finite negative digits exponent b hd hb hm hr =>
    cases hu with
    | zero => exact absurd rfl hm.ne
    | finite =>
      have hne := ne_zero_of_mod_ne_zero hd
      obtain ⟨hlow, hhigh⟩ := hr.range hb hm
      obtain ⟨hleast, hgreatest⟩ := size_bounds hne exponent
      have hbelow := (zpow_lt_zpow_iff_right₀ (by norm_num)).1 (hleast.trans_lt hhigh)
      have habove := (zpow_lt_zpow_iff_right₀ (by norm_num)).1 (hlow.trans hgreatest)
      have hlog : (digitChars digits).length - 1 ≤ digits.log2 :=
        (Nat.le_log2 hne).2 ((Nat.pow_le_pow_left (by decide) _).trans (bounds_of_digitChars hne).1)
      have hlength := length_digitChars_pos digits
      have hread := ofScientific_eq hne (by omega) (by omega) hb hm hr
      have hsmall : ¬(digits = 0 ∨ exponent + (digitChars digits).length < -400) := by omega
      have hlarge : ¬400 < exponent + ((digitChars digits).length : Int) := by omega
      unfold toFloat
      dsimp only
      rw [if_neg hsmall, if_neg hlarge, hread]
      cases negative with
      | false => rfl
      | true => exact neg_ofModel_pack hb hm

/-- The shortest decimal of a double is read as this double. -/
theorem toFloat_ofFloat (x : Float) : (ofFloat x).toFloat = x :=
  ((ofFloat_standsFor x).toFloat_eq (unpacks x)).trans (ofModel_pack_unpack x)

/-- The shortest decimal tells doubles apart. -/
theorem ofFloat_injective : Function.Injective ofFloat :=
  Function.LeftInverse.injective toFloat_ofFloat

end Greenlight.Decimal
