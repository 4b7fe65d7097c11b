import Greenlight.Proofs.Decimal.Packing
import Greenlight.Proofs.Decimal.Rounding

/-! # The double nearest to a decimal

Main statement: a decimal that rounds to a double is read as this double, by one multiplication or
division of doubles where both factors are exact, and by whole numbers of any size elsewhere. -/

namespace Greenlight.Decimal

open Float.Model Float.Model.UnpackedFloat

theorem Binary.rounds_size (b : Binary) : b.Rounds b.size := by
  have hbelow : 0 < b.below := by
    unfold below
    split <;> norm_num
  refine .inl ?_
  rw [size, mul_div_cancel_right₀ _ (by positivity)]
  constructor <;> linarith

/-! ## Quotients and products -/

theorem describes_exact (m : Nat) : Describes (.ofMantissaAndAccuracy m .exact) m := by
  constructor <;> norm_num [ExtendedMantissa.ofMantissaAndAccuracy, half]

theorem describes_quotient (n : Nat) {d : Nat} (hd : 0 < d) :
    Describes (.ofMantissaAndAccuracy (n / d) (accuracyOfFraction (n % d) d)) (n / d) := by
  have hpos : (0 : ℚ) < d := Nat.cast_pos.2 hd
  have hrest := cast_mod_div_lt_one n hd
  rw [cast_div_eq n hd]
  generalize n / d = q
  generalize n % d = r at *
  unfold accuracyOfFraction
  split
  · next hzero =>
      rw [hzero, Nat.cast_zero, zero_div, add_zero]
      exact describes_exact q
  · next hne =>
      have hr : 0 < (r : ℚ) / d := div_pos (Nat.cast_pos.2 (Nat.pos_of_ne_zero hne)) hpos
      cases hcompare : compare (2 * r) d with
      | lt =>
        have hhalf : (r : ℚ) / d < 1 / 2 := by
          rw [div_lt_iff₀ hpos]
          have : (2 * r : ℚ) < d := by exact_mod_cast Nat.compare_eq_lt.1 hcompare
          linarith
        constructor <;> simp [ExtendedMantissa.ofMantissaAndAccuracy, half, hne, hd.ne'] <;> linarith
      | eq =>
        have hhalf : (r : ℚ) / d = 1 / 2 := by
          rw [div_eq_iff hpos.ne']
          have : (2 * r : ℚ) = d := by exact_mod_cast Nat.compare_eq_eq.1 hcompare
          linarith
        constructor <;> simp [ExtendedMantissa.ofMantissaAndAccuracy, half, hhalf]
      | gt =>
        have hhalf : 1 / 2 < (r : ℚ) / d := by
          rw [lt_div_iff₀ hpos]
          have : (d : ℚ) < 2 * r := by exact_mod_cast Nat.compare_eq_gt.1 hcompare
          linarith
        constructor <;> simp [ExtendedMantissa.ofMantissaAndAccuracy, half] <;> linarith

/-- The quotient has enough bits, or the lowest exponent. -/
theorem quotient_le_target {m₁ m₂ : Nat} {e₁ e₂ : Int} (h₁ : 0 < m₁) (h₂ : 0 < m₂) {t : Int}
    (ht : t ≤ Format.binary64.targetExponent (totalExponent m₁ e₁ - totalExponent m₂ e₂)) {n : Nat}
    (hn : e₁ - e₂ - t = n) :
    t ≤ Format.binary64.targetExponent (totalExponent ((m₁ <<< n) / m₂) t) := by
  rw [targetExponent_eq] at ht ⊢
  simp only [totalExponent] at ht ⊢
  by_cases hlowest : t ≤ -1074
  · omega
  · have hbits : 52 + (m₂.log2 + 1) ≤ m₁.log2 + n := by omega
    have hquotient : 2 ^ 52 ≤ (m₁ <<< n) / m₂ := by
      rw [Nat.le_div_iff_mul_le h₂, Nat.shiftLeft_eq]
      calc 2 ^ 52 * m₂ ≤ 2 ^ 52 * 2 ^ (m₂.log2 + 1) :=
            Nat.mul_le_mul_left _ Nat.lt_log2_self.le
        _ = 2 ^ (52 + (m₂.log2 + 1)) := (Nat.pow_add ..).symm
        _ ≤ 2 ^ (m₁.log2 + n) := Nat.pow_le_pow_right (by decide) hbits
        _ = 2 ^ m₁.log2 * 2 ^ n := Nat.pow_add ..
        _ ≤ m₁ * 2 ^ n := Nat.mul_le_mul_right _ (Nat.log2_self_le h₁.ne')
    have hlog : 52 ≤ ((m₁ <<< n) / m₂).log2 := (Nat.le_log2 (by omega)).2 hquotient
    omega

theorem div_eq {s₁ s₂ : Sign} {m₁ m₂ : Nat} {e₁ e₂ : Int} {h₁ : 0 < m₁} {h₂ : 0 < m₂} {b : Binary}
    (hb : b.IsDouble) (hm : 0 < b.mantissa) (hr : b.Rounds (m₁ * 2 ^ e₁ / (m₂ * 2 ^ e₂))) :
    UnpackedFloat.div .binary64 (.finite s₁ m₁ e₁ h₁) (.finite s₂ m₂ e₂ h₂) =
      .finite (s₁ / s₂) b.mantissa b.exponent hm := by
  unfold UnpackedFloat.div divCore
  dsimp only
  generalize htarget : min (e₁ - e₂) (Format.binary64.targetExponent
    (totalExponent m₁ e₁ - totalExponent m₂ e₂)) = t
  obtain ⟨n, hn⟩ := Int.eq_ofNat_of_zero_le (show 0 ≤ e₁ - e₂ - t by omega)
  rw [hn, Int.toNat_natCast]
  have hvalue : (m₁ * 2 ^ e₁ / (m₂ * 2 ^ e₂) : ℚ) / 2 ^ t = (m₁ <<< n : Nat) / m₂ := by
    rw [Nat.shiftLeft_eq, show e₁ = n + t + e₂ by omega, zpow_add₀ two_ne_zero, zpow_add₀ two_ne_zero,
      zpow_natCast]
    push_cast
    field_simp
  exact roundWithAccuracy_eq (s₁ / s₂) (hvalue ▸ describes_quotient (m₁ <<< n) h₂)
    (quotient_le_target h₁ h₂ (by omega) hn) hb hm hr

theorem mul_eq {s₁ s₂ : Sign} {m₁ m₂ : Nat} {e₁ e₂ : Int} {h₁ : 0 < m₁} {h₂ : 0 < m₂} {b : Binary}
    (hb : b.IsDouble) (hm : 0 < b.mantissa) (hr : b.Rounds (m₁ * 2 ^ e₁ * (m₂ * 2 ^ e₂)))
    (hbits : 2 ^ 52 ≤ m₁ * m₂) :
    UnpackedFloat.mul .binary64 (.finite s₁ m₁ e₁ h₁) (.finite s₂ m₂ e₂ h₂) =
      .finite (s₁ * s₂) b.mantissa b.exponent hm := by
  have hlog : 52 ≤ (m₁ * m₂).log2 := (Nat.le_log2 (by positivity)).2 hbits
  have hvalue : (m₁ * 2 ^ e₁ * (m₂ * 2 ^ e₂) : ℚ) / 2 ^ (e₁ + e₂) = (m₁ * m₂ : Nat) := by
    rw [zpow_add₀ two_ne_zero]
    push_cast
    field_simp
  refine roundWithAccuracy_eq (s₁ * s₂) (hvalue ▸ describes_exact (m₁ * m₂)) ?_ hb hm hr
  rw [targetExponent_eq, totalExponent]
  omega

section Floats

variable {x y : Float} {m₁ m₂ : Nat} {e₁ e₂ : Int} {h₁ : 0 < m₁} {h₂ : 0 < m₂} {b : Binary}

theorem float_div_eq (hx : x.toModel.unpack = .finite .positive m₁ e₁ h₁)
    (hy : y.toModel.unpack = .finite .positive m₂ e₂ h₂) (hb : b.IsDouble) (hm : 0 < b.mantissa)
    (hr : b.Rounds (m₁ * 2 ^ e₁ / (m₂ * 2 ^ e₂))) :
    x / y = .ofModel (.pack (.finite .positive b.mantissa b.exponent hm)) := by
  change Float.ofModel (.pack (UnpackedFloat.div .binary64 _ _)) = _
  rw [hx, hy, div_eq hb hm hr]
  rfl

theorem float_mul_eq (hx : x.toModel.unpack = .finite .positive m₁ e₁ h₁)
    (hy : y.toModel.unpack = .finite .positive m₂ e₂ h₂) (hb : b.IsDouble) (hm : 0 < b.mantissa)
    (hr : b.Rounds (m₁ * 2 ^ e₁ * (m₂ * 2 ^ e₂))) (hbits : 2 ^ 52 ≤ m₁ * m₂) :
    x * y = .ofModel (.pack (.finite .positive b.mantissa b.exponent hm)) := by
  change Float.ofModel (.pack (UnpackedFloat.mul .binary64 _ _)) = _
  rw [hx, hy, mul_eq hb hm hr hbits]
  rfl

end Floats

/-! ## Whole numbers -/

/-- A whole number as a double whose leading bit is set. -/
def binaryOf (n : Nat) : Binary :=
  ⟨n <<< (52 - n.log2), -(52 - n.log2 : Nat), n <<< (52 - n.log2) == 2 ^ 52⟩

section WholeNumbers

variable {n : Nat}

theorem mantissa_binaryOf (hn : n ≠ 0) (hlt : n < 2 ^ 53) :
    2 ^ 52 ≤ (binaryOf n).mantissa ∧ (binaryOf n).mantissa < 2 ^ 53 := by
  have hlog : n.log2 < 53 := (Nat.log2_lt hn).2 hlt
  have hpow (k : Nat) : 2 ^ k * 2 ^ (52 - n.log2) = 2 ^ (k + (52 - n.log2)) := (Nat.pow_add ..).symm
  rw [binaryOf, Nat.shiftLeft_eq]
  constructor
  · calc 2 ^ 52 = 2 ^ n.log2 * 2 ^ (52 - n.log2) := by rw [hpow, Nat.add_sub_cancel' (by omega)]
      _ ≤ n * 2 ^ (52 - n.log2) := Nat.mul_le_mul_right _ (Nat.log2_self_le hn)
  · calc n * 2 ^ (52 - n.log2) < 2 ^ (n.log2 + 1) * 2 ^ (52 - n.log2) :=
          Nat.mul_lt_mul_of_pos_right Nat.lt_log2_self (by positivity)
      _ = 2 ^ 53 := by rw [hpow, show n.log2 + 1 + (52 - n.log2) = 53 by omega]

theorem isDouble_binaryOf (hn : n ≠ 0) (hlt : n < 2 ^ 53) : (binaryOf n).IsDouble := by
  obtain ⟨hlow, hhigh⟩ := mantissa_binaryOf hn hlt
  have hexponent : -52 ≤ (binaryOf n).exponent ∧ (binaryOf n).exponent ≤ 0 := by
    simp only [binaryOf]
    omega
  exact {
    mantissa_lt := hhigh
    le_exponent := by omega
    exponent_le := by omega
    le_mantissa := fun _ => hlow
    narrowBelow_iff := by
      rw [binaryOf, beq_iff_eq]
      exact (and_iff_left (show -1074 < (binaryOf n).exponent by omega)).symm }

theorem size_binaryOf (n : Nat) : (binaryOf n).size = n := by
  rw [binaryOf, Binary.size, Nat.shiftLeft_eq, zpow_neg, zpow_natCast]
  push_cast
  field_simp

theorem round_eq (hn : n ≠ 0) (hlt : n < 2 ^ 53) (hm : 0 < (binaryOf n).mantissa) :
    UnpackedFloat.round .binary64 .positive n 0 =
      .finite .positive (binaryOf n).mantissa (binaryOf n).exponent hm := by
  have hlog : n.log2 < 53 := (Nat.log2_lt hn).2 hlt
  have htarget : Format.binary64.targetExponent (totalExponent n 0) = -(52 - n.log2 : Nat) := by
    rw [targetExponent_eq, totalExponent]
    omega
  have hbits : (binaryOf n).mantissa.log2 = 52 := by
    obtain ⟨hlow, hhigh⟩ := mantissa_binaryOf hn hlt
    exact (Nat.log2_eq_iff hm.ne').2 ⟨hlow, hhigh⟩
  unfold UnpackedFloat.round decreaseExponent
  dsimp only
  rw [htarget, show (0 - -((52 - n.log2 : Nat) : Int)).toNat = 52 - n.log2 by omega,
    show (0 : Int) - (52 - n.log2 : Nat) = (binaryOf n).exponent by simp [binaryOf]]
  have hvalue : (binaryOf n).size / 2 ^ (binaryOf n).exponent = (binaryOf n).mantissa := by
    rw [Binary.size, mul_div_cancel_right₀ _ (by positivity)]
  refine roundWithAccuracy_eq .positive (x := (binaryOf n).size) ?_ ?_ (isDouble_binaryOf hn hlt) hm
    (binaryOf n).rounds_size
  · rw [hvalue]
    exact describes_exact _
  · change (binaryOf n).exponent ≤
      Format.binary64.targetExponent (totalExponent (binaryOf n).mantissa (binaryOf n).exponent)
    rw [targetExponent_eq, totalExponent, hbits]
    omega

/-- A whole number with no more bits than a mantissa is the double of this size. -/
theorem unpack_toFloat (hn : n ≠ 0) (hlt : n < 2 ^ 53) (hm : 0 < (binaryOf n).mantissa) :
    n.toUInt64.toFloat.toModel.unpack =
      .finite .positive (binaryOf n).mantissa (binaryOf n).exponent hm := by
  have hround : UnpackedFloat.ofUInt64 .binary64 n.toUInt64 =
      .finite .positive (binaryOf n).mantissa (binaryOf n).exponent hm := by
    have hpos : compare (n : Int) 0 = .gt := Int.compare_eq_gt.2 (by omega)
    have hsize : n.toUInt64.toNat = n := UInt64.toNat_ofNat_of_lt' (hlt.trans (by decide))
    rw [UnpackedFloat.ofUInt64, UnpackedFloat.ofNat, UnpackedFloat.ofInt, hsize, UnpackedFloat.normalize, hpos]
    exact round_eq hn hlt hm
  rw [UInt64.toFloat, Float.Model.ofUInt64, hround]
  exact unpack_pack .positive (isDouble_binaryOf hn hlt) hm

end WholeNumbers

/-! ## Powers of ten -/

/-- The double is a whole number, and its leading bit is set. -/
def isWholeNumber (x : Float) (n : Nat) : Bool :=
  match Reading.ofFloat x with
  | .finite false b => decide (2 ^ 52 ≤ b.mantissa) && b.fraction.1 == n * b.fraction.2
  | _ => false

theorem exists_of_isWholeNumber {x : Float} {n : Nat} (h : isWholeNumber x n = true) :
    ∃ b : Binary, 2 ^ 52 ≤ b.mantissa ∧ b.size = n ∧ ∃ hm,
      x.toModel.unpack = .finite .positive b.mantissa b.exponent hm := by
  have hreading := unpacks x
  unfold isWholeNumber at h
  generalize Reading.ofFloat x = reading at *
  generalize x.toModel.unpack = unpacked at *
  cases hreading with
  | undefined | infinite => cases h
  | zero negative => cases negative <;> cases h
  | @finite negative b _ hm =>
    cases negative with
    | true => cases h
    | false =>
      simp only [Bool.and_eq_true, decide_eq_true_eq, beq_iff_eq] at h
      obtain ⟨hbits, hsize⟩ := h
      refine ⟨b, hbits, ?_, hm, rfl⟩
      have hpos : (b.fraction.2 : ℚ) ≠ 0 := Nat.cast_ne_zero.2 b.fraction_pos.ne'
      rw [← b.fraction_eq, hsize, Nat.cast_mul, mul_div_cancel_right₀ _ hpos]

theorem isWholeNumber_powerOfTen :
    ∀ e : Fin 23, isWholeNumber Float.exactlyRepresentablePowersOfTen[e] (10 ^ e.val) = true := by
  decide +kernel

/-! ## Decimals -/

section Decimals

variable {digits : Nat} {exponent : Int} {b : Binary}

theorem ofScientific_model_eq (hd : digits ≠ 0) (hlow : -(2048 + digits.log2 : Int) ≤ exponent)
    (hhigh : exponent ≤ 2048) (hb : b.IsDouble) (hm : 0 < b.mantissa)
    (hr : b.Rounds (size digits exponent)) :
    UnpackedFloat.ofScientific .binary64 digits exponent =
      .finite .positive b.mantissa b.exponent hm := by
  unfold UnpackedFloat.ofScientific
  rw [dif_neg hd, if_neg (by norm_num; omega), if_neg (by norm_num; omega)]
  by_cases he : 0 ≤ exponent
  · have hvalue : ((digits <<< 53 : Nat) * 2 ^ (-53 : Int) * ((10 ^ exponent.toNat : Nat) * 2 ^ (0 : Int)) : ℚ) =
        size digits exponent := by
      rw [size_of_nonneg digits he, Nat.shiftLeft_eq]
      push_cast
      field_simp
      norm_num
    have hbits : 2 ^ 52 ≤ digits <<< 53 * 10 ^ exponent.toNat := by
      rw [Nat.shiftLeft_eq]
      have hpos : 1 ≤ digits * 10 ^ exponent.toNat :=
        Nat.mul_pos (Nat.pos_of_ne_zero hd) (by positivity)
      nlinarith only [hpos]
    rw [if_pos he]
    exact mul_eq hb hm (hvalue ▸ hr) hbits
  · have hvalue : ((digits : ℚ) * 2 ^ (0 : Int) / ((10 ^ (-exponent).toNat : Nat) * 2 ^ (0 : Int))) =
        size digits exponent := by
      rw [size_of_nonpos digits (not_le.1 he).le]
      push_cast
      norm_num
    rw [if_neg he]
    exact div_eq hb hm (hvalue ▸ hr)

/-- A decimal that rounds to a double is this double. -/
theorem ofScientific_eq (hd : digits ≠ 0) (hlow : -(2048 + digits.log2 : Int) ≤ exponent)
    (hhigh : exponent ≤ 2048) (hb : b.IsDouble) (hm : 0 < b.mantissa)
    (hr : b.Rounds (size digits exponent)) :
    Float.ofScientific digits (exponent < 0) exponent.natAbs =
      .ofModel (.pack (.finite .positive b.mantissa b.exponent hm)) := by
  unfold Float.ofScientific
  by_cases h : digits < 2 ^ 53 ∧ exponent.natAbs ≤ 22
  · obtain ⟨hdigits, hsmall⟩ := h
    obtain ⟨p, hbits, hpower, hp, hunpack⟩ :=
      exists_of_isWholeNumber (isWholeNumber_powerOfTen ⟨exponent.natAbs, by omega⟩)
    have hpos : 0 < (binaryOf digits).mantissa := by
      have := (mantissa_binaryOf hd hdigits).1
      omega
    have hwhole := unpack_toFloat hd hdigits hpos
    have hpower : p.size = 10 ^ exponent.natAbs := by simpa using hpower
    rw [dif_pos ⟨hdigits, hsmall⟩]
    by_cases he : exponent < 0
    · have hvalue : (binaryOf digits).size / p.size = size digits exponent := by
        rw [size_binaryOf, hpower, size_of_nonpos digits he.le,
          show (-exponent).toNat = exponent.natAbs by omega]
      rw [if_pos (decide_eq_true he)]
      exact float_div_eq hwhole hunpack hb hm (hvalue ▸ hr)
    · have hvalue : (binaryOf digits).size * p.size = size digits exponent := by
        rw [size_binaryOf, hpower, size_of_nonneg digits (not_lt.1 he),
          show exponent.toNat = exponent.natAbs by omega]
      rw [if_neg (mt of_decide_eq_true he)]
      exact float_mul_eq hwhole hunpack hb hm (hvalue ▸ hr)
        (hbits.trans (Nat.le_mul_of_pos_left _ hpos))
  · have hsigned : (if decide (exponent < 0) = true then Int.negOfNat exponent.natAbs
        else Int.ofNat exponent.natAbs) = exponent := by
      simp only [decide_eq_true_eq, Int.negOfNat_eq, Int.ofNat_eq_natCast]
      split <;> omega
    rw [dif_neg h]
    dsimp only
    rw [hsigned, Float.Model.ofScientific, ofScientific_model_eq hd hlow hhigh hb hm hr]

end Decimals

end Greenlight.Decimal
