import Greenlight.Proofs.Decimal.Size
import Mathlib.Data.Nat.Factorization.Basic

/-! # Shortest decimals read back

Main statement: the decimal of a double rounds to the double, whether it is found on a coarse grid or is
the nearest one of seventeen digits. -/

namespace Greenlight.Decimal

/-! ## Rounding to a grid -/

theorem abs_roundDiv_sub_le (num : Nat) {den : Nat} (hden : 0 < den) :
    |(roundDiv num den : ℚ) - num / den| ≤ 1 / 2 := by
  have hpos : (0 : ℚ) < den := Nat.cast_pos.2 hden
  have hsplit := cast_div_eq num hden
  have hrest := cast_mod_div_lt_one num hden
  have hnonneg : 0 ≤ ((num % den : Nat) : ℚ) / den := by positivity
  unfold roundDiv
  dsimp only
  rw [hsplit, abs_le]
  generalize num / den = q at *
  generalize num % den = r at *
  split
  · next hr =>
      have hhalf : (r : ℚ) / den < 1 / 2 := by
        rw [div_lt_iff₀ hpos]
        have : (2 : ℚ) * r < den := by exact_mod_cast hr
        linarith
      constructor <;> linarith
  · split
    · next hr =>
        have hhalf : 1 / 2 < (r : ℚ) / den := by
          rw [lt_div_iff₀ hpos]
          have : (den : ℚ) < 2 * r := by exact_mod_cast hr
          linarith
        push_cast
        constructor <;> linarith
    · next hless hmore =>
        have hhalf : (r : ℚ) / den = 1 / 2 := by
          rw [div_eq_iff hpos.ne']
          have : (2 : ℚ) * r = den := by exact_mod_cast (by omega : 2 * r = den)
          linarith
        have heven : ((q % 2 : Nat) : ℚ) ≤ 1 := by exact_mod_cast (by omega : q % 2 ≤ 1)
        have hzero : (0 : ℚ) ≤ ((q % 2 : Nat) : ℚ) := Nat.cast_nonneg _
        push_cast at *
        constructor <;> linarith

theorem abs_size_roundToUnit_sub_le (b : Binary) (unit : Int) :
    |size (roundToUnit b.fraction.1 b.fraction.2 unit) unit - b.size| ≤ 10 ^ unit / 2 := by
  have hden : 0 < b.fraction.2 * tenTo unit.toNat :=
    Nat.mul_pos b.fraction_pos (Nat.pow_pos (by decide))
  have hunits : ((b.fraction.1 * tenTo (-unit).toNat : Nat) : ℚ) /
      (b.fraction.2 * tenTo unit.toNat : Nat) = b.size / 10 ^ unit := by
    rw [← b.fraction_eq, zpow_eq_div unit]
    push_cast [cast_tenTo]
    field_simp
  have hround := abs_roundDiv_sub_le (b.fraction.1 * tenTo (-unit).toNat) hden
  rw [hunits] at hround
  have hpos : (0 : ℚ) < 10 ^ unit := by positivity
  calc |size (roundToUnit b.fraction.1 b.fraction.2 unit) unit - b.size|
      = |(roundToUnit b.fraction.1 b.fraction.2 unit : ℚ) - b.size / 10 ^ unit| * 10 ^ unit := by
        rw [← abs_of_pos hpos, ← abs_mul, abs_of_pos hpos, sub_mul, div_mul_cancel₀ _ hpos.ne', size]
    _ ≤ 1 / 2 * 10 ^ unit := mul_le_mul_of_nonneg_right hround hpos.le
    _ = 10 ^ unit / 2 := by ring

/-! ## The leading digit -/

theorem le_of_leadingExponent {num den : Nat} (hden : 0 < den) (steps : Nat) {low : Int}
    (h : (10 : ℚ) ^ low ≤ num / den) :
    (10 : ℚ) ^ leadingExponent num den steps low ≤ num / den := by
  induction steps generalizing low with
  | zero => exact h
  | succ steps ih =>
    unfold leadingExponent
    split
    · exact h
    · next hnext =>
        refine ih ?_
        have hpos : (0 : ℚ) < den := Nat.cast_pos.2 hden
        have hle : (den * tenTo (low + 1).toNat : ℚ) ≤ num * tenTo (-(low + 1)).toNat := by
          exact_mod_cast not_lt.1 hnext
        rw [cast_tenTo, cast_tenTo] at hle
        rw [zpow_eq_div, div_le_div_iff₀ (by positivity) hpos]
        linarith

/-- The estimate from the binary logarithm is not too high, for all exponents of doubles. -/
theorem estimate_le (bits : Int) (hlow : -1074 ≤ bits) (hhigh : bits ≤ 1023) :
    (10 : ℚ) ^ (Int.fdiv (bits * 30103) 100000 - 1) ≤ 2 ^ bits := by
  have habove : ∀ n < 1024, 10 ^ (n * 30103 / 100000) ≤ 10 * 2 ^ n := by decide +kernel
  have hbelow : ∀ n < 1075, 2 ^ n ≤ 10 ^ ((n * 30103 + 99999) / 100000 + 1) := by decide +kernel
  rw [Int.fdiv_eq_ediv_of_nonneg _ (by decide)]
  rcases le_total 0 bits with hbits | hbits
  · obtain ⟨n, rfl⟩ := Int.eq_ofNat_of_zero_le hbits
    have hn : ((10 : ℚ) ^ (n * 30103 / 100000)) ≤ 10 * 2 ^ n := by
      exact_mod_cast habove n (by omega)
    have hestimate : (n : Int) * 30103 / 100000 = (n * 30103 / 100000 : Nat) := by omega
    rw [hestimate, zpow_sub₀ (by norm_num), zpow_natCast, zpow_natCast, zpow_one,
      div_le_iff₀ (by norm_num)]
    linarith
  · obtain ⟨n, hn⟩ := Int.eq_ofNat_of_zero_le (neg_nonneg.2 hbits)
    obtain rfl : bits = -(n : Int) := by omega
    have hpow : ((2 : ℚ) ^ n) ≤ 10 ^ ((n * 30103 + 99999) / 100000 + 1) := by
      exact_mod_cast hbelow n (by omega)
    have hestimate : -(n : Int) * 30103 / 100000 - 1 =
        -(((n * 30103 + 99999) / 100000 + 1 : Nat) : Int) := by omega
    rw [hestimate, zpow_neg, zpow_neg, zpow_natCast, zpow_natCast]
    exact inv_anti₀ (by positivity) hpow

theorem Binary.IsDouble.le_leadingExponent {b : Binary} (hb : b.IsDouble) (hm : 0 < b.mantissa) :
    (10 : ℚ) ^ b.leadingExponent ≤ b.size := by
  have hlog : Nat.log2 b.mantissa < 53 := (Nat.log2_lt hm.ne').2 hb.mantissa_lt
  have hestimate := estimate_le (Nat.log2 b.mantissa + b.exponent)
    (by have := hb.le_exponent; omega) (by have := hb.exponent_le; omega)
  have hbits : (2 : ℚ) ^ ((Nat.log2 b.mantissa : Int) + b.exponent) ≤ b.size := by
    rw [zpow_add₀ two_ne_zero, zpow_natCast, Binary.size]
    refine mul_le_mul_of_nonneg_right ?_ (by positivity)
    exact_mod_cast Nat.log2_self_le hm.ne'
  unfold Binary.leadingExponent
  rw [← b.fraction_eq] at hbits ⊢
  exact le_of_leadingExponent b.fraction_pos 4 (hestimate.trans hbits)

/-! ## The decimal of a double -/

/-- The nearest decimal of seventeen digits rounds to the double. -/
theorem Binary.IsDouble.rounds_roundToUnit {b : Binary} (hb : b.IsDouble) (hm : 0 < b.mantissa) :
    b.Rounds (Decimal.size (roundToUnit b.fraction.1 b.fraction.2 (b.leadingExponent - 16))
      (b.leadingExponent - 16)) := by
  have hpos : (0 : ℚ) < 2 ^ b.exponent := by positivity
  have hnear := abs_size_roundToUnit_sub_le b (b.leadingExponent - 16)
  have hunit : (10 : ℚ) ^ (b.leadingExponent - 16) ≤ b.mantissa * 2 ^ b.exponent / 10 ^ 16 := by
    rw [zpow_sub₀ (by norm_num)]
    exact div_le_div_of_nonneg_right (hb.le_leadingExponent hm) (by positivity)
  generalize Decimal.size _ _ = x at *
  -- in units of the mantissa, the distance is less than that to the nearer end
  have hdistance : |x / 2 ^ b.exponent - b.mantissa| ≤ b.mantissa / (2 * 10 ^ 16) := by
    rw [div_sub' hpos.ne', abs_div, abs_of_pos hpos, div_le_iff₀ hpos, mul_comm (2 ^ b.exponent)]
    calc |x - b.mantissa * 2 ^ b.exponent| ≤ 10 ^ (b.leadingExponent - 16) / 2 := hnear
      _ ≤ b.mantissa * 2 ^ b.exponent / 10 ^ 16 / 2 := by linarith
      _ = b.mantissa / (2 * 10 ^ 16) * 2 ^ b.exponent := by ring
  have hbelow : (b.mantissa : ℚ) / (2 * 10 ^ 16) < b.below := by
    unfold below
    split
    · next hnarrow =>
        rw [(hb.narrowBelow_iff.1 hnarrow).1]
        norm_num
    · have hlt : (b.mantissa : ℚ) < 2 ^ 53 := by exact_mod_cast hb.mantissa_lt
      rw [div_lt_iff₀ (by positivity)]
      linarith
  have hhalf := b.below_le
  obtain ⟨hleft, hright⟩ := abs_le.1 hdistance
  refine .inl ⟨?_, ?_⟩ <;> linarith

theorem Binary.readsBack_of_nearestOnGrid? {b : Binary} {unit : Int} {n : Nat}
    (h : b.nearestOnGrid? unit = some n) : b.readsBack n unit = true := by
  unfold nearestOnGrid? at h
  extract_lets num den below near far at h
  by_cases hnear : b.readsBack near unit = true
  · rw [if_pos hnear] at h
    exact Option.some.inj h ▸ hnear
  · rw [if_neg hnear] at h
    by_cases hfar : b.readsBack far unit = true
    · rw [if_pos hfar] at h
      exact Option.some.inj h ▸ hfar
    · rw [if_neg hfar] at h
      cases h

theorem Binary.IsDouble.rounds_shortestFrom {b : Binary} (hb : b.IsDouble) (hm : 0 < b.mantissa)
    (steps digits : Nat) (hdigits : steps + digits = 17) :
    b.Rounds (Decimal.size (b.shortestFrom b.leadingExponent steps digits).1
      (b.shortestFrom b.leadingExponent steps digits).2) := by
  induction steps generalizing digits with
  | zero =>
    obtain rfl : digits = 17 := by omega
    have hunit : b.leadingExponent + 1 - (17 : Nat) = b.leadingExponent - 16 := by omega
    simp only [shortestFrom, hunit]
    exact hb.rounds_roundToUnit hm
  | succ steps ih =>
    unfold shortestFrom
    dsimp only
    split
    · next n hn => exact (readsBack_iff hm _ _).1 (readsBack_of_nearestOnGrid? hn)
    · exact ih (digits + 1) (by omega)

/-! ## Trailing zeros -/

/-- The digits do not end in a zero. -/
def IsCanonical : Decimal → Prop
  | .finite _ digits exponent => digits % 10 ≠ 0 ∨ digits = 0 ∧ exponent = 0
  | _ => True

theorem ne_zero_of_mod_ne_zero {d : Nat} (hd : d % 10 ≠ 0) : d ≠ 0 := by
  rintro rfl
  exact hd rfl

theorem trimZeros_mul {d : Nat} (hd : d % 10 ≠ 0) (zeros steps : Nat) (h : zeros < steps)
    (exponent : Int) : trimZeros steps (d * 10 ^ zeros) exponent = (d, exponent + zeros) := by
  induction zeros generalizing steps exponent with
  | zero =>
    obtain ⟨steps, rfl⟩ := Nat.exists_eq_succ_of_ne_zero h.ne'
    simp [trimZeros, hd, ne_zero_of_mod_ne_zero hd]
  | succ zeros ih =>
    obtain ⟨steps, rfl⟩ := Nat.exists_eq_succ_of_ne_zero (Nat.ne_of_gt (by omega : 0 < steps))
    have hne : d * 10 ^ (zeros + 1) ≠ 0 :=
      Nat.mul_ne_zero (ne_zero_of_mod_ne_zero hd) (by positivity)
    have hmod : d * 10 ^ (zeros + 1) % 10 = 0 := by
      rw [pow_succ, ← mul_assoc, Nat.mul_mod_left]
    have hdiv : d * 10 ^ (zeros + 1) / 10 = d * 10 ^ zeros := by
      rw [pow_succ, ← mul_assoc, Nat.mul_div_cancel _ (by decide)]
    rw [trimZeros, if_neg hne, if_pos hmod, hdiv, ih steps (by omega)]
    congr 1
    push_cast
    ring

theorem canonical_zero (negative : Bool) (exponent : Int) :
    canonical negative 0 exponent = .finite negative 0 0 := by
  simp [canonical, trimZeros]

theorem canonical_mul {d : Nat} (hd : d % 10 ≠ 0) (negative : Bool) (zeros : Nat) (exponent : Int) :
    canonical negative (d * 10 ^ zeros) exponent = .finite negative d (exponent + zeros) := by
  have hsteps : zeros < (d * 10 ^ zeros).log2 + 1 := by
    have hpos : 0 < d := Nat.pos_of_ne_zero (ne_zero_of_mod_ne_zero hd)
    have hpow : 2 ^ zeros ≤ d * 10 ^ zeros :=
      (Nat.pow_le_pow_left (by decide) zeros).trans (Nat.le_mul_of_pos_left _ hpos)
    exact Nat.lt_succ_of_le ((Nat.le_log2 (by positivity)).2 hpow)
  rw [canonical, trimZeros_mul hd zeros _ hsteps]

/-- A canonical decimal stays as it is. -/
theorem canonical_of_isCanonical {negative : Bool} {digits : Nat} {exponent : Int}
    (h : IsCanonical (.finite negative digits exponent)) :
    canonical negative digits exponent = .finite negative digits exponent := by
  rcases h with hd | ⟨rfl, rfl⟩
  · simpa using canonical_mul hd negative 0 exponent
  · exact canonical_zero negative 0

/-- Every number of digits is one that does not end in a zero, with zeros behind it. -/
theorem exists_canonical {digits : Nat} (h : digits ≠ 0) (negative : Bool) (exponent : Int) :
    ∃ d e, canonical negative digits exponent = .finite negative d e ∧ d % 10 ≠ 0 ∧
      size d e = size digits exponent := by
  obtain ⟨zeros, d, hd, rfl⟩ := Nat.exists_eq_pow_mul_and_not_dvd h 10 (by decide)
  have hmod : d % 10 ≠ 0 := fun hm => hd (Nat.dvd_of_mod_eq_zero hm)
  refine ⟨d, exponent + zeros, ?_, hmod, ?_⟩
  · rw [mul_comm, canonical_mul hmod]
  · rw [size, size, zpow_add₀ (by norm_num), zpow_natCast]
    push_cast
    ring

end Greenlight.Decimal
