import Greenlight.Proofs.Decimal.Packing

/-! # Rounding to a double

Arithmetic on doubles keeps a mantissa with two bits for all that is cut off behind it. Main statement: a
number that rounds to a double is rounded to this double. -/

namespace Greenlight.Decimal

open Float.Model Float.Model.UnpackedFloat

/-! ## Mantissas with two more bits -/

/-- What a bit in front of all others of a fraction adds. -/
def half (bit : Bool) : ℚ := if bit then 1 / 2 else 0

/-- The mantissa is the whole part, the first bit tells the half, and the second one whether anything is
left. -/
structure Describes (em : ExtendedMantissa) (y : ℚ) : Prop where
  le : em.mantissa + half em.roundBit ≤ y
  lt : y < em.mantissa + half em.roundBit + 1 / 2
  sticky_iff : em.stickyBit = true ↔ y ≠ em.mantissa + half em.roundBit

/-- The nearest whole number, and the even one of two. -/
def IsNearest (m : Nat) (y : ℚ) : Prop :=
  m - 1 / 2 < y ∧ y < m + 1 / 2 ∨ m % 2 = 0 ∧ m - 1 / 2 ≤ y ∧ y ≤ m + 1 / 2

namespace Describes

variable {em : ExtendedMantissa} {y : ℚ}

/-- Halving a number moves the last bit of the mantissa behind it. -/
theorem shiftRightOne (h : Describes em y) : Describes em.shiftRightOne (y / 2) := by
  obtain ⟨mantissa, roundBit, stickyBit⟩ := em
  obtain ⟨hle, hlt, hsticky⟩ := h
  have hsplit : ((mantissa / 2 : Nat) : ℚ) + half (mantissa % 2 != 0) = mantissa / 2 := by
    have hdiv : (mantissa : ℚ) = 2 * (mantissa / 2 : Nat) + (mantissa % 2 : Nat) := by
      exact_mod_cast (Nat.div_add_mod mantissa 2).symm
    rcases Nat.mod_two_eq_zero_or_one mantissa with hm | hm
    · rw [hdiv, hm]
      norm_num [half]
    · rw [hdiv, hm]
      norm_num [half]
      ring
  have hnonneg : 0 ≤ half roundBit := by cases roundBit <;> norm_num [half]
  have hhalf : half roundBit ≤ 1 / 2 := by cases roundBit <;> norm_num [half]
  simp only at hle hlt hsticky
  constructor
  · change ((mantissa / 2 : Nat) : ℚ) + half (mantissa % 2 != 0) ≤ y / 2
    rw [hsplit]
    linarith
  · change y / 2 < ((mantissa / 2 : Nat) : ℚ) + half (mantissa % 2 != 0) + 1 / 2
    rw [hsplit]
    linarith
  · change (roundBit || stickyBit) = true ↔ y / 2 ≠ ((mantissa / 2 : Nat) : ℚ) + half (mantissa % 2 != 0)
    rw [hsplit, ne_eq, div_left_inj' two_ne_zero, Bool.or_eq_true, hsticky]
    cases roundBit with
    | false => simp [half]
    | true =>
      have hne : y ≠ mantissa := by
        have : (mantissa : ℚ) + 1 / 2 ≤ y := hle
        linarith
      simp [hne]

theorem shiftRight (h : Describes em y) (n : Nat) : Describes (em >>> n) (y / 2 ^ n) := by
  change Describes (n.repeat ExtendedMantissa.shiftRightOne em) _
  induction n with
  | zero => simpa [Nat.repeat] using h
  | succ n ih =>
    rw [pow_succ, ← div_div]
    exact ih.shiftRightOne

theorem bounds (h : Describes em y) : em.mantissa ≤ y ∧ y < em.mantissa + 1 := by
  have hnonneg : 0 ≤ half em.roundBit := by cases em.roundBit <;> norm_num [half]
  have hhalf : half em.roundBit ≤ 1 / 2 := by cases em.roundBit <;> norm_num [half]
  exact ⟨by linarith [h.le], by linarith [h.lt]⟩

/-- The mantissa is rounded to the nearest whole number, and to the even one of two. -/
theorem roundedMantissa_eq (h : Describes em y) {m : Nat} (hm : IsNearest m y) :
    em.roundedMantissa = m := by
  obtain ⟨mantissa, roundBit, stickyBit⟩ := em
  obtain ⟨hle, hlt, hsticky⟩ := h
  have hbounds : (m : ℚ) - 1 / 2 ≤ y ∧ y ≤ m + 1 / 2 := by
    rcases hm with ⟨hlow, hhigh⟩ | ⟨-, hlow, hhigh⟩
    · exact ⟨hlow.le, hhigh.le⟩
    · exact ⟨hlow, hhigh⟩
  have hnear {k : Nat} (hlow : (k : ℚ) < m + 1) (hhigh : (m : ℚ) < k + 1) : k = m := by
    have hlow : k < m + 1 := by exact_mod_cast hlow
    have hhigh : m < k + 1 := by exact_mod_cast hhigh
    omega
  cases roundBit with
  | false =>
    simp only [half, Bool.false_eq_true, if_false, add_zero] at hle hlt
    have hrounded : mantissa = m := hnear (by linarith) (by linarith)
    cases stickyBit <;> exact hrounded
  | true =>
    simp only [half, if_true] at hle hlt hsticky
    cases stickyBit with
    | true =>
      have hne := lt_of_le_of_ne hle (hsticky.1 rfl).symm
      change mantissa + 1 = m
      exact hnear (by push_cast; linarith) (by push_cast; linarith)
    | false =>
      obtain rfl : y = mantissa + 1 / 2 := not_not.1 (mt hsticky.2 Bool.false_ne_true)
      -- halfway only the even neighbour is left
      have hlow : mantissa ≤ m := by exact_mod_cast (by linarith : (mantissa : ℚ) ≤ m)
      have hhigh : m ≤ mantissa + 1 := by
        exact_mod_cast (by linarith : (m : ℚ) ≤ mantissa + 1)
      have heven : m % 2 = 0 := by
        rcases hm with ⟨hleft, hright⟩ | ⟨heven, -⟩
        · have hleft : m < mantissa + 1 := by exact_mod_cast (by linarith : (m : ℚ) < mantissa + 1)
          have hright : mantissa < m := by exact_mod_cast (by linarith : (mantissa : ℚ) < m)
          omega
        · exact heven
      change mantissa + mantissa % 2 = m
      omega

end Describes

/-! ## The exponent of the result -/

theorem targetExponent_eq (total : Int) :
    Format.binary64.targetExponent total = max (total - 53) (-1074) := rfl

/-- At the target exponent a number has as many bits as a double, or it has the lowest exponent. -/
theorem Describes.target_bounds {em : ExtendedMantissa} {e t : Int} {x : ℚ}
    (hd : Describes em (x / 2 ^ e)) (ht : t = Format.binary64.targetExponent (totalExponent em.mantissa e))
    (he : e ≤ t) : x / 2 ^ t < 2 ^ 53 ∧ (t = -1074 ∨ 2 ^ 52 ≤ x / 2 ^ t) := by
  obtain ⟨n, hn⟩ := Int.eq_ofNat_of_zero_le (sub_nonneg.2 he)
  rw [targetExponent_eq, totalExponent] at ht
  have hshift : x / 2 ^ t = x / 2 ^ e / 2 ^ n := by
    rw [show t = e + n by omega, zpow_add₀ two_ne_zero, zpow_natCast, div_div]
  obtain ⟨hlow, hhigh⟩ := hd.bounds
  rw [hshift]
  constructor
  · have hbits : (em.mantissa : ℚ) + 1 ≤ 2 ^ (em.mantissa.log2 + 1) := by
      exact_mod_cast Nat.lt_log2_self
    have hpow : (2 : ℚ) ^ (em.mantissa.log2 + 1) ≤ 2 ^ (53 + n) :=
      pow_le_pow_right₀ (by norm_num) (by omega)
    rw [div_lt_iff₀ (by positivity), ← pow_add]
    linarith
  · by_cases hlowest : t = -1074
    · exact .inl hlowest
    · have hn : em.mantissa.log2 = 52 + n := by omega
      have hne : em.mantissa ≠ 0 := by
        intro hzero
        rw [hzero, Nat.log2_zero] at hn
        omega
      have hbits : (2 : ℚ) ^ em.mantissa.log2 ≤ em.mantissa := by
        exact_mod_cast Nat.log2_self_le hne
      refine .inr ?_
      rw [le_div_iff₀ (by positivity), ← pow_add, ← hn]
      linarith

/-- A number that rounds to a double has the nearest mantissa, or it is just below a power of two. -/
theorem Binary.Rounds.cases {b : Binary} {x : ℚ} {t : Int} (hb : b.IsDouble) (hm : 0 < b.mantissa)
    (hr : b.Rounds x) (hlt : x / 2 ^ t < 2 ^ 53) (hle : t = -1074 ∨ 2 ^ 52 ≤ x / 2 ^ t) (ht : -1074 ≤ t) :
    t = b.exponent ∧ IsNearest b.mantissa (x / 2 ^ t) ∨
      t + 1 = b.exponent ∧ b.mantissa = 2 ^ 52 ∧ IsNearest (2 ^ 53) (x / 2 ^ t) := by
  have hmantissa : (b.mantissa : ℚ) + 1 ≤ 2 ^ 53 := by exact_mod_cast hb.mantissa_lt
  have hbelow := b.below_le
  obtain ⟨hlow, hhigh, -⟩ := hr.bounds
  -- one step of the exponent is a factor of two
  have hstep {i j : Int} (n : Nat) (hij : i + n ≤ j) : 2 ^ n * (x / 2 ^ j) ≤ x / 2 ^ i := by
    have hpow : (2 : ℚ) ^ i * 2 ^ n ≤ 2 ^ j := by
      rw [← zpow_natCast, ← zpow_add₀ two_ne_zero]
      exact zpow_le_zpow_right₀ (by norm_num) hij
    rw [mul_div_assoc', div_le_div_iff₀ (by positivity) (by positivity)]
    calc 2 ^ n * x * 2 ^ i = x * (2 ^ i * 2 ^ n) := by ring
      _ ≤ x * 2 ^ j := mul_le_mul_of_nonneg_left hpow (hr.pos hm).le
  rcases lt_trichotomy b.exponent t with hless | rfl | hmore
  · rcases hle with rfl | hle
    · exact absurd hb.le_exponent (not_le.2 hless)
    · have := hstep 1 (Int.add_one_le_of_lt hless)
      linarith
  · refine .inl ⟨rfl, ?_⟩
    rcases hr with ⟨hlow, hhigh⟩ | ⟨heven, hlow, hhigh⟩
    · exact .inl ⟨by linarith, hhigh⟩
    · exact .inr ⟨heven, by linarith, hhigh⟩
  · have hnormal : -1074 < b.exponent := lt_of_le_of_lt ht hmore
    have htwice := hstep 1 (Int.add_one_le_of_lt hmore)
    have hpower : b.mantissa = 2 ^ 52 := by
      by_contra hne
      have hnext : (2 : ℚ) ^ 52 + 1 ≤ b.mantissa := by
        exact_mod_cast Nat.lt_of_le_of_ne (hb.le_mantissa hnormal) (Ne.symm hne)
      linarith
    have hquarter : b.below = 1 / 4 := if_pos (hb.narrowBelow_iff.2 ⟨hpower, hnormal⟩)
    rw [hpower, hquarter] at hlow
    push_cast at hlow
    have hnext : t + 1 = b.exponent := by
      by_contra hne
      have := hstep 2 (i := t) (j := b.exponent) (by omega)
      linarith
    refine .inr ⟨hnext, hpower, .inr ⟨rfl, ?_, ?_⟩⟩
    · push_cast
      linarith
    · push_cast
      linarith

/-! ## Rounding -/

theorem shiftToTargetExponent_eq (m : Nat) (e : Int) (accuracy : Accuracy) {n : Nat}
    (hn : Format.binary64.targetExponent (totalExponent m e) - e = n ∨
      Format.binary64.targetExponent (totalExponent m e) ≤ e ∧ n = 0) :
    shiftToTargetExponent .binary64 m e accuracy =
      (ExtendedMantissa.ofMantissaAndAccuracy m accuracy >>> n, e + n) := by
  have hshift : (Format.binary64.targetExponent (totalExponent m e) - e).toNat = n := by omega
  unfold shiftToTargetExponent shiftToExponent
  dsimp only
  rw [hshift]

theorem mantissa_ofMantissaAndAccuracy (m : Nat) (accuracy : Accuracy) :
    (ExtendedMantissa.ofMantissaAndAccuracy m accuracy).mantissa = m := by
  cases accuracy with
  | exact => rfl
  | inexact order => cases order <;> rfl

/-- A mantissa that a double can have stays as it is. -/
theorem shiftToTargetExponent_of_lt {m : Nat} {t : Int} (hm : m < 2 ^ 53) (ht : -1074 ≤ t) :
    shiftToTargetExponent .binary64 m t .exact = (⟨m, false, false⟩, t) := by
  have hlog : m.log2 < 53 := by
    by_cases hzero : m = 0
    · rw [hzero, Nat.log2_zero]
      decide
    · exact (Nat.log2_lt hzero).2 hm
  rw [shiftToTargetExponent_eq m t .exact (.inr ⟨?_, rfl⟩)]
  · simp only [Nat.cast_zero, add_zero]
    rfl
  · rw [targetExponent_eq, totalExponent]
    omega

/-- A mantissa that is too large by one bit is halved. -/
theorem shiftToTargetExponent_two_pow {t : Int} (ht : -1074 ≤ t) :
    shiftToTargetExponent .binary64 (2 ^ 53) t .exact = (⟨2 ^ 52, false, false⟩, t + 1) := by
  rw [shiftToTargetExponent_eq (2 ^ 53) t .exact (n := 1) (.inl ?_)]
  · rfl
  · rw [targetExponent_eq, totalExponent, Nat.log2_two_pow]
    omega

theorem roundWithAccuracy_of_shifts (sign : Sign) {m : Nat} {e t u : Int} {accuracy : Accuracy}
    {first second : ExtendedMantissa}
    (hfirst : shiftToTargetExponent .binary64 m e accuracy = (first, t))
    (hsecond : shiftToTargetExponent .binary64 first.roundedMantissa t .exact = (second, u))
    (hm : 0 < second.mantissa) :
    roundWithAccuracy .binary64 sign m e accuracy = .finite sign second.mantissa u hm := by
  unfold roundWithAccuracy
  rw [hfirst]
  dsimp only
  rw [hsecond]
  exact dif_neg hm.ne'

/-- A number that rounds to a double is rounded to it. -/
theorem roundWithAccuracy_eq (sign : Sign) {m : Nat} {e : Int} {accuracy : Accuracy} {b : Binary} {x : ℚ}
    (hd : Describes (.ofMantissaAndAccuracy m accuracy) (x / 2 ^ e))
    (he : e ≤ Format.binary64.targetExponent (totalExponent m e)) (hb : b.IsDouble)
    (hm : 0 < b.mantissa) (hr : b.Rounds x) :
    roundWithAccuracy .binary64 sign m e accuracy = .finite sign b.mantissa b.exponent hm := by
  generalize ht : Format.binary64.targetExponent (totalExponent m e) = t at he
  have hlowest : -1074 ≤ t := by
    rw [← ht, targetExponent_eq]
    exact le_max_right _ _
  obtain ⟨n, hn⟩ := Int.eq_ofNat_of_zero_le (sub_nonneg.2 he)
  have hfirst := shiftToTargetExponent_eq m e accuracy (n := n) (.inl (ht ▸ hn))
  rw [show e + n = t by omega] at hfirst
  have hshifted := hd.shiftRight n
  have hvalue : x / 2 ^ e / 2 ^ n = x / 2 ^ t := by
    rw [div_div, ← zpow_natCast, ← zpow_add₀ two_ne_zero, show e + (n : Int) = t by omega]
  rw [hvalue] at hshifted
  rw [← mantissa_ofMantissaAndAccuracy m accuracy] at ht
  obtain ⟨hlt, hle⟩ := hd.target_bounds ht.symm he
  rcases hr.cases hb hm hlt hle hlowest with ⟨rfl, hnearest⟩ | ⟨hnext, hpower, hnearest⟩
  · have hrounded := hshifted.roundedMantissa_eq hnearest
    have hsecond := shiftToTargetExponent_of_lt hb.mantissa_lt hlowest
    rw [← hrounded] at hsecond
    have hpos := hm
    rw [← hrounded] at hpos
    exact (roundWithAccuracy_of_shifts sign hfirst hsecond hpos).trans (finite_congr hrounded rfl)
  · have hrounded := hshifted.roundedMantissa_eq hnearest
    have hsecond := shiftToTargetExponent_two_pow hlowest
    rw [← hrounded] at hsecond
    exact (roundWithAccuracy_of_shifts sign hfirst hsecond (by decide)).trans
      (finite_congr hpower.symm hnext)

end Greenlight.Decimal
