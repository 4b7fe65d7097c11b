import Greenlight.Decimal.Binary

/-! # The order of doubles

An undefined number lies neither above nor below zero. A limit that is only kept from lying on the wrong
side of zero lies on the right side exactly if it is defined. -/

namespace Greenlight.Decimal

open Float.Model

/-! ## Comparing with zero -/

theorem lt_iff_compare {x y : Float} :
    x < y ↔ x.toModel.unpack.compare y.toModel.unpack = some .lt := by
  change decide (x.toModel < y.toModel) = true ↔ _
  rw [decide_eq_true_iff]
  exact beq_iff_eq

theorem le_iff_compare {x y : Float} :
    x ≤ y ↔ (x.toModel.unpack.compare y.toModel.unpack).any (·.isLE) = true := by
  change decide (x.toModel ≤ y.toModel) = true ↔ _
  rw [decide_eq_true_iff]
  rfl

theorem isNaN_eq_unpack (x : Float) : x.isNaN = x.toModel.unpack.isNaN := rfl

theorem unpack_zero : (0 : Float).toModel.unpack = .zero .positive := rfl

theorem zero_lt_iff {x : Float} : 0 < x ↔ ¬x ≤ 0 ∧ x.isNaN = false := by
  rw [lt_iff_compare, le_iff_compare, isNaN_eq_unpack, unpack_zero]
  cases x.toModel.unpack with
  | infinity sign => cases sign <;> decide
  | notANumber => decide
  | zero sign => cases sign <;> decide
  | finite sign =>
    cases sign with
    | positive => exact iff_of_true rfl ⟨Bool.false_ne_true, rfl⟩
    | negative => exact iff_of_false (nofun : ¬some Ordering.gt = some .lt) fun h => h.1 rfl

theorem zero_le_iff {x : Float} : 0 ≤ x ↔ ¬x < 0 ∧ x.isNaN = false := by
  rw [lt_iff_compare, le_iff_compare, isNaN_eq_unpack, unpack_zero]
  cases x.toModel.unpack with
  | infinity sign => cases sign <;> decide
  | notANumber => decide
  | zero sign => cases sign <;> decide
  | finite sign =>
    cases sign with
    | positive => exact iff_of_true rfl ⟨(nofun : ¬some Ordering.gt = some .lt), rfl⟩
    | negative => exact iff_of_false Bool.false_ne_true fun h => h.1 rfl

/-! ## The undefined number -/

theorem unpack_of_isNaN {x : Float} (h : x.isNaN = true) : x.toModel.unpack = .notANumber := by
  rw [isNaN_eq_unpack] at h
  cases hx : x.toModel.unpack with
  | notANumber => rfl
  | infinity | zero | finite =>
    rw [hx] at h
    exact absurd h Bool.false_ne_true

/-- Only an exponent of ones with a mantissa that is not zero is read as undefined. -/
theorem components_of_unpack {bits : BitVec 64}
    (h : UnpackedFloat.unpack .binary64 bits = .notANumber) :
    @UnpackedFloat.unpackExponent .binary64 bits = -1#_ ∧
      @UnpackedFloat.unpackMantissa .binary64 bits ≠ 0#_ := by
  unfold UnpackedFloat.unpack at h
  dsimp only at h
  by_cases hexponent : @UnpackedFloat.unpackExponent .binary64 bits = -1#_
  · refine ⟨hexponent, fun hmantissa => ?_⟩
    rw [if_pos hexponent, if_pos hmantissa] at h
    cases h
  · rw [if_neg hexponent] at h
    by_cases hzero : @UnpackedFloat.unpackExponent .binary64 bits = 0#_
    · rw [if_pos hzero] at h
      by_cases hmantissa : @UnpackedFloat.unpackMantissa .binary64 bits = 0#_
      · rw [dif_pos hmantissa] at h
        cases h
      · rw [dif_neg hmantissa] at h
        cases h
    · rw [if_neg hzero] at h
      cases h

/-- All undefined numbers have the same bits. -/
theorem toBits_of_isNaN {x : Float} (h : x.isNaN = true) : x.toBits = 0x7FF8000000000000 := by
  obtain ⟨hexponent, hmantissa⟩ := components_of_unpack (unpack_of_isNaN h)
  have hbits := x.toModel.valid.eq_packedNaN hexponent hmantissa
  exact UInt64.toBitVec_inj.1 (hbits.trans rfl)

theorem Reading.ofFloat_of_isNaN {x : Float} (h : x.isNaN = true) :
    Reading.ofFloat x = .undefined := by
  rw [Reading.ofFloat, toBits_of_isNaN h]
  rfl

end Greenlight.Decimal
