import Greenlight.Proofs.Decimal.Size

/-! # The bits of doubles

Main statements: what is read off the bits of a double is what arithmetic takes it for, and the bits are
those that this is packed into. -/

namespace Greenlight.Decimal

open Float.Model Float.Model.UnpackedFloat

/-- The sign of a number that is negative or not. -/
def signOf (negative : Bool) : Sign := if negative then .negative else .positive

/-- What arithmetic takes a double for is what is read off its bits. -/
inductive Unpacks : UnpackedFloat → Reading → Prop where
  | undefined : Unpacks .notANumber .undefined
  | infinite (negative : Bool) : Unpacks (.infinity (signOf negative)) (.infinite negative)
  | zero (negative : Bool) : Unpacks (.zero (signOf negative)) (.finite negative ⟨0, -1074, false⟩)
  | finite (negative : Bool) {b : Binary} (hb : b.IsDouble) (hm : 0 < b.mantissa) :
      Unpacks (.finite (signOf negative) b.mantissa b.exponent hm) (.finite negative b)

/-- Equal components make equal doubles, whatever shows that they are not zero. -/
theorem finite_congr {sign : Sign} {m n : Nat} {e f : Int} {hm : 0 < m} {hn : 0 < n} (hmn : m = n)
    (hef : e = f) : UnpackedFloat.finite sign m e hm = .finite sign n f hn := by
  subst hmn hef
  rfl

theorem toNat_append_one (mantissa : BitVec 52) : (1#1 ++ mantissa).toNat = 2 ^ 52 + mantissa.toNat := by
  rw [BitVec.toNat_append, ← Nat.shiftLeft_add_eq_or_of_lt mantissa.isLt]
  rfl

section Components

variable (bits : BitVec 64)

theorem toNat_unpackExponent :
    (@unpackExponent .binary64 bits).toNat = bits.toNat / 2 ^ 52 % 2 ^ 11 := by
  simp [unpackExponent, BitVec.extractLsb, Nat.shiftRight_eq_div_pow]

theorem toNat_unpackMantissa : (@unpackMantissa .binary64 bits).toNat = bits.toNat % 2 ^ 52 := by
  simp [unpackMantissa, BitVec.extractLsb]

theorem toNat_unpackSign : (@unpackSign .binary64 bits).toNat = bits.toNat / 2 ^ 63 := by
  have hlt : bits.toNat < 2 ^ 64 := bits.isLt
  have hsign : @unpackSign .binary64 bits = (bits.extractLsb 63 63).cast rfl := rfl
  simp [hsign, BitVec.extractLsb, Nat.shiftRight_eq_div_pow]
  omega

theorem unpack_eq : UnpackedFloat.unpack .binary64 bits =
    if @unpackExponent .binary64 bits = -1#11 then
      if @unpackMantissa .binary64 bits = 0#52 then
        .infinity (Sign.ofBitVec (@unpackSign .binary64 bits))
      else .notANumber
    else if @unpackExponent .binary64 bits = 0#11 then
      if h : @unpackMantissa .binary64 bits = 0#52 then
        .zero (Sign.ofBitVec (@unpackSign .binary64 bits))
      else
        .finite (Sign.ofBitVec (@unpackSign .binary64 bits)) (@unpackMantissa .binary64 bits).toNat
          ((@unpackExponent .binary64 bits).toNat - 1075 + 1)
          (Nat.pos_of_ne_zero fun hn => h (BitVec.eq_of_toNat_eq hn))
    else
      .finite (Sign.ofBitVec (@unpackSign .binary64 bits))
        (1#1 ++ @unpackMantissa .binary64 bits).toNat ((@unpackExponent .binary64 bits).toNat - 1075)
        (by rw [toNat_append_one]; omega) := rfl

variable {bits}

theorem unpack_of_infinite (hones : @unpackExponent .binary64 bits = -1#11)
    (hzero : @unpackMantissa .binary64 bits = 0#52) :
    UnpackedFloat.unpack .binary64 bits = .infinity (Sign.ofBitVec (@unpackSign .binary64 bits)) := by
  rw [unpack_eq, if_pos hones, if_pos hzero]

theorem unpack_of_undefined (hones : @unpackExponent .binary64 bits = -1#11)
    (hzero : @unpackMantissa .binary64 bits ≠ 0#52) :
    UnpackedFloat.unpack .binary64 bits = .notANumber := by
  rw [unpack_eq, if_pos hones, if_neg hzero]

theorem unpack_of_zero (hlow : @unpackExponent .binary64 bits = 0#11)
    (hzero : @unpackMantissa .binary64 bits = 0#52) :
    UnpackedFloat.unpack .binary64 bits = .zero (Sign.ofBitVec (@unpackSign .binary64 bits)) := by
  rw [unpack_eq, if_neg (by rw [hlow]; decide), if_pos hlow, dif_pos hzero]

theorem unpack_of_subnormal (hlow : @unpackExponent .binary64 bits = 0#11)
    (hm : 0 < (@unpackMantissa .binary64 bits).toNat) :
    UnpackedFloat.unpack .binary64 bits = .finite (Sign.ofBitVec (@unpackSign .binary64 bits))
      (@unpackMantissa .binary64 bits).toNat (-1074) hm := by
  have hzero : @unpackMantissa .binary64 bits ≠ 0#52 := by
    intro hzero
    rw [hzero] at hm
    exact absurd hm (lt_irrefl 0)
  rw [unpack_eq, if_neg (by rw [hlow]; decide), if_pos hlow, dif_neg hzero]
  exact finite_congr rfl (by rw [hlow]; rfl)

theorem unpack_of_normal (hones : @unpackExponent .binary64 bits ≠ -1#11)
    (hlow : @unpackExponent .binary64 bits ≠ 0#11) :
    UnpackedFloat.unpack .binary64 bits = .finite (Sign.ofBitVec (@unpackSign .binary64 bits))
      (2 ^ 52 + (@unpackMantissa .binary64 bits).toNat) ((@unpackExponent .binary64 bits).toNat - 1075)
      (by omega) := by
  rw [unpack_eq, if_neg hones, if_neg hlow]
  exact finite_congr (toNat_append_one _) rfl

end Components

section Reading

variable (bits : UInt64)

theorem toNat_scale :
    ((bits >>> 52) &&& 0x7FF).toNat = (@unpackExponent .binary64 bits.toBitVec).toNat := by
  rw [toNat_unpackExponent, UInt64.toNat_and, UInt64.toNat_shiftRight]
  exact (Nat.and_two_pow_sub_one_eq_mod _ 11).trans (by rw [Nat.shiftRight_eq_div_pow]; rfl)

theorem toNat_fraction :
    (bits &&& 0xFFFFFFFFFFFFF).toNat = (@unpackMantissa .binary64 bits.toBitVec).toNat := by
  rw [toNat_unpackMantissa, UInt64.toNat_and]
  exact Nat.and_two_pow_sub_one_eq_mod _ 52

theorem ofBitVec_unpackSign :
    Sign.ofBitVec (@unpackSign .binary64 bits.toBitVec) = signOf (bits >>> 63 == 1) := by
  have hbit : (bits >>> 63).toNat = (@unpackSign .binary64 bits.toBitVec).toNat := by
    rw [toNat_unpackSign, UInt64.toNat_shiftRight]
    exact Nat.shiftRight_eq_div_pow ..
  have hone : (bits >>> 63 == 1) = ((@unpackSign .binary64 bits.toBitVec).toNat == 1) := by
    rw [Bool.eq_iff_iff, beq_iff_eq, beq_iff_eq, ← UInt64.toNat_inj, hbit]
    rfl
  rw [hone]
  generalize @unpackSign .binary64 bits.toBitVec = sign
  obtain rfl | rfl : sign = 0#1 ∨ sign = 1#1 := by
    revert sign
    decide
  · rfl
  · rfl

end Reading

theorem isDouble_subnormal {fraction : Nat} (h : fraction < 2 ^ 52) :
    Binary.IsDouble ⟨fraction, -1074, false⟩ where
  mantissa_lt := by
    dsimp only
    omega
  le_exponent := le_rfl
  exponent_le := by norm_num
  le_mantissa := fun hlt => absurd hlt (lt_irrefl _)
  narrowBelow_iff := iff_of_false nofun fun hlt => lt_irrefl _ hlt.2

theorem isDouble_normal {fraction scale : Nat} (h : fraction < 2 ^ 52) (hzero : scale ≠ 0)
    (hscale : scale < 0x7FF) : Binary.IsDouble
      ⟨0x10000000000000 + fraction, (scale : Int) - 1075, fraction == 0 && decide (scale > 1)⟩ := by
  constructor <;> simp only [Bool.and_eq_true, beq_iff_eq, decide_eq_true_eq] <;> omega

theorem unpacks (x : Float) : Unpacks x.toModel.unpack (Reading.ofFloat x) := by
  unfold Reading.ofFloat Reading.ofBits Float.Model.unpack Float.toBits
  have hsign := ofBitVec_unpackSign x.toModel.toBits
  simp only [toNat_scale, toNat_fraction, beq_iff_eq]
  generalize (x.toModel.toBits >>> 63 == 1) = negative at hsign ⊢
  generalize x.toModel.toBits.toBitVec = bits at hsign ⊢
  have hmantissa : (@unpackMantissa .binary64 bits).toNat < 2 ^ 52 := BitVec.isLt _
  have hexponent : (@unpackExponent .binary64 bits).toNat < 2 ^ 11 := BitVec.isLt _
  have hzero_iff : @unpackMantissa .binary64 bits = 0#_ ↔ (@unpackMantissa .binary64 bits).toNat = 0 :=
    BitVec.toNat_inj.symm
  have hones_iff : @unpackExponent .binary64 bits = -1#_ ↔
      (@unpackExponent .binary64 bits).toNat = 0x7FF := BitVec.toNat_inj.symm
  have hlow_iff : @unpackExponent .binary64 bits = 0#_ ↔ (@unpackExponent .binary64 bits).toNat = 0 :=
    BitVec.toNat_inj.symm
  by_cases hones : @unpackExponent .binary64 bits = -1#_
  · rw [if_pos (hones_iff.1 hones)]
    by_cases hzero : @unpackMantissa .binary64 bits = 0#_
    · rw [if_pos (hzero_iff.1 hzero), unpack_of_infinite hones hzero, hsign]
      exact .infinite _
    · rw [if_neg (mt hzero_iff.2 hzero), unpack_of_undefined hones hzero]
      exact .undefined
  · have hscale := mt hones_iff.2 hones
    rw [if_neg hscale]
    by_cases hlow : @unpackExponent .binary64 bits = 0#_
    · rw [if_pos (hlow_iff.1 hlow)]
      by_cases hzero : @unpackMantissa .binary64 bits = 0#_
      · rw [unpack_of_zero hlow hzero, hsign, hzero_iff.1 hzero]
        exact .zero _
      · rw [unpack_of_subnormal hlow (Nat.pos_of_ne_zero (mt hzero_iff.2 hzero)), hsign]
        exact .finite _ (isDouble_subnormal hmantissa) _
    · have hpos := mt hlow_iff.2 hlow
      rw [if_neg hpos, unpack_of_normal hones hlow, hsign]
      exact .finite _ (isDouble_normal hmantissa hpos (by omega)) _

/-! ## Packing -/

theorem pack_subnormal (sign : Sign) {mantissa : Nat} (hm : 0 < mantissa) (hlt : mantissa < 2 ^ 52) :
    UnpackedFloat.pack .binary64 (.finite sign mantissa (-1074) hm) =
      packComponents .binary64 sign 0#11 (BitVec.ofNat 52 mantissa) := by
  have hlog : mantissa.log2 < 52 := (Nat.log2_lt hm.ne').2 hlt
  have hbits : ¬ mantissa.log2 + 1 = Format.binary64.mantissaBits := by
    rw [show Format.binary64.mantissaBits = 53 from rfl]
    omega
  unfold UnpackedFloat.pack
  dsimp only
  rw [if_neg (by decide), if_neg hbits]

theorem pack_normal (sign : Sign) {mantissa : Nat} {exponent : Int} (hm : 0 < mantissa)
    (hlow : 2 ^ 52 ≤ mantissa) (hhigh : mantissa < 2 ^ 53) (hexponent : exponent ≤ 971) :
    UnpackedFloat.pack .binary64 (.finite sign mantissa exponent hm) =
      packComponents .binary64 sign (BitVec.ofNat 11 (exponent + 1075).toNat)
        (BitVec.ofNat 52 mantissa) := by
  have hlog : mantissa.log2 = 52 := (Nat.log2_eq_iff hm.ne').2 ⟨hlow, hhigh⟩
  have hbiased : (exponent + Format.binary64.exponentBias + (52 : Nat)).toNat =
      (exponent + 1075).toNat := by
    rw [show Format.binary64.exponentBias = 1023 from rfl]
    omega
  have hfits : ¬ 2 ^ 11 ≤ (exponent + 1075).toNat + 1 := by omega
  unfold UnpackedFloat.pack
  dsimp only
  rw [hbiased, if_neg hfits, if_pos (by rw [hlog]; rfl)]

theorem toNat_packComponents (sign : Sign) (exponent : BitVec 11) (mantissa : BitVec 52) :
    (packComponents .binary64 sign exponent mantissa).toNat =
      sign.toBitVec.toNat * 2 ^ 63 + exponent.toNat * 2 ^ 52 + mantissa.toNat := by
  have hexponent : exponent.toNat < 2 ^ 11 := exponent.isLt
  change (sign.toBitVec ++ exponent ++ mantissa).toNat = _
  rw [BitVec.toNat_append, BitVec.toNat_append, ← Nat.shiftLeft_add_eq_or_of_lt mantissa.isLt,
    ← Nat.shiftLeft_add_eq_or_of_lt exponent.isLt, Nat.shiftLeft_eq, Nat.shiftLeft_eq]
  omega

theorem ofBitVec_unpackSign_packComponents (sign : Sign) (exponent : BitVec 11)
    (mantissa : BitVec 52) :
    Sign.ofBitVec (unpackSign (packComponents .binary64 sign exponent mantissa)) = sign := by
  have hexponent : exponent.toNat < 2 ^ 11 := exponent.isLt
  have hmantissa : mantissa.toNat < 2 ^ 52 := mantissa.isLt
  have hsign : unpackSign (packComponents .binary64 sign exponent mantissa) = sign.toBitVec := by
    apply BitVec.eq_of_toNat_eq
    rw [toNat_unpackSign, toNat_packComponents]
    omega
  rw [hsign]
  cases sign <;> rfl

/-- Bits are put together again from their components. -/
theorem packComponents_unpack (bits : BitVec 64) :
    packComponents .binary64 (Sign.ofBitVec (@unpackSign .binary64 bits))
      (@unpackExponent .binary64 bits) (@unpackMantissa .binary64 bits) = bits := by
  have hsign : (Sign.ofBitVec (@unpackSign .binary64 bits)).toBitVec = @unpackSign .binary64 bits := by
    generalize @unpackSign .binary64 bits = sign
    revert sign
    decide
  have hlt : bits.toNat < 2 ^ 64 := bits.isLt
  apply BitVec.eq_of_toNat_eq
  rw [toNat_packComponents, hsign, toNat_unpackSign, toNat_unpackExponent, toNat_unpackMantissa]
  omega

/-- Valid bits are those that a double is packed into. -/
theorem pack_unpack {bits : BitVec 64} (h : Format.binary64.Valid bits) :
    UnpackedFloat.pack .binary64 (UnpackedFloat.unpack .binary64 bits) = bits := by
  have hbits := packComponents_unpack bits
  by_cases hones : @unpackExponent .binary64 bits = -1#11
  · by_cases hzero : @unpackMantissa .binary64 bits = 0#52
    · rw [unpack_of_infinite hones hzero]
      rwa [hones, hzero] at hbits
    · rw [unpack_of_undefined hones hzero]
      exact (h.eq_packedNaN hones hzero).symm
  by_cases hlow : @unpackExponent .binary64 bits = 0#11
  · by_cases hzero : @unpackMantissa .binary64 bits = 0#52
    · rw [unpack_of_zero hlow hzero]
      rwa [hlow, hzero] at hbits
    · have hpos : 0 < (@unpackMantissa .binary64 bits).toNat :=
        Nat.pos_of_ne_zero fun hn => hzero (BitVec.eq_of_toNat_eq hn)
      rw [unpack_of_subnormal hlow hpos, pack_subnormal _ hpos (BitVec.isLt _), BitVec.ofNat_toNat,
        BitVec.setWidth_eq]
      rwa [hlow] at hbits
  · have hexponent : (@unpackExponent .binary64 bits).toNat < 2 ^ 11 := BitVec.isLt _
    have hmantissa : (@unpackMantissa .binary64 bits).toNat < 2 ^ 52 := BitVec.isLt _
    have hscale : (@unpackExponent .binary64 bits).toNat ≠ 0x7FF :=
      fun hn => hones (BitVec.eq_of_toNat_eq hn)
    have hbiased : BitVec.ofNat 11 ((@unpackExponent .binary64 bits).toNat - 1075 + 1075 : Int).toNat =
        @unpackExponent .binary64 bits := by
      apply BitVec.eq_of_toNat_eq
      rw [BitVec.toNat_ofNat]
      omega
    have hfraction : BitVec.ofNat 52 (2 ^ 52 + (@unpackMantissa .binary64 bits).toNat) =
        @unpackMantissa .binary64 bits := by
      apply BitVec.eq_of_toNat_eq
      rw [BitVec.toNat_ofNat]
      omega
    rw [unpack_of_normal hones hlow, pack_normal _ _ (by omega) (by omega) (by omega), hbiased,
      hfraction]
    exact hbits

/-- The bits of a double are those that it is packed into. -/
theorem ofModel_pack_unpack (x : Float) : Float.ofModel (.pack x.toModel.unpack) = x := by
  obtain ⟨⟨⟨bits⟩, hvalid⟩⟩ := x
  have hmodel {packed : BitVec 64} (h : Format.binary64.Valid packed) (he : packed = bits) :
      (⟨⟨packed⟩, h⟩ : Float.Model) = ⟨⟨bits⟩, hvalid⟩ := by
    subst he
    rfl
  exact congrArg Float.ofModel (hmodel valid_pack (pack_unpack hvalid))

theorem unpack_pack_subnormal (sign : Sign) {mantissa : Nat} (hm : 0 < mantissa)
    (hlt : mantissa < 2 ^ 52) :
    UnpackedFloat.unpack .binary64 (UnpackedFloat.pack .binary64 (.finite sign mantissa (-1074) hm)) =
      .finite sign mantissa (-1074) hm := by
  have hfraction : (BitVec.ofNat 52 mantissa).toNat = mantissa := by
    rw [BitVec.toNat_ofNat, Nat.mod_eq_of_lt hlt]
  rw [pack_subnormal sign hm hlt]
  refine (unpack_of_subnormal unpackExponent_packComponents ?_).trans ?_
  · rw [unpackMantissa_packComponents, hfraction]
    exact hm
  · rw [ofBitVec_unpackSign_packComponents]
    refine finite_congr ?_ rfl
    rw [unpackMantissa_packComponents, hfraction]

theorem unpack_pack_normal (sign : Sign) {mantissa : Nat} {exponent : Int} (hm : 0 < mantissa)
    (hlow : 2 ^ 52 ≤ mantissa) (hhigh : mantissa < 2 ^ 53) (hle : -1074 ≤ exponent)
    (hexponent : exponent ≤ 971) :
    UnpackedFloat.unpack .binary64 (UnpackedFloat.pack .binary64 (.finite sign mantissa exponent hm)) =
      .finite sign mantissa exponent hm := by
  have hbiased : (BitVec.ofNat 11 (exponent + 1075).toNat).toNat = (exponent + 1075).toNat := by
    rw [BitVec.toNat_ofNat, Nat.mod_eq_of_lt (by omega)]
  have hfraction : 2 ^ 52 + (BitVec.ofNat 52 mantissa).toNat = mantissa := by
    rw [BitVec.toNat_ofNat]
    omega
  rw [pack_normal sign hm hlow hhigh hexponent]
  refine (unpack_of_normal ?_ ?_).trans ?_
  · intro hones
    rw [unpackExponent_packComponents] at hones
    have htop := congrArg BitVec.toNat hones
    rw [hbiased, show (-1#11).toNat = 2047 from rfl] at htop
    omega
  · intro hzero
    rw [unpackExponent_packComponents] at hzero
    have hnone := congrArg BitVec.toNat hzero
    rw [hbiased, show (0#11).toNat = 0 from rfl] at hnone
    omega
  · rw [ofBitVec_unpackSign_packComponents]
    refine finite_congr ?_ ?_
    · rw [unpackMantissa_packComponents, hfraction]
    · rw [unpackExponent_packComponents, hbiased]
      omega

/-- A size that a double has is packed and unpacked again. -/
theorem unpack_pack (sign : Sign) {b : Binary} (hb : b.IsDouble) (hm : 0 < b.mantissa) :
    (Float.Model.pack (.finite sign b.mantissa b.exponent hm)).unpack =
      .finite sign b.mantissa b.exponent hm := by
  have hleading := hb.le_mantissa
  have hle := hb.le_exponent
  change UnpackedFloat.unpack .binary64 (UnpackedFloat.pack .binary64 _) = _
  by_cases hlow : b.mantissa < 2 ^ 52
  · have hfinite : UnpackedFloat.finite sign b.mantissa b.exponent hm =
        .finite sign b.mantissa (-1074) hm := finite_congr rfl (by omega)
    rw [hfinite]
    exact unpack_pack_subnormal sign hm hlow
  · exact unpack_pack_normal sign hm (not_lt.1 hlow) hb.mantissa_lt hle hb.exponent_le

end Greenlight.Decimal
