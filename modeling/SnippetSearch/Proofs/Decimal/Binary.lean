import Mathlib
import SnippetSearch.Decimal

/-!
# Floating-point numbers and their parts

A finite number has a sign, a mantissa and an exponent, of which the mantissa
is as large as it may be unless the exponent is as small as it may be.  These
parts can be read off its bits, and they determine it.  A decimal number with
the same value is read as the number that has these parts.
-/

namespace SnippetSearch

namespace Decimal

open Float.Model Float.Model.UnpackedFloat

/-- Whether a mantissa and an exponent are those of a floating-point number. -/
structure IsCanonical (mantissa : Nat) (exponent : Int) : Prop where
  mantissa_lt : mantissa < 2 ^ 53
  le_exponent : -1074 ≤ exponent
  exponent_le : exponent ≤ 971
  isFull : 2 ^ 52 ≤ mantissa ∨ exponent = -1074

def exponentField (mantissa : Nat) (exponent : Int) : Nat :=
  if 2 ^ 52 ≤ mantissa then (exponent + 1075).toNat else 0

def signOf (negative : Bool) : Sign :=
  if negative then .negative else .positive

variable {mantissa : Nat} {exponent : Int}

theorem IsCanonical.exponentField_lt (canonical : IsCanonical mantissa exponent) :
    exponentField mantissa exponent < 2047 := by
  have high := canonical.exponent_le
  rw [exponentField]
  split <;> omega

theorem IsCanonical.log2_lt (canonical : IsCanonical mantissa exponent) (positive : 0 < mantissa) :
    mantissa.log2 < 53 :=
  (Nat.log2_lt positive.ne').mpr canonical.mantissa_lt

/-! ## Bits -/

section

variable (bits : BitVec Format.binary64.numBits)

theorem toNat_unpackMantissa : (unpackMantissa bits).toNat = bits.toNat % 2 ^ 52 := by
  rw [unpackMantissa, BitVec.toNat_cast, BitVec.extractLsb_toNat]
  rfl

theorem toNat_unpackExponent : (unpackExponent bits).toNat = bits.toNat / 2 ^ 52 % 2 ^ 11 := by
  rw [unpackExponent, BitVec.toNat_cast, BitVec.extractLsb_toNat, Nat.shiftRight_eq_div_pow]
  rfl

theorem ofBitVec_unpackSign :
    Sign.ofBitVec (unpackSign bits) = signOf (decide (2 ^ 63 ≤ bits.toNat)) := by
  have isBit : (unpackSign bits).toNat = bits.toNat / 2 ^ 63 % 2 := by
    rw [unpackSign, BitVec.toNat_cast, BitVec.extractLsb_toNat, Nat.shiftRight_eq_div_pow]
    rfl
  have short : bits.toNat < 2 ^ 64 := bits.isLt
  have isZero_iff : unpackSign bits = 0#1 ↔ bits.toNat < 2 ^ 63 := by
    rw [← BitVec.toNat_inj, isBit, BitVec.toNat_zero]
    omega
  rw [Sign.ofBitVec, signOf]
  by_cases large : 2 ^ 63 ≤ bits.toNat
  · rw [decide_eq_true large, if_pos rfl, if_neg]
    exact fun isZero => Nat.not_lt.mpr large (isZero_iff.mp isZero)
  · rw [decide_eq_false large, if_neg Bool.false_ne_true, if_pos]
    exact isZero_iff.mpr (Nat.lt_of_not_le large)

variable {bits}

theorem unpack_eq_finite (canonical : IsCanonical mantissa exponent) (positive : 0 < mantissa)
    (isField : (unpackExponent bits).toNat = exponentField mantissa exponent)
    (isFraction : (unpackMantissa bits).toNat = mantissa % 2 ^ 52) :
    UnpackedFloat.unpack .binary64 bits =
      .finite (Sign.ofBitVec (unpackSign bits)) mantissa exponent positive := by
  have low := canonical.le_exponent
  have below := canonical.mantissa_lt
  have isFinite : unpackExponent bits ≠ -1#11 := by
    rw [Ne, ← BitVec.toNat_inj, isField]
    exact canonical.exponentField_lt.ne
  rw [UnpackedFloat.unpack]
  simp only [if_neg isFinite]
  rw [exponentField] at isField
  by_cases full : 2 ^ 52 ≤ mantissa
  · rw [if_pos full] at isField
    have isNormal : unpackExponent bits ≠ 0#11 := by
      rw [Ne, ← BitVec.toNat_inj, isField]
      change ¬ _ = 0
      omega
    -- The highest digit of a full mantissa is not among the bits.
    have isMantissa : (1#1 ++ unpackMantissa bits).toNat = mantissa := by
      rw [BitVec.toNat_append, ← Nat.shiftLeft_add_eq_or_of_lt (unpackMantissa bits).isLt,
        isFraction, Nat.shiftLeft_eq]
      change 1 * 2 ^ 52 + _ = _
      omega
    have isExponent : ((unpackExponent bits).toNat : Int) - ((1023 : Nat) + (52 : Nat)) =
        exponent := by omega
    simp only [if_neg isNormal, isMantissa]
    congr 1
  · rw [if_neg full] at isField
    have isLeast := canonical.isFull.resolve_left full
    have isZero : unpackExponent bits = 0#11 := BitVec.toNat_inj.mp isField
    have isMantissa : (unpackMantissa bits).toNat = mantissa := by omega
    have nonzero : unpackMantissa bits ≠ 0#52 := by
      rw [Ne, ← BitVec.toNat_inj, isMantissa]
      exact positive.ne'
    simp only [isZero, if_true, dif_neg nonzero, isMantissa]
    congr 1
    rw [isLeast]
    rfl

end

theorem pack_finite (canonical : IsCanonical mantissa exponent) (positive : 0 < mantissa)
    (sign : Sign) :
    UnpackedFloat.pack .binary64 (.finite sign mantissa exponent positive) =
      packComponents .binary64 sign (BitVec.ofNat 11 (exponentField mantissa exponent))
        (BitVec.ofNat 52 mantissa) := by
  have low := canonical.le_exponent
  have high := canonical.exponent_le
  have short := canonical.log2_lt positive
  change (if 2 ^ 11 ≤ (exponent + (1023 : Nat) + (52 : Nat)).toNat + 1 then _ else
    if mantissa.log2 + 1 = 53 then
      packComponents .binary64 sign (BitVec.ofNat 11 (exponent + (1023 : Nat) + (52 : Nat)).toNat)
        (BitVec.ofNat 52 mantissa)
    else packComponents .binary64 sign 0#11 (BitVec.ofNat 52 mantissa)) = _
  rw [if_neg (by omega), exponentField]
  by_cases full : 2 ^ 52 ≤ mantissa
  · have long : 52 ≤ mantissa.log2 := (Nat.le_log2 positive.ne').mpr full
    rw [if_pos (by omega), if_pos full]
    congr 3
    omega
  · have small : mantissa.log2 < 52 := (Nat.log2_lt positive.ne').mpr (Nat.lt_of_not_le full)
    rw [if_neg (by omega), if_neg full]

theorem unpack_pack_finite (canonical : IsCanonical mantissa exponent) (positive : 0 < mantissa)
    (sign : Sign) :
    UnpackedFloat.unpack .binary64
      (UnpackedFloat.pack .binary64 (.finite sign mantissa exponent positive)) =
        .finite sign mantissa exponent positive := by
  have small : exponentField mantissa exponent < 2 ^ 11 :=
    canonical.exponentField_lt.trans (by decide)
  rw [pack_finite canonical positive, unpack_eq_finite canonical positive,
    unpackSign_packComponents, Sign.ofBitVec_toBitVec]
  · rw [unpackExponent_packComponents, BitVec.toNat_ofNat, Nat.mod_eq_of_lt small]
  · rw [unpackMantissa_packComponents, BitVec.toNat_ofNat]

/-! ## The number of given parts -/

/-- The floating-point number with the given sign, mantissa and exponent. -/
def packed (negative : Bool) (mantissa : Nat) (exponent : Int) (positive : 0 < mantissa) : Float :=
  .ofModel (.pack (.finite (signOf negative) mantissa exponent positive))

theorem neg_packed (canonical : IsCanonical mantissa exponent) (positive : 0 < mantissa) :
    -packed false mantissa exponent positive = packed true mantissa exponent positive := by
  have isUnpacked : (Float.Model.pack (.finite .positive mantissa exponent positive)).unpack =
      .finite .positive mantissa exponent positive :=
    unpack_pack_finite canonical positive .positive
  change Float.ofModel (.pack
    (Float.Model.pack (.finite .positive mantissa exponent positive)).unpack.neg) = _
  rw [isUnpacked]
  rfl

section

variable {number : Float} {negative : Bool}
  (isExact : Exact.ofFloat number = .finite negative mantissa exponent)

include isExact

theorem parts_of_ofFloat :
    IsCanonical mantissa exponent ∧ negative = decide (2 ^ 63 ≤ number.toBits.toNat) ∧
      exponentField mantissa exponent = number.toBits.toNat / 2 ^ 52 % 2 ^ 11 ∧
      mantissa % 2 ^ 52 = number.toBits.toNat % 2 ^ 52 := by
  have fraction_lt : number.toBits.toNat % 2 ^ 52 < 2 ^ 52 := Nat.mod_lt _ (by decide)
  have field_lt : number.toBits.toNat / 2 ^ 52 % 2 ^ 11 < 2 ^ 11 := Nat.mod_lt _ (by decide)
  simp only [Exact.ofFloat, Nat.pow_eq] at isExact
  generalize number.toBits.toNat / 2 ^ 52 % 2 ^ 11 = field at isExact field_lt ⊢
  generalize number.toBits.toNat % 2 ^ 52 = fraction at isExact fraction_lt ⊢
  split at isExact
  · split at isExact <;> cases isExact
  split at isExact
  · next isZero =>
      obtain ⟨rfl, rfl, rfl⟩ := Exact.finite.inj isExact
      refine ⟨⟨by omega, by decide, by decide, .inr rfl⟩, rfl, ?_, Nat.mod_eq_of_lt fraction_lt⟩
      rw [exponentField, if_neg (Nat.not_le.mpr fraction_lt), isZero]
  · obtain ⟨rfl, rfl, rfl⟩ := Exact.finite.inj isExact
    refine ⟨⟨by omega, by omega, by omega, .inl (Nat.le_add_left _ _)⟩, rfl, ?_, ?_⟩
    · rw [exponentField, if_pos (Nat.le_add_left _ _)]
      omega
    · rw [Nat.add_mod_right, Nat.mod_eq_of_lt fraction_lt]

theorem unpack_of_ofFloat (positive : 0 < mantissa) :
    number.toModel.unpack = .finite (signOf negative) mantissa exponent positive := by
  obtain ⟨canonical, isSign, isField, isFraction⟩ := parts_of_ofFloat isExact
  have signed := (ofBitVec_unpackSign number.toModel.toBits.toBitVec).trans
    (congrArg signOf isSign.symm)
  rw [← signed]
  refine unpack_eq_finite canonical positive ?_ ?_
  · rw [toNat_unpackExponent, isField]
    rfl
  · rw [toNat_unpackMantissa, isFraction]
    rfl

theorem eq_packed_of_ofFloat (positive : 0 < mantissa) :
    number = packed negative mantissa exponent positive := by
  rw [← Float.toBits_inj, packed, ← unpack_of_ofFloat isExact positive]
  exact UInt64.toBitVec_inj.mp (pack_unpack_of_valid number.toModel.valid).symm

omit isExact in
theorem eq_zero_of_ofFloat (isExact : Exact.ofFloat number = .finite negative 0 exponent) :
    number = if negative then -0 else 0 := by
  obtain ⟨-, isSign, isField, isFraction⟩ := parts_of_ofFloat isExact
  have field : number.toBits.toNat / 2 ^ 52 % 2 ^ 11 = 0 := isField.symm
  have fraction : number.toBits.toNat % 2 ^ 52 = 0 := isFraction.symm
  have short : number.toBits.toNat < 2 ^ 64 := number.toBits.toNat_lt
  rw [← Float.toBits_inj, ← UInt64.toNat_inj]
  cases negative with
  | false =>
      have small := of_decide_eq_false isSign.symm
      have isZero : (0 : Float).toBits.toNat = 0 := by decide +kernel
      rw [if_neg Bool.false_ne_true, isZero]
      omega
  | true =>
      have large := of_decide_eq_true isSign.symm
      have isZero : (-0 : Float).toBits.toNat = 2 ^ 63 := by decide +kernel
      rw [if_pos rfl, isZero]
      omega

end

/-! ## Rounding where nothing is lost -/

theorem targetExponent_eq (canonical : IsCanonical mantissa exponent) (positive : 0 < mantissa) :
    Format.binary64.targetExponent (mantissa.log2 + 1 + exponent) = exponent := by
  have short := canonical.log2_lt positive
  have low := canonical.le_exponent
  change max ((mantissa.log2 : Int) + 1 + exponent - (53 : Nat)) (-1074) = exponent
  rcases canonical.isFull with full | least
  · have long : 52 ≤ mantissa.log2 := (Nat.le_log2 positive.ne').mpr full
    omega
  · omega

theorem log2_mul_two_pow (positive : 0 < mantissa) (count : Nat) :
    (mantissa * 2 ^ count).log2 = mantissa.log2 + count := by
  have isPositive : 0 < mantissa * 2 ^ count := Nat.mul_pos positive (Nat.two_pow_pos count)
  refine (Nat.log2_eq_iff isPositive.ne').mpr ⟨?_, ?_⟩
  · rw [Nat.pow_add]
    exact Nat.mul_le_mul_right _ (Nat.log2_self_le positive.ne')
  · rw [Nat.add_right_comm, Nat.pow_add]
    exact Nat.mul_lt_mul_of_pos_right Nat.lt_log2_self (Nat.two_pow_pos count)

theorem shiftRight_mul_two_pow (mantissa count : Nat) :
    (⟨mantissa * 2 ^ count, false, false⟩ : ExtendedMantissa) >>> count =
      ⟨mantissa, false, false⟩ := by
  induction count generalizing mantissa with
  | zero => simp [HShiftRight.hShiftRight, Nat.repeat]
  | succ count ih =>
      have once : ExtendedMantissa.shiftRightOne ⟨mantissa * 2, false, false⟩ =
          ⟨mantissa, false, false⟩ := by
        simp [ExtendedMantissa.shiftRightOne]
      rw [Nat.pow_succ', ← Nat.mul_assoc]
      exact (congrArg ExtendedMantissa.shiftRightOne (ih (mantissa * 2))).trans once

theorem shiftToTargetExponent_exact (canonical : IsCanonical mantissa exponent)
    (positive : 0 < mantissa) (count : Nat) :
    shiftToTargetExponent .binary64 (mantissa * 2 ^ count) (exponent - count) .exact =
      (⟨mantissa, false, false⟩, exponent) := by
  have isTotal : totalExponent (mantissa * 2 ^ count) (exponent - count) =
      mantissa.log2 + 1 + exponent := by
    rw [totalExponent, log2_mul_two_pow positive]
    omega
  have isShift : (exponent - (exponent - count)).toNat = count := by omega
  rw [shiftToTargetExponent, isTotal, targetExponent_eq canonical positive, shiftToExponent,
    isShift, ExtendedMantissa.ofMantissaAndAccuracy, shiftRight_mul_two_pow]
  congr 1
  omega

theorem roundWithAccuracy_exact (canonical : IsCanonical mantissa exponent)
    (positive : 0 < mantissa) (sign : Sign) (count : Nat) :
    roundWithAccuracy .binary64 sign (mantissa * 2 ^ count) (exponent - count) .exact =
      .finite sign mantissa exponent positive := by
  have again := shiftToTargetExponent_exact canonical positive 0
  rw [Nat.pow_zero, Nat.mul_one, Int.natCast_zero, Int.sub_zero] at again
  rw [roundWithAccuracy, shiftToTargetExponent_exact canonical positive]
  dsimp only [ExtendedMantissa.roundedMantissa, ExtendedMantissa.accuracy,
    Accuracy.roundToNearestEven]
  rw [again]
  exact dif_neg positive.ne'

/-! ## Quotients that are floating-point numbers -/

section

variable {numerator denominator up down : Nat}
  (isQuotient : numerator * 2 ^ down = mantissa * 2 ^ up * denominator)
  (numerator_pos : 0 < numerator) (denominator_pos : 0 < denominator)

include isQuotient numerator_pos denominator_pos

theorem log2_quotient (positive : 0 < mantissa) :
    numerator.log2 + down ≤ mantissa.log2 + up + denominator.log2 + 1 := by
  have scaled_pos : 0 < mantissa * 2 ^ up := Nat.mul_pos positive (Nat.two_pow_pos up)
  have product_ne : mantissa * 2 ^ up * denominator ≠ 0 :=
    (Nat.mul_pos scaled_pos denominator_pos).ne'
  rw [← log2_mul_two_pow numerator_pos, ← log2_mul_two_pow positive, isQuotient,
    ← Nat.lt_succ_iff, Nat.log2_lt product_ne]
  calc mantissa * 2 ^ up * denominator
      < 2 ^ ((mantissa * 2 ^ up).log2 + 1) * 2 ^ (denominator.log2 + 1) :=
        Nat.mul_lt_mul_of_lt_of_lt Nat.lt_log2_self Nat.lt_log2_self
    _ = 2 ^ ((mantissa * 2 ^ up).log2 + denominator.log2 + 1).succ := by
        rw [← Nat.pow_add]
        congr 1
        omega

theorem divCore_exact (canonical : IsCanonical mantissa exponent) (positive : 0 < mantissa)
    (isExponent : exponent = up - down) :
    ∃ count : Nat, divCore .binary64 numerator 0 denominator 0 =
      (mantissa * 2 ^ count, exponent - count, .exact) := by
  have high := log2_quotient isQuotient numerator_pos denominator_pos positive
  have short := canonical.log2_lt positive
  have low := canonical.le_exponent
  let target := min (0 - 0) (Format.binary64.targetExponent
    (totalExponent numerator 0 - totalExponent denominator 0))
  have isTarget : target = min 0 (max ((numerator.log2 : Int) + 1 + 0 -
      (denominator.log2 + 1 + 0) - (53 : Nat)) (-1074)) := rfl
  have isLow : target ≤ exponent := by omega
  let count := (exponent - target).toNat
  have isCount : up + (-target).toNat = count + down := by omega
  have isShifted : numerator <<< (0 - 0 - target).toNat = mantissa * 2 ^ count * denominator := by
    refine Nat.eq_of_mul_eq_mul_right (Nat.two_pow_pos down) ?_
    rw [Int.sub_zero, Int.zero_sub, Nat.shiftLeft_eq]
    calc numerator * 2 ^ (-target).toNat * 2 ^ down
        = numerator * 2 ^ down * 2 ^ (-target).toNat := by ring
      _ = mantissa * 2 ^ (up + (-target).toNat) * denominator := by
          rw [isQuotient, Nat.pow_add]
          ring
      _ = mantissa * 2 ^ count * denominator * 2 ^ down := by
          rw [isCount, Nat.pow_add]
          ring
  refine ⟨count, ?_⟩
  rw [divCore]
  change (numerator <<< (0 - 0 - target).toNat / denominator, target,
    accuracyOfFraction (numerator <<< (0 - 0 - target).toNat % denominator) denominator) = _
  rw [isShifted, Nat.mul_div_cancel _ denominator_pos, Nat.mul_mod_left]
  simp only [accuracyOfFraction, if_true, Prod.mk.injEq, and_true, true_and]
  omega

end

/-- Decimal places that write a floating-point number exactly are read as it. -/
theorem ofScientific_exact (canonical : IsCanonical mantissa exponent) (positive : 0 < mantissa)
    {units places up : Nat} (isExponent : exponent = up - places)
    (isUnits : units = mantissa * 2 ^ up * 5 ^ places) (somePlaces : 0 < places)
    (fewPlaces : places ≤ 2048) :
    UnpackedFloat.ofScientific .binary64 units (-places) =
      .finite .positive mantissa exponent positive := by
  have units_pos : 0 < units := by
    rw [isUnits]
    positivity
  have isQuotient : units * 2 ^ places = mantissa * 2 ^ up * 10 ^ places := by
    have isTen : 10 ^ places = 5 ^ places * 2 ^ places := by rw [← Nat.mul_pow]
    rw [isUnits, isTen, Nat.mul_assoc, Nat.mul_assoc]
  obtain ⟨count, isCore⟩ := divCore_exact isQuotient units_pos (Nat.pow_pos (by decide)) canonical
    positive isExponent
  rw [UnpackedFloat.ofScientific, dif_neg units_pos.ne', if_neg, if_neg, if_neg]
  · rw [UnpackedFloat.div, Int.neg_neg, Int.toNat_natCast, isCore]
    exact roundWithAccuracy_exact canonical positive _ count
  · omega
  · change ¬ (-(places : Int) < -((2 ^ 11 : Int) + units.log2))
    omega
  · change ¬ (-(places : Int) > 2 ^ 11)
    omega

end Decimal

end SnippetSearch
