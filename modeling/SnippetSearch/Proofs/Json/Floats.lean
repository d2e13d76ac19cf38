import SnippetSearch.Json.Shortest
import SnippetSearch.Proofs.Decimal.Binary

/-!
# Floating-point numbers that are read back

A finite number is written in one of finitely many ways that are tried, and
each of them is accepted only if it is read as the number.  The last one has
so many decimal places that it is exact, so that one of them is always accepted.
-/

namespace SnippetSearch

namespace Decimal

theorem roundedQuotient_mul (quotient : Nat) {denominator : Nat} (positive : 0 < denominator) :
    roundedQuotient (quotient * denominator) denominator = quotient := by
  rw [roundedQuotient, Nat.mul_div_cancel _ positive, Nat.mul_mod_left]
  exact if_neg (by omega)

theorem mem_neighbours_mul (quotient : Nat) {denominator : Nat} (positive : 0 < denominator) :
    quotient ∈ neighbours (quotient * denominator) denominator := by
  rw [neighbours, roundedQuotient_mul quotient positive]
  exact if_pos (Nat.le_refl _) ▸ List.mem_cons_self

end Decimal

namespace Json.Number

open Decimal

variable {number : Float} {negative : Bool} {mantissa : Nat} {exponent : Int}

/-! ## Exact numbers -/

theorem lt_length_toDigits {count units : Nat} (some : 0 < count) (large : 10 ^ count ≤ units) :
    count < (Nat.toDigits 10 units).length := by
  rw [← Nat.not_le, Nat.length_toDigits_le_iff (by decide) some]
  exact Nat.not_lt.mpr large

theorem length_toDigits_le {count units : Nat} (some : 0 < count) (small : units < 10 ^ count) :
    (Nat.toDigits 10 units).length ≤ count :=
  (Nat.length_toDigits_le_iff (by decide) some).mpr small

/-- The units of the last of some places that make up `mantissa * 2 ^ exponent`. -/
def exactUnits (mantissa : Nat) (exponent : Int) (places : Nat) : Nat :=
  mantissa * 2 ^ (exponent + places).toNat * 5 ^ places

theorem exactUnits_pos (positive : 0 < mantissa) (exponent : Int) (places : Nat) :
    0 < exactUnits mantissa exponent places :=
  Nat.mul_pos (Nat.mul_pos positive (Nat.two_pow_pos _)) (Nat.pow_pos (by decide))

theorem exactUnits_lt (canonical : IsCanonical mantissa exponent) (places : Nat) :
    exactUnits mantissa exponent places < 2 ^ (53 + (971 + places)) * 5 ^ places := by
  have high : (exponent + places).toNat ≤ 971 + places := by
    have := canonical.exponent_le
    omega
  rw [Nat.pow_add]
  refine Nat.mul_lt_mul_of_pos_right ?_ (Nat.pow_pos (by decide))
  exact Nat.mul_lt_mul_of_lt_of_le canonical.mantissa_lt (Nat.pow_le_pow_right Nat.two_pos high)
    (Nat.two_pow_pos _)

/-- Neither are there too few digits to be told from zero, nor too many to be finite. -/
theorem length_exactUnits (canonical : IsCanonical mantissa exponent) (positive : 0 < mantissa) :
    673 < (Nat.toDigits 10 (exactUnits mantissa exponent mostPlaces)).length ∧
      (Nat.toDigits 10 (exactUnits mantissa exponent mostPlaces)).length ≤ 1474 := by
  constructor
  · have large : 10 ^ 673 ≤ 5 ^ mostPlaces := by decide +kernel
    refine lt_length_toDigits (by decide) (large.trans ?_)
    exact Nat.le_mul_of_pos_left (5 ^ mostPlaces) (Nat.mul_pos positive (Nat.two_pow_pos _))
  · refine length_toDigits_le (by decide) ((exactUnits_lt canonical mostPlaces).trans ?_)
    decide +kernel

theorem toFloat_of_negative (units : Nat) (exponent : Int) :
    (decimal true units exponent).toFloat = -(decimal false units exponent).toFloat := rfl

/-- With all its places, a number is read as what it is. -/
theorem toFloat_exactUnits (canonical : IsCanonical mantissa exponent) (positive : 0 < mantissa) :
    (decimal negative (exactUnits mantissa exponent mostPlaces) (-mostPlaces)).toFloat =
      packed negative mantissa exponent positive := by
  obtain ⟨long, short⟩ := length_exactUnits canonical positive
  have notZero := (exactUnits_pos positive exponent mostPlaces).ne'
  have isExponent : exponent = (exponent + mostPlaces).toNat - (mostPlaces : Int) := by
    have := canonical.le_exponent
    rw [mostPlaces]
    omega
  have isRead := ofScientific_exact canonical positive isExponent rfl (by decide) (by decide)
  have isSize : Float.ofScientific (exactUnits mantissa exponent mostPlaces) true
      (-(mostPlaces : Int)).natAbs = packed false mantissa exponent positive := by
    rw [Float.ofScientific, dif_neg (fun small => absurd small.2 (by decide))]
    exact congrArg (fun unpacked => Float.ofModel (.pack unpacked)) isRead
  have unsigned : (decimal false (exactUnits mantissa exponent mostPlaces)
      (-mostPlaces)).toFloat = packed false mantissa exponent positive := by
    rw [toFloat, if_neg Bool.false_ne_true, if_neg, if_neg, if_neg (by decide), isSize]
    · rw [exponentLimit, mostPlaces] at *
      omega
    · rw [exponentLimit, mostPlaces] at *
      simp only [notZero, decide_false, Bool.false_or, decide_eq_true_eq]
      omega
  cases negative with
  | false => exact unsigned
  | true => rw [toFloat_of_negative, unsigned, neg_packed canonical positive]

/-! ## Numbers that are tried -/

theorem ofUnits_of_neg {exponent : Int} (isNegative : exponent < 0) (units : Nat) :
    ofUnits negative units exponent = decimal negative units exponent := by
  rw [ofUnits, if_neg]
  simp only [Bool.and_eq_true, decide_eq_true_eq, not_and]
  omega

/-- A number that has no more places than allowed is tried as it is. -/
theorem mem_around_exactUnits {places : Nat} (enough : -places ≤ exponent) (some : 0 < places) :
    decimal negative (exactUnits mantissa exponent places) (-places) ∈
      around negative mantissa exponent places := by
  have isExact : mantissa * 2 ^ exponent.toNat * 10 ^ places =
      exactUnits mantissa exponent places * 2 ^ (-exponent).toNat := by
    have isTen : 10 ^ places = 2 ^ places * 5 ^ places := by rw [← Nat.mul_pow]
    have isPower : 2 ^ exponent.toNat * 2 ^ places =
        2 ^ (exponent + places).toNat * 2 ^ (-exponent).toNat := by
      rw [← Nat.pow_add, ← Nat.pow_add]
      congr 1
      omega
    calc mantissa * 2 ^ exponent.toNat * 10 ^ places
        = mantissa * (2 ^ exponent.toNat * 2 ^ places) * 5 ^ places := by
          rw [isTen]
          ring
      _ = exactUnits mantissa exponent places * 2 ^ (-exponent).toNat := by
          rw [isPower, exactUnits]
          ring
  have noPlaces : (-(places : Int)).toNat = 0 := by omega
  refine List.mem_map.mpr ⟨exactUnits mantissa exponent places, ?_, ofUnits_of_neg (by omega) _⟩
  rw [Int.toNat_natCast, noPlaces]
  change _ ∈ neighbours (mantissa * 2 ^ exponent.toNat * 10 ^ places) (2 ^ (-exponent).toNat * 1)
  rw [isExact, Nat.mul_one]
  exact mem_neighbours_mul _ (Nat.two_pow_pos _)

theorem exists_shortest?_eq_some
    (isExact : Exact.ofFloat number = .finite negative mantissa exponent)
    (positive : 0 < mantissa) :
    ∃ found, shortest? number negative mantissa exponent = some found := by
  obtain ⟨canonical, -⟩ := parts_of_ofFloat isExact
  have tried : decimal negative (exactUnits mantissa exponent mostPlaces) (-mostPlaces) ∈ _ :=
    mem_around_exactUnits canonical.le_exponent (by decide)
  rw [← Option.isSome_iff_exists, shortest?, List.findSome?_isSome_iff]
  refine ⟨(mostPlaces - fewestPlaces).toNat, List.mem_range.mpr (by decide), ?_⟩
  rw [List.find?_isSome]
  refine ⟨_, tried, ?_⟩
  rw [toFloat_exactUnits canonical positive, ← eq_packed_of_ofFloat isExact positive]
  exact BEq.rfl

theorem toFloat_of_shortest? {found : Number}
    (isFound : shortest? number negative mantissa exponent = some found) :
    found.toFloat = number := by
  obtain ⟨count, -, isFound⟩ := List.exists_of_findSome?_eq_some isFound
  have isRead := List.find?_some isFound
  exact Float.toBits_inj.mp (eq_of_beq isRead)

theorem toFloat_ofFloat {number : Float} (finite : isFinite number = true) :
    (ofFloat number).toFloat = number := by
  rw [isFinite] at finite
  rw [ofFloat]
  split at finite
  · next negative mantissa exponent isExact =>
      rw [isExact]
      dsimp only
      rcases Nat.eq_zero_or_pos mantissa with rfl | positive
      · rw [if_pos rfl, eq_zero_of_ofFloat isExact]
        cases negative <;> rfl
      · obtain ⟨found, isFound⟩ := exists_shortest?_eq_some isExact positive
        rw [if_neg positive.ne', isFound]
        exact toFloat_of_shortest? isFound
  · cases finite
  · cases finite

end Json.Number

end SnippetSearch
