import Mathlib.Algebra.Order.Group.Int
import Mathlib.Data.Prod.Lex
import Mathlib.Order.Compare
import SnippetSearch.Similarity

/-!
# The order of scores

Scores that are numbers stand in one line, from minus infinity to plus
infinity: first the sign decides, then the exponent, then the mantissa.  The
two zeros stand at the same place.  Comparing two such scores is comparing
where they stand.
-/

namespace SnippetSearch

open Float.Model

/-- A place among the scores that are numbers. -/
abbrev Standing := ℤ ×ₗ ℤ ×ₗ ℤ

namespace Standing

/-- The standing with the given parts, of which the first that differs decides. -/
def of (sign exponent mantissa : ℤ) : Standing :=
  toLex (sign, toLex (exponent, mantissa))

theorem compare_of (sign exponent mantissa sign' exponent' mantissa' : ℤ) :
    compare (of sign exponent mantissa) (of sign' exponent' mantissa') =
      (compare sign sign').then ((compare exponent exponent').then (compare mantissa mantissa')) :=
  rfl

/-- The standing of a score by its parts; what is no number is put with the zeros. -/
def ofUnpacked : UnpackedFloat → Standing
  | .infinity .negative => of (-2) 0 0
  | .finite .negative mantissa exponent _ => of (-1) (-exponent) (-mantissa)
  | .zero _ | .notANumber => of 0 0 0
  | .finite .positive mantissa exponent _ => of 1 exponent mantissa
  | .infinity .positive => of 2 0 0

theorem ofUnpacked_negative (mantissa : ℕ) (exponent : ℤ) (positive : 0 < mantissa) :
    ofUnpacked (.finite .negative mantissa exponent positive) = of (-1) (-exponent) (-mantissa) :=
  rfl

theorem ofUnpacked_positive (mantissa : ℕ) (exponent : ℤ) (positive : 0 < mantissa) :
    ofUnpacked (.finite .positive mantissa exponent positive) = of 1 exponent mantissa :=
  rfl

def ofScore (score : Float) : Standing :=
  ofUnpacked score.toModel.unpack

theorem compare_natCast (left right : ℕ) : compare (left : ℤ) right = compare left right := by
  simp only [compare, compareOfLessAndEq, Int.ofNat_lt, Int.ofNat_inj]

theorem compare_neg (left right : ℤ) : compare (-left) (-right) = (compare left right).swap := by
  rw [Int.compare_swap]
  simp only [compare, compareOfLessAndEq, Int.neg_lt_neg_iff, Int.neg_inj, eq_comm]

/-- Comparing scores that are numbers, part by part, is comparing their standings. -/
theorem compare_ofUnpacked {left right : UnpackedFloat} (leftNumber : left.isNaN = false)
    (rightNumber : right.isNaN = false) :
    left.compare right = some (compare (ofUnpacked left) (ofUnpacked right)) := by
  rcases left with ⟨_ | _⟩ | _ | _ | ⟨_ | _, mantissa, exponent, _⟩ <;>
    rcases right with ⟨_ | _⟩ | _ | _ | ⟨_ | _, mantissa', exponent', _⟩
  -- Only two finite scores of one sign are compared by more than their signs.
  case finite.negative.finite.negative =>
      rw [ofUnpacked_negative, ofUnpacked_negative, compare_of, compare_neg exponent,
        compare_neg mantissa, compare_natCast, ← Ordering.swap_then]
      rfl
  case finite.positive.finite.positive =>
      rw [ofUnpacked_positive, ofUnpacked_positive, compare_of, compare_natCast]
      rfl
  all_goals first | rfl | contradiction

section

variable {left right : Float} (leftNumber : left.isNaN = false) (rightNumber : right.isNaN = false)

include leftNumber rightNumber

theorem lt_iff : left < right ↔ ofScore left < ofScore right := by
  have compared := compare_ofUnpacked leftNumber rightNumber
  calc
    left < right ↔ left.toModel.unpack.compare right.toModel.unpack = some .lt :=
      decide_eq_true_iff.trans beq_iff_eq
    _ ↔ ofScore left < ofScore right := by
      rw [compared, Option.some_inj, compare_lt_iff_lt, ofScore, ofScore]

theorem beq_iff : (left == right) = true ↔ ofScore left = ofScore right := by
  have compared := compare_ofUnpacked leftNumber rightNumber
  calc
    (left == right) = true ↔ left.toModel.unpack.compare right.toModel.unpack = some .eq :=
      beq_iff_eq (a := left.toModel.unpack.compare right.toModel.unpack)
    _ ↔ ofScore left = ofScore right := by
      rw [compared, Option.some_inj, compare_eq_iff_eq, ofScore, ofScore]

end

end Standing

end SnippetSearch
