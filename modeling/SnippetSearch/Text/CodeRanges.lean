/-!
# Sets of code points given by ranges

A set of code points is written as the list of its ranges, in increasing
order and without overlap, so that a search may stop at the first range that
starts above the code point.
-/

namespace SnippetSearch

namespace Text

/-- Ranges of code points, each with its first and its last member. -/
abbrev CodeRanges := List (Nat × Nat)

def CodeRanges.covers : CodeRanges → Nat → Bool
  | [], _ => false
  | (first, last) :: rest, code =>
      decide (first ≤ code) && (decide (code ≤ last) || CodeRanges.covers rest code)

namespace CodeRanges

@[simp] theorem covers_nil (code : Nat) : covers [] code = false := rfl

@[simp] theorem covers_cons (first last code : Nat) (rest : CodeRanges) :
    covers ((first, last) :: rest) code =
      (decide (first ≤ code) && (decide (code ≤ last) || covers rest code)) := rfl

end CodeRanges

end Text

end SnippetSearch
