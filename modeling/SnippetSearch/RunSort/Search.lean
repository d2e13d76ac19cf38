/-!
# Searching sorted positions

Both searches look for the first position whose element does not stay in front
of a given one, and ask about few positions only.  Halving narrows an interval
down.  Leaping starts at a hint and doubles its leaps, away from the hint,
until they have gone too far, and halves the last of them.  If the elements
are not sorted, which position is found depends on what is asked.
-/

namespace SnippetSearch

namespace RunSort

def halve (stays : Nat → Bool) (low high : Nat) : Nat :=
  if low < high then
    let middle := low + (high - low) / 2
    if stays middle then halve stays (middle + 1) high else halve stays low middle
  else
    low
termination_by high - low

/--
The lengths of the last leap that did not go too far and of the first that
did, below a limit; `goesOn` tells of a leap whether to leap farther.
-/
def leaps (goesOn : Nat → Bool) (limit last next : Nat) : Nat × Nat :=
  if next < limit then
    if goesOn next then leaps goesOn limit next (2 * next + 1) else (last, next)
  else
    (last, limit)
termination_by limit - next

/-- The position found by leaps from a hint among so many positions. -/
def leap (stays : Nat → Bool) (count hint : Nat) : Nat :=
  if stays hint then
    let (last, next) := leaps (fun length => stays (hint + length)) (count - hint) 0 1
    halve stays (hint + last + 1) (hint + next)
  else
    let (last, next) := leaps (fun length => !stays (hint - length)) (hint + 1) 0 1
    halve stays (hint + 1 - next) (hint - last)

end RunSort

end SnippetSearch
