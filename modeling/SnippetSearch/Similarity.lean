import SnippetSearch.Text.Integer

/-!
# Cosine similarity

The similarity of two vectors is their scalar product divided by the product
of their lengths, in floating-point arithmetic and without rescaling.  A
vector without length is similar to nothing.  Products are summed from the first
component to the last; another order of the sums may round them differently.
-/

namespace SnippetSearch

abbrev Embedding := List Float

/-- The numbers of components of two vectors that cannot be compared. -/
structure DimensionMismatch where
  left : Nat
  right : Nat
deriving Repr, DecidableEq

def DimensionMismatch.message (mismatch : DimensionMismatch) : Text :=
  "Embedding dimensions differ: ".toList ++ Text.ofNat mismatch.left ++
    " != ".toList ++ Text.ofNat mismatch.right

namespace Embedding

/-- The sum of the products of the components, from the first to the last. -/
def dot (left right : Embedding) : Float :=
  (left.zip right).foldl (fun sum pair => sum + pair.1 * pair.2) 0

def norm (vector : Embedding) : Float :=
  (dot vector vector).sqrt

def cosine (left right : Embedding) : Except DimensionMismatch Float :=
  if left.length = right.length then
    let denominator := norm left * norm right
    .ok (if denominator == 0 then 0 else dot left right / denominator)
  else
    .error ⟨left.length, right.length⟩

end Embedding

end SnippetSearch
