import SnippetSearch.RunSort.Basic
import SnippetSearch.Similarity
import SnippetSearch.StableSort

/-!
# Ranking by similarity

Every item is scored against the query, the scores are put in descending
order, and only the first of them are kept.  Items with equal scores stay in
the order in which they came.  A score that is no number cannot be compared;
where there is one, the order is the reverse of sorting by runs upwards.
-/

namespace SnippetSearch

namespace Ranking

variable {α : Type}

def areComparable (entries : List (α × Float)) : Bool :=
  entries.all fun entry => !entry.2.isNaN

/-- The scored items in descending order; equal scores keep their order. -/
def sort (entries : List (α × Float)) : List (α × Float) :=
  if areComparable entries then
    StableSort.sort (fun earlier later => later.2 < earlier.2) entries
  else
    (RunSort.sort (fun earlier later => earlier.2 < later.2) entries.reverse).reverse

/-- The items with their similarity to the query, or the first mismatch among them. -/
def score (embedding : α → Embedding) (query : Embedding) (items : List α) :
    Except DimensionMismatch (List (α × Float)) :=
  items.mapM fun item => (Embedding.cosine query (embedding item)).map fun similarity =>
    (item, similarity)

/-- The items most similar to the query, at most `limit` of them. -/
def top (embedding : α → Embedding) (items : List α) (query : Embedding) (limit : Int) :
    Except DimensionMismatch (List (α × Float)) :=
  if limit ≤ 0 || items.isEmpty then
    .ok []
  else
    (score embedding query items).map fun entries => (sort entries).take limit.toNat

end Ranking

end SnippetSearch
