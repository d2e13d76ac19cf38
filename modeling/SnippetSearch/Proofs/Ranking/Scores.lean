import SnippetSearch.Ranking

/-!
# Scores and mismatches

Items can be ranked if their vectors are all as long as the query.  Otherwise
the first one that is not tells which two lengths differ, even if it would not
have been among the items that are kept.
-/

namespace SnippetSearch

/-- The similarity of two vectors, whatever their numbers of components are. -/
def Embedding.similarity (left right : Embedding) : Float :=
  if norm left * norm right == 0 then 0 else dot left right / (norm left * norm right)

theorem Embedding.cosine_of_length_eq {left right : Embedding}
    (same : left.length = right.length) : cosine left right = .ok (left.similarity right) := by
  rw [cosine, if_pos same]
  rfl

theorem Embedding.cosine_of_length_ne {left right : Embedding}
    (differ : left.length ≠ right.length) :
    cosine left right = .error ⟨left.length, right.length⟩ := by
  rw [cosine, if_neg differ]

namespace Ranking

variable {α : Type} (embedding : α → Embedding) (query : Embedding)

def mismatches (item : α) : Bool :=
  decide (query.length ≠ (embedding item).length)

/-- Scoring gives every item its similarity, or tells of the first item that has none. -/
theorem score_eq (items : List α) :
    score embedding query items =
      match items.find? (mismatches embedding query) with
      | some item => .error ⟨query.length, (embedding item).length⟩
      | none => .ok (items.map fun item => (item, query.similarity (embedding item))) := by
  induction items with
  | nil => rfl
  | cons item rest ih =>
      rw [score, List.mapM_cons, ← score, ih]
      by_cases same : query.length = (embedding item).length
      · have agrees : mismatches embedding query item = false := by simp [mismatches, same]
        rw [Embedding.cosine_of_length_eq same, List.find?_cons_of_neg (by simp [agrees])]
        cases rest.find? (mismatches embedding query) with
        | some other => rfl
        | none => rfl
      · have differs : mismatches embedding query item = true := by simp [mismatches, same]
        rw [Embedding.cosine_of_length_ne same, List.find?_cons_of_pos differs]
        rfl

/-- Sorting loses nothing and adds nothing, whether all scores are numbers or not. -/
theorem perm_sort_entries (entries : List (α × Float)) : (sort entries).Perm entries := by
  rw [sort]
  split
  · exact StableSort.perm_sort _ entries
  · refine (List.reverse_perm _).trans ?_
    exact (RunSort.perm_sortByRuns _ entries.reverse).trans (List.reverse_perm entries)

variable {embedding query} {items : List α} {limit : Int}

theorem find?_mismatches_of_agree
    (agree : ∀ item ∈ items, (embedding item).length = query.length) :
    items.find? (mismatches embedding query) = none := by
  refine List.find?_eq_none.mpr fun item member => ?_
  simp [mismatches, agree item member]

theorem top_of_mismatch (positive : 0 < limit) {item : α}
    (first : items.find? (mismatches embedding query) = some item) :
    top embedding items query limit = .error ⟨query.length, (embedding item).length⟩ := by
  have nonempty : items.isEmpty = false := by
    cases items with
    | nil => cases first
    | cons _ _ => rfl
  have wanted : (decide (limit ≤ 0) || items.isEmpty) = false := by
    rw [nonempty, decide_eq_false (Int.not_le.mpr positive)]
    rfl
  rw [top, wanted, score_eq, first]
  rfl

/-- Items that agree with the query in length are ranked, as many as are wanted. -/
theorem top_of_no_mismatch (agree : ∀ item ∈ items, (embedding item).length = query.length)
    (limit : Int) :
    ∃ ranked, top embedding items query limit = .ok ranked ∧
      ranked.length = min limit.toNat items.length := by
  rw [top, score_eq, find?_mismatches_of_agree agree]
  split
  · next nothing =>
      refine ⟨[], rfl, ?_⟩
      rcases (Bool.or_eq_true _ _).mp nothing with unwanted | empty
      · rw [Int.toNat_of_nonpos (of_decide_eq_true unwanted), Nat.zero_min]
        rfl
      · rw [List.isEmpty_iff.mp empty]
        exact (Nat.min_zero _).symm
  · refine ⟨_, rfl, ?_⟩
    rw [List.length_take, (perm_sort_entries _).length_eq, List.length_map]

end Ranking

end SnippetSearch
