import Mathlib.Data.List.Nodup
import Mathlib.Order.Defs.Unbundled
import SnippetSearch.StableSort

/-!
# The order of sorted elements

Sorting by insertion puts elements in any order that is transitive and tells,
for each element and each later one, the same as what has to precede.  Where
neither has to precede, it is the earlier element that comes first.
-/

namespace SnippetSearch

namespace StableSort

variable {α β : Type} {precedes : α → α → Bool}

theorem mem_insert {element other : α} {elements : List α} :
    other ∈ insert precedes element elements ↔ other = element ∨ other ∈ elements :=
  (perm_insert precedes element elements).mem_iff.trans List.mem_cons

theorem mem_sort {element : α} {elements : List α} :
    element ∈ sort precedes elements ↔ element ∈ elements :=
  (perm_sort precedes elements).mem_iff

def Agrees (precedes : α → α → Bool) (before : α → α → Prop) (element later : α) : Prop :=
  if precedes later element then before later element else before element later

theorem pairwise_insert (before : α → α → Prop) [IsTrans α before] {element : α}
    {elements : List α} (ordered : elements.Pairwise before)
    (agree : ∀ other ∈ elements, Agrees precedes before element other) :
    (insert precedes element elements).Pairwise before := by
  induction elements with
  | nil => exact List.pairwise_singleton before element
  | cons other rest ih =>
      obtain ⟨first, orderedRest⟩ := List.pairwise_cons.mp ordered
      obtain ⟨agreeFirst, agreeRest⟩ := List.forall_mem_cons.mp agree
      rw [insert]
      split
      · next preceding =>
          rw [Agrees, if_pos preceding] at agreeFirst
          refine List.pairwise_cons.mpr ⟨?_, ih orderedRest agreeRest⟩
          intro member isMember
          rcases mem_insert.mp isMember with rfl | inRest
          · exact agreeFirst
          · exact first member inRest
      · next notPreceding =>
          rw [Agrees, if_neg notPreceding] at agreeFirst
          refine List.pairwise_cons.mpr ⟨?_, ordered⟩
          intro member isMember
          rcases List.mem_cons.mp isMember with rfl | inRest
          · exact agreeFirst
          · exact IsTrans.trans _ _ _ agreeFirst (first member inRest)

/-- Sorting puts elements in an order that agrees with it on the elements and the later ones. -/
theorem pairwise_sort (before : α → α → Prop) [IsTrans α before] {elements : List α}
    (agree : elements.Pairwise (Agrees precedes before)) :
    (sort precedes elements).Pairwise before := by
  induction elements with
  | nil => exact List.Pairwise.nil
  | cons element rest ih =>
      obtain ⟨agreeFirst, agreeRest⟩ := List.pairwise_cons.mp agree
      rw [sort_cons]
      apply pairwise_insert before (ih agreeRest)
      intro other member
      exact agreeFirst other (mem_sort.mp member)

/-! ## Sorting by a part of the elements -/

theorem map_insert (view : α → β) (precedes : β → β → Bool) (element : α) (elements : List α) :
    (insert (fun earlier later => precedes (view earlier) (view later)) element elements).map view =
      insert precedes (view element) (elements.map view) := by
  induction elements with
  | nil => rfl
  | cons other rest ih =>
      rw [insert, List.map_cons, insert]
      split
      · rw [List.map_cons, ih]
      · rfl

theorem map_sort (view : α → β) (precedes : β → β → Bool) (elements : List α) :
    (sort (fun earlier later => precedes (view earlier) (view later)) elements).map view =
      sort precedes (elements.map view) := by
  induction elements with
  | nil => rfl
  | cons element rest ih =>
      rw [sort_cons, map_insert, ih, List.map_cons, sort_cons]

end StableSort

end SnippetSearch
