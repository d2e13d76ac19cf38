/-!
# Stable sorting

An element is put in front of the first one that need not come before it.
Doing so with the elements of a list from the last to the first sorts the
list and leaves elements in their order wherever neither has to come first.
-/

namespace SnippetSearch

namespace StableSort

variable {α : Type}

def insert (precedes : α → α → Bool) (element : α) : List α → List α
  | [] => [element]
  | other :: rest =>
      if precedes other element then
        other :: insert precedes element rest
      else
        element :: other :: rest

def sort (precedes : α → α → Bool) (elements : List α) : List α :=
  elements.foldr (insert precedes) []

@[simp] theorem sort_nil (precedes : α → α → Bool) : sort precedes [] = [] := rfl

@[simp] theorem sort_cons (precedes : α → α → Bool) (element : α) (rest : List α) :
    sort precedes (element :: rest) = insert precedes element (sort precedes rest) := rfl

theorem perm_insert (precedes : α → α → Bool) (element : α) (elements : List α) :
    (insert precedes element elements).Perm (element :: elements) := by
  induction elements with
  | nil => exact List.Perm.refl _
  | cons other rest ih =>
      simp only [insert]
      split
      · exact (ih.cons other).trans (List.Perm.swap element other rest)
      · exact List.Perm.refl _

/-- Sorting loses nothing and adds nothing. -/
theorem perm_sort (precedes : α → α → Bool) (elements : List α) :
    (sort precedes elements).Perm elements := by
  induction elements with
  | nil => exact List.Perm.refl _
  | cons element rest ih =>
      exact (perm_insert precedes element (sort precedes rest)).trans (ih.cons element)

end StableSort

end SnippetSearch
