import SnippetSearch.Text.Basic

/-!
# Environment variables

An environment gives values to some names.  A variable may be set to the
empty text, which is not the same as being unset.
-/

namespace SnippetSearch

structure Environment where
  assignments : List (Text × Text)
deriving Repr, DecidableEq

namespace Environment

/-- The environment without any variable. -/
def empty : Environment := ⟨[]⟩

def get? (environment : Environment) (name : Text) : Option Text :=
  environment.assignments.lookup name

def nonempty? (environment : Environment) (name : Text) : Option Text :=
  (environment.get? name).filter fun value => !value.isEmpty

def set (environment : Environment) (name : Text) (value? : Option Text) : Environment :=
  let others := environment.assignments.filter fun entry => entry.1 != name
  match value? with
  | none => ⟨others⟩
  | some value => ⟨(name, value) :: others⟩

theorem lookup_filter_ne (name : Text) (assignments : List (Text × Text)) :
    (assignments.filter fun entry => entry.1 != name).lookup name = none := by
  induction assignments with
  | nil => rfl
  | cons entry rest ih =>
      obtain ⟨key, value⟩ := entry
      by_cases same : key = name
      · rw [List.filter_cons_of_neg (by simp [same])]
        exact ih
      · have apart : (name == key) = false := by simpa using fun equal => same equal.symm
        rw [List.filter_cons_of_pos (by simp [same]), List.lookup_cons, apart]
        exact ih

theorem lookup_filter_other {name other : Text} (differ : other ≠ name)
    (assignments : List (Text × Text)) :
    (assignments.filter fun entry => entry.1 != name).lookup other = assignments.lookup other := by
  induction assignments with
  | nil => rfl
  | cons entry rest ih =>
      obtain ⟨key, value⟩ := entry
      by_cases same : key = name
      · have apart : (other == key) = false := by simpa [same] using differ
        rw [List.filter_cons_of_neg (by simp [same]), List.lookup_cons, apart]
        exact ih
      · rw [List.filter_cons_of_pos (by simp [same]), List.lookup_cons, List.lookup_cons, ih]

@[simp] theorem get?_set_self (environment : Environment) (name : Text) (value? : Option Text) :
    (environment.set name value?).get? name = value? := by
  cases value? with
  | none => exact lookup_filter_ne name environment.assignments
  | some value => simp [set, get?]

theorem get?_set_of_ne (environment : Environment) {name other : Text} (differ : other ≠ name)
    (value? : Option Text) :
    (environment.set name value?).get? other = environment.get? other := by
  have apart : (other == name) = false := by simpa using differ
  cases value? with
  | none => exact lookup_filter_other differ environment.assignments
  | some value =>
      simp only [set, get?, List.lookup_cons, apart]
      exact lookup_filter_other differ environment.assignments

end Environment

end SnippetSearch
