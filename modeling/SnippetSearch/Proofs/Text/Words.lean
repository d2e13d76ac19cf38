import Mathlib.Data.List.Basic
import SnippetSearch.Text.Word

/-!
# Whole words

The search for a keyword goes through a text character by character and only
remembers whether the character before was one of a word.  It finds a keyword
exactly if the text can be written with the keyword between two parts that do
not continue it.
-/

namespace SnippetSearch

namespace Text

/--
Whether one of the keywords stands in a text as a whole word: what is before it
does not end in a word character, and what is behind it does not start with one.
-/
def HoldsWord (keywords : List Text) (text : Text) : Prop :=
  ∃ before keyword behind, keyword ∈ keywords ∧ text = before ++ keyword ++ behind ∧
    (∀ last ∈ before.getLast?, isWordChar last = false) ∧
    ∀ first ∈ behind.head?, isWordChar first = false

/-- Whether a word may start behind a text, if `outside` tells that for the empty text. -/
def mayStartBehind (outside : Bool) (before : Text) : Bool :=
  (before.getLast?.map fun last => !isWordChar last).getD outside

/-- Of what stands before a word only the last character matters. -/
theorem mayStartBehind_cons (outside : Bool) (character : Char) (before : Text) :
    mayStartBehind outside (character :: before) =
      mayStartBehind (!isWordChar character) before := by
  rw [mayStartBehind, mayStartBehind, List.getLast?_cons]
  cases before.getLast? with
  | none => rfl
  | some last => rfl

theorem mayStartBehind_true_iff (before : Text) :
    mayStartBehind true before = true ↔ ∀ last ∈ before.getLast?, isWordChar last = false := by
  rw [mayStartBehind]
  cases before.getLast? with
  | none => simp
  | some last => simp

theorem startsOutsideWord_iff (text : Text) :
    startsOutsideWord text = true ↔ ∀ first ∈ text.head?, isWordChar first = false := by
  cases text with
  | nil => simp [startsOutsideWord]
  | cons first rest => simp [startsOutsideWord]

/-- A keyword stands at the start if it can be taken off and what is left does not go on with it. -/
theorem startsWithWord_iff (keyword text : Text) :
    startsWithWord keyword text = true ↔
      ∃ behind, text = keyword ++ behind ∧ startsOutsideWord behind = true := by
  rw [startsWithWord, Bool.and_eq_true, List.isPrefixOf_iff_prefix]
  constructor
  · rintro ⟨⟨behind, rfl⟩, ends⟩
    rw [List.drop_left] at ends
    exact ⟨behind, rfl, ends⟩
  · rintro ⟨behind, rfl, ends⟩
    rw [List.drop_left]
    exact ⟨List.prefix_append keyword behind, ends⟩

/-- What the search finds, given whether a word may start at the first character. -/
theorem includesWordFrom_iff {keywords : List Text} (proper : [] ∉ keywords) (outside : Bool)
    (text : Text) :
    includesWordFrom keywords outside text = true ↔
      ∃ before keyword behind, keyword ∈ keywords ∧ text = before ++ keyword ++ behind ∧
        mayStartBehind outside before = true ∧ startsOutsideWord behind = true := by
  induction text generalizing outside with
  | nil =>
      refine ⟨fun found => absurd found Bool.false_ne_true, ?_⟩
      rintro ⟨before, keyword, behind, isKeyword, isEmpty, _⟩
      obtain ⟨_, rfl⟩ := List.append_eq_nil_iff.mp (List.append_eq_nil_iff.mp isEmpty.symm).1
      exact absurd isKeyword proper
  | cons character rest ih =>
      rw [includesWordFrom, Bool.or_eq_true, Bool.and_eq_true, List.any_eq_true, ih]
      constructor
      · rintro (⟨starts, keyword, isKeyword, found⟩ |
          ⟨before, keyword, behind, isKeyword, rfl, starts, ends⟩)
        · obtain ⟨behind, text_eq, ends⟩ := (startsWithWord_iff _ _).mp found
          exact ⟨[], keyword, behind, isKeyword, text_eq, starts, ends⟩
        · rw [← mayStartBehind_cons outside] at starts
          exact ⟨character :: before, keyword, behind, isKeyword, rfl, starts, ends⟩
      · rintro ⟨before, keyword, behind, isKeyword, text_eq, starts, ends⟩
        cases before with
        | nil =>
            have found : startsWithWord keyword (character :: rest) = true :=
              (startsWithWord_iff _ _).mpr ⟨behind, text_eq, ends⟩
            exact .inl ⟨starts, keyword, isKeyword, found⟩
        | cons first before =>
            obtain ⟨rfl, rfl⟩ := List.cons.inj text_eq
            rw [mayStartBehind_cons] at starts
            exact .inr ⟨before, keyword, behind, isKeyword, rfl, starts, ends⟩

/-- The search finds a keyword exactly where one stands as a whole word. -/
theorem includesWord_iff {keywords : List Text} (proper : [] ∉ keywords) (text : Text) :
    includesWord keywords text = true ↔ HoldsWord keywords text := by
  rw [includesWord, includesWordFrom_iff proper]
  simp only [mayStartBehind_true_iff, startsOutsideWord_iff, HoldsWord]

end Text

end SnippetSearch
