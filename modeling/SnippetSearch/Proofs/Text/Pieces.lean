import Mathlib.Data.List.Infix
import Mathlib.Data.List.TakeWhile
import SnippetSearch.Text.Basic

/-!
# Pieces and what stands around them

A text that is split at separators consists of pieces without any.  A place
between two pieces is a place where a separator stands, so what comes before
and behind a piece can be read off the text itself.  The last piece is what
stands behind the last separator.
-/

namespace SnippetSearch

namespace Text

theorem not_of_mem_splitOnP {separates : Char → Bool} {text piece : Text}
    (isPiece : piece ∈ text.splitOnP separates) {character : Char} (held : character ∈ piece) :
    separates character = false := by
  induction text generalizing piece with
  | nil =>
      rw [List.splitOnP_nil, List.mem_singleton] at isPiece
      rw [isPiece] at held
      cases held
  | cons first rest ih =>
      rw [List.splitOnP_cons_eq_if_modifyHead] at isPiece
      split at isPiece
      · rcases List.mem_cons.mp isPiece with rfl | isPiece
        · cases held
        · exact ih isPiece held
      · next plain =>
          obtain ⟨start, more, pieces⟩ :=
            List.exists_cons_of_ne_nil (List.splitOnP_ne_nil separates rest)
          rw [pieces, List.modifyHead_cons] at isPiece
          rw [pieces] at ih
          rcases List.mem_cons.mp isPiece with rfl | isPiece
          · rcases List.mem_cons.mp held with rfl | held
            · exact Bool.eq_false_iff.mpr plain
            · exact ih List.mem_cons_self held
          · exact ih (List.mem_cons_of_mem _ isPiece) held

theorem intercalate_append (separator : Text) {front back : List Text} (someFront : front ≠ [])
    (someBack : back ≠ []) :
    separator.intercalate (front ++ back) =
      separator.intercalate front ++ separator ++ separator.intercalate back := by
  induction front with
  | nil => exact absurd rfl someFront
  | cons piece rest ih =>
      cases rest with
      | nil =>
          rw [List.singleton_append, List.intercalate_cons_of_ne_nil someBack,
            List.intercalate_singleton]
      | cons next others =>
          rw [List.cons_append, List.cons_append, List.intercalate_cons_cons,
            ← List.cons_append, ih (List.cons_ne_nil next others), List.intercalate_cons_cons]
          simp only [List.append_assoc]

theorem eq_append_of_splitOn {separator : Char} {text : Text} {front back : List Text}
    (pieces : text.splitOn separator = front ++ back) (someFront : front ≠ [])
    (someBack : back ≠ []) :
    text = [separator].intercalate front ++ separator :: [separator].intercalate back := by
  have joined : [separator].intercalate (text.splitOn separator) = text :=
    List.intercalate_splitOn separator
  rw [← joined, pieces, intercalate_append _ someFront someBack, List.append_assoc,
    List.singleton_append]

/-! ## Behind the last separator -/

theorem not_mem_afterLast (separator : Char) (text : Text) :
    separator ∉ text.afterLast separator := by
  intro held
  have passes := List.mem_takeWhile_imp (List.mem_reverse.mp held)
  exact bne_iff_ne.mp passes rfl

theorem afterLast_of_not_mem {separator : Char} {text : Text} (free : separator ∉ text) :
    text.afterLast separator = text := by
  have whole : text.reverse.takeWhile (· != separator) = text.reverse := by
    refine List.takeWhile_eq_self_iff.mpr fun character held => bne_iff_ne.mpr ?_
    rintro rfl
    exact free (List.mem_reverse.mp held)
  rw [afterLast, whole, List.reverse_reverse]

theorem exists_eq_append_afterLast {separator : Char} {text : Text} (held : separator ∈ text) :
    ∃ before, text = before ++ separator :: text.afterLast separator := by
  cases rest : text.reverse.dropWhile (· != separator) with
  | nil =>
      have passes := List.dropWhile_eq_nil_iff.mp rest separator (List.mem_reverse.mpr held)
      exact absurd rfl (bne_iff_ne.mp passes)
  | cons first others =>
      have stops := List.head?_dropWhile_not (· != separator) text.reverse
      simp only [rest, List.head?_cons, bne_eq_false_iff_eq] at stops
      have split := List.takeWhile_append_dropWhile (p := (· != separator)) (l := text.reverse)
      rw [rest, stops] at split
      refine ⟨others.reverse, ?_⟩
      calc text
        _ = (text.reverse.takeWhile (· != separator) ++ separator :: others).reverse := by
          rw [split, List.reverse_reverse]
        _ = others.reverse ++ separator :: text.afterLast separator := by
          rw [List.reverse_append, List.reverse_cons, List.append_assoc]
          rfl

end Text

end SnippetSearch
