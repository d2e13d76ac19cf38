import Mathlib.Data.List.Basic
import SnippetSearch.Text.Lines

/-!
# Lines and pieces

Cutting at a separator undoes joining with it as long as no piece holds the
separator.  The lines of a text hold no line break at all, so any run of them
can be joined by line feeds and read back.
-/

namespace SnippetSearch

namespace Text

theorem cut_eq_splitOn (separator : Char) (text : Text) :
    cut separator text = text.splitOn separator := by
  induction text with
  | nil => rfl
  | cons character rest ih =>
      rw [cut, List.splitOn_cons_eq_if_modifyHead, ih]
      by_cases same : character = separator
      · simp [same]
      · cases pieces : rest.splitOn separator with
        | nil => exact absurd pieces (List.splitOn_ne_nil separator rest)
        | cons piece more => simp [same]

/-- Pieces without the separator are read back after joining. -/
theorem cut_join (separator : Char) {pieces : List Text} (nonempty : pieces ≠ [])
    (free : ∀ piece ∈ pieces, separator ∉ piece) :
    cut separator (join [separator] pieces) = pieces := by
  rw [cut_eq_splitOn]
  exact List.splitOn_intercalate separator free nonempty

theorem join_prefix_join (separator : Text) {first pieces : List Text}
    (isFirst : first <+: pieces) : join separator first <+: join separator pieces := by
  obtain ⟨more, rfl⟩ := isFirst
  induction first with
  | nil => exact List.nil_prefix
  | cons piece rest ih =>
      cases rest with
      | cons next others =>
          rw [List.cons_append, List.cons_append, join, join, List.intercalate_cons_cons,
            List.intercalate_cons_cons]
          exact (List.prefix_append_right_inj _).mpr ih
      | nil =>
          cases more with
          | nil => exact List.prefix_rfl
          | cons next others =>
              rw [List.singleton_append, join, join, List.intercalate_singleton,
                List.intercalate_cons_cons, List.append_assoc]
              exact List.prefix_append piece _

theorem join_append (separator : Text) (first : List Text) {pieces : List Text}
    (nonempty : pieces ≠ []) :
    join separator (first ++ pieces) =
      first.flatMap (· ++ separator) ++ join separator pieces := by
  induction first with
  | nil => rfl
  | cons piece rest ih =>
      obtain ⟨next, more, isCons⟩ :=
        List.exists_cons_of_ne_nil (List.append_ne_nil_of_right_ne_nil rest nonempty)
      rw [List.cons_append, List.flatMap_cons, List.append_assoc, ← ih, isCons]
      exact List.intercalate_cons_cons

theorem infix_of_mem_cut {separator : Char} {text piece : Text}
    (isPiece : piece ∈ cut separator text) : piece <:+: text := by
  obtain ⟨front, back, split⟩ := List.append_of_mem isPiece
  have isStart := join_prefix_join [separator] (List.prefix_append [piece] back)
  rw [join, List.intercalate_singleton] at isStart
  rw [← join_cut separator text, split, join_append _ front (List.cons_ne_nil piece back)]
  exact isStart.isInfix.trans (List.suffix_append _ _).isInfix

theorem not_isLineBreak_of_mem_lines {text line : Text} {character : Char}
    (isLine : line ∈ lines text) (held : character ∈ line) : isLineBreak character = false := by
  fun_induction lines text generalizing line with
  | case1 => cases isLine
  | case2 rest ih =>
      rcases List.mem_cons.mp isLine with rfl | isLine
      · cases held
      · exact ih isLine held
  | case3 first rest notPair ends ih =>
      rcases List.mem_cons.mp isLine with rfl | isLine
      · cases held
      · exact ih isLine held
  | case4 first rest notPair plain ending ih =>
      rw [List.mem_singleton.mp isLine] at held
      rw [List.mem_singleton.mp held]
      exact Bool.eq_false_iff.mpr plain
  | case5 first rest notPair plain start more following ih =>
      rw [following] at ih
      rcases List.mem_cons.mp isLine with rfl | isLine
      · rcases List.mem_cons.mp held with rfl | held
        · exact Bool.eq_false_iff.mpr plain
        · exact ih List.mem_cons_self held
      · exact ih (List.mem_cons_of_mem _ isLine) held

/-- A line feed ends lines, so no line holds one. -/
theorem lineFeed_not_mem_of_mem_lines {text line : Text} (isLine : line ∈ lines text) :
    '\n' ∉ line := by
  intro held
  have plain := not_isLineBreak_of_mem_lines isLine held
  cases plain

theorem cut_joinLines {text : Text} {selected : List Text} (nonempty : selected ≠ [])
    (areLines : ∀ line ∈ selected, line ∈ lines text) :
    cut '\n' (joinLines selected) = selected :=
  cut_join '\n' nonempty fun line member => lineFeed_not_mem_of_mem_lines (areLines line member)

end Text

end SnippetSearch
