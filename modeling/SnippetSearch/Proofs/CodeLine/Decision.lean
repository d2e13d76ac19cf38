import Mathlib.Data.List.TakeWhile
import SnippetSearch.CodeLine
import SnippetSearch.Proofs.Text.Lines
import SnippetSearch.Proofs.Text.Words

/-!
# Texts that carry code

Whether a text carries code follows from its code lines alone: how many there
are, and whether one of them holds a structural keyword.  So the order of its
lines does not matter, nor do blank lines and comments, and a text with more
lines carries no less code.
-/

namespace SnippetSearch

namespace CodeLine

/-! ## Kinds of lines -/

def IsBlankLine (line : Text) : Prop :=
  ∀ character ∈ line, Text.isBlank character = true

/-- A line with one of the marks of comments behind nothing but blank space. -/
def IsCommentLine (line : Text) : Prop :=
  ∃ margin mark rest, IsBlankLine margin ∧ mark ∈ commentMarks ∧ line = margin ++ mark ++ rest

def IsCodeLine (line : Text) : Prop :=
  ¬ IsBlankLine line ∧ ¬ IsCommentLine line

theorem trimStart_mark_append {mark : Text} (isMark : mark ∈ commentMarks) (rest : Text) :
    (mark ++ rest).trimStart = mark ++ rest := by
  have starts : ∃ first more, mark = first :: more ∧ Text.isBlank first = false := by
    rw [commentMarks, List.mem_cons, List.mem_cons, List.mem_singleton] at isMark
    rcases isMark with rfl | rfl | rfl
    · exact ⟨'/', ['/'], rfl, rfl⟩
    · exact ⟨'/', ['*'], rfl, rfl⟩
    · exact ⟨'*', [], rfl, rfl⟩
  obtain ⟨first, more, rfl, visible⟩ := starts
  exact List.dropWhile_cons_of_neg (Bool.eq_false_iff.mp visible)

theorem isCommentLine_iff (line : Text) :
    IsCommentLine line ↔ Text.startsWithAny commentMarks line.trimStart = true := by
  simp only [Text.startsWithAny, List.any_eq_true, List.isPrefixOf_iff_prefix]
  constructor
  · rintro ⟨margin, mark, rest, blank, isMark, rfl⟩
    refine ⟨mark, isMark, ?_⟩
    rw [List.append_assoc, Text.trimStart, List.dropWhile_append_of_pos blank, ← Text.trimStart,
      trimStart_mark_append isMark]
    exact List.prefix_append mark rest
  · rintro ⟨mark, isMark, rest, trimmed⟩
    refine ⟨line.takeWhile Text.isBlank, mark, rest, fun _ => List.mem_takeWhile_imp, isMark, ?_⟩
    rw [List.append_assoc, trimmed, Text.trimStart, List.takeWhile_append_dropWhile]

theorem isCode_iff (line : Text) : isCode line = true ↔ IsCodeLine line := by
  rw [isCode, Bool.and_eq_true, Bool.not_eq_true', Bool.not_eq_true', IsCodeLine,
    isCommentLine_iff, Bool.not_eq_true, ← Bool.not_eq_true, Text.isAllBlank, List.all_eq_true]
  rfl

instance : DecidablePred IsCodeLine := fun line =>
  decidable_of_iff (isCode line = true) (isCode_iff line)

theorem nil_not_mem_structuralKeywords : [] ∉ structuralKeywords := by
  decide

/-- The answer in terms of any lines among which are the code lines of a text and no others. -/
theorem carriesCode_iff_of_codeLines {text : Text} {lines : List Text}
    (chosen : codeLines text = lines.filter isCode) :
    carriesCode text = true ↔
      3 ≤ lines.countP (fun line => IsCodeLine line) ∨
        ∃ line ∈ lines, IsCodeLine line ∧ Text.HoldsWord structuralKeywords line := by
  have counted : (codeLines text).length = lines.countP (fun line => IsCodeLine line) := by
    rw [chosen, ← List.countP_eq_length_filter]
    refine List.countP_congr fun line _ => ?_
    rw [isCode_iff, decide_eq_true_iff]
  rw [carriesCode, Bool.or_eq_true, decide_eq_true_iff, sufficientCount, counted,
    List.any_eq_true]
  simp only [chosen, List.mem_filter, isCode_iff, and_assoc,
    Text.includesWord_iff nil_not_mem_structuralKeywords]

theorem carriesCode_iff (text : Text) :
    carriesCode text = true ↔
      3 ≤ (text.splitOn '\n').countP (fun line => IsCodeLine line) ∨
        ∃ line ∈ text.splitOn '\n', IsCodeLine line ∧ Text.HoldsWord structuralKeywords line := by
  refine carriesCode_iff_of_codeLines ?_
  rw [codeLines, Text.cut_eq_splitOn]

/-! ## Lists of lines -/

theorem codeLines_joinLines (lines : List Text) :
    codeLines (Text.joinLines lines) = lines.flatMap codeLines := by
  have cut_eq (line : Text) : codeLines line = (line.splitOn '\n').filter isCode := by
    rw [codeLines, Text.cut_eq_splitOn]
  induction lines with
  | nil => rfl
  | cons line rest ih =>
      cases rest with
      | nil => rw [Text.joinLines, Text.join, List.intercalate_singleton, List.flatMap_singleton]
      | cons next others =>
          rw [List.flatMap_cons, ← ih, Text.joinLines, Text.join, List.intercalate_cons_cons,
            List.append_assoc, List.singleton_append, cut_eq, List.splitOn_append_cons_self,
            List.filter_append, ← cut_eq, ← cut_eq]
          rfl

theorem codeLines_eq_nil {line : Text} (oneLine : '\n' ∉ line)
    (passedOver : IsBlankLine line ∨ IsCommentLine line) : codeLines line = [] := by
  have noCode : ¬ isCode line = true := by
    rw [isCode_iff, IsCodeLine, not_and_or, not_not, not_not]
    exact passedOver
  rw [codeLines, Text.cut_eq_splitOn, List.splitOn_eq_singleton oneLine,
    List.filter_cons_of_neg noCode, List.filter_nil]

theorem codeLines_perm {kept added lines : List Text} (arranged : lines.Perm (kept ++ added)) :
    (codeLines (Text.joinLines lines)).Perm
      (codeLines (Text.joinLines kept) ++ added.flatMap codeLines) := by
  rw [codeLines_joinLines, codeLines_joinLines, ← List.flatMap_append]
  exact arranged.flatMap_right codeLines

theorem carriesCode_of_perm {text other : Text} (perm : (codeLines text).Perm (codeLines other)) :
    carriesCode text = carriesCode other := by
  rw [carriesCode, carriesCode, perm.length_eq, perm.any_eq]

theorem carriesCode_of_perm_append {text other : Text} {more : List Text}
    (perm : (codeLines text).Perm (codeLines other ++ more)) (carries : carriesCode other = true) :
    carriesCode text = true := by
  rw [carriesCode, Bool.or_eq_true, decide_eq_true_iff] at carries ⊢
  rw [perm.length_eq, perm.any_eq, List.length_append, List.any_append, Bool.or_eq_true]
  rcases carries with enough | holds
  · exact .inl (Nat.le_add_right_of_le enough)
  · exact .inr (.inl holds)

/--
A text carries code exactly if it has three code lines, or if one of them holds a
structural keyword as a whole word.  Lines in any order give the same answer, with
blank lines and comments anywhere among them or without these; and with any further
lines anywhere among them a text goes on to carry code.
-/
theorem code_lines_decide :
    (∀ text : Text, carriesCode text = true ↔
      3 ≤ (text.splitOn '\n').countP (fun line => IsCodeLine line) ∨
        ∃ line ∈ text.splitOn '\n', IsCodeLine line ∧
          Text.HoldsWord structuralKeywords line) ∧
    (∀ kept passedOver lines : List Text,
      (∀ line ∈ passedOver, '\n' ∉ line ∧ (IsBlankLine line ∨ IsCommentLine line)) →
      lines.Perm (kept ++ passedOver) →
      carriesCode (Text.joinLines lines) = carriesCode (Text.joinLines kept)) ∧
    ∀ kept added lines : List Text, lines.Perm (kept ++ added) →
      carriesCode (Text.joinLines kept) = true → carriesCode (Text.joinLines lines) = true := by
  refine ⟨carriesCode_iff, ?_, ?_⟩
  · intro kept passedOver lines idle arranged
    have nothing : passedOver.flatMap codeLines = [] :=
      List.flatMap_eq_nil_iff.mpr fun line member =>
        codeLines_eq_nil (idle line member).1 (idle line member).2
    have perm := codeLines_perm arranged
    rw [nothing, List.append_nil] at perm
    exact carriesCode_of_perm perm
  · intro kept added lines arranged carries
    exact carriesCode_of_perm_append (codeLines_perm arranged) carries

end CodeLine

end SnippetSearch
