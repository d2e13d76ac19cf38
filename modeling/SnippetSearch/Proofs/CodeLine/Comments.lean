import SnippetSearch.Proofs.CodeLine.Decision
import SnippetSearch.Proofs.Index.Candidates

/-!
# Texts of comments alone

A text that consists of blank space and comments may still carry code, as each
line is judged by its own start.  Lines that start outside of comments are
passed over, and so are those that start with a mark; but the further lines of
a comment over several lines count as code if they start in any other way.
-/

namespace SnippetSearch

namespace Text

def firstLine (text : Text) : Text :=
  text.takeWhile (· != '\n')

theorem lineFeed_not_mem_firstLine (text : Text) : '\n' ∉ firstLine text := by
  intro member
  have other := List.mem_takeWhile_imp member
  simp at other

/-- A text that follows another goes on with its last line, and adds the lines behind that. -/
theorem splitOn_append (first second : Text) :
    (first ++ second).splitOn '\n' =
      (first ++ firstLine second).splitOn '\n' ++ (second.splitOn '\n').tail := by
  have whole : firstLine second ++ second.dropWhile (· != '\n') = second :=
    List.takeWhile_append_dropWhile
  have oneLine := lineFeed_not_mem_firstLine second
  cases behind : second.dropWhile (· != '\n') with
  | nil =>
      rw [behind, List.append_nil] at whole
      rw [whole] at oneLine ⊢
      rw [List.splitOn_eq_singleton oneLine, List.tail_cons, List.append_nil]
  | cons separator rest =>
      have isLineFeed : separator = '\n' := by
        have notPassed := List.head?_dropWhile_not (· != '\n') second
        rw [behind] at notPassed
        simpa using notPassed
      rw [behind, isLineFeed] at whole
      have separated : second.splitOn '\n' = firstLine second :: rest.splitOn '\n' := by
        rw [← whole, List.splitOn_append_cons_self_of_not_mem oneLine, whole]
      rw [separated, List.tail_cons]
      nth_rewrite 1 [← whole]
      rw [← List.append_assoc, List.splitOn_append_cons_self]

end Text

theorem SnippetIndex.carriesCode_of_mem_candidates (index : SnippetIndex) {path : Text}
    {chunks : List Chunk} {chunk : Chunk} (member : chunk ∈ index.candidates path chunks) :
    CodeLine.carriesCode chunk.text = true :=
  (List.mem_filter.mp ((firstOfEachRange_sublist _).subset (List.mem_of_mem_filter member))).2

namespace CodeLine

/-- Blank space and comments, one after the other. -/
inductive Commentary where
  | nothing
  | blank (character : Char) (isBlank : Text.isBlank character = true) (rest : Commentary)
  | lastLine (words : Text) (oneLine : '\n' ∉ words)
  | line (words : Text) (oneLine : '\n' ∉ words) (lineBreak : Char)
      (breaks : Text.isLineBreak lineBreak = true) (rest : Commentary)
  | block (words : Text) (unclosed : words.includes "*/".toList = false) (rest : Commentary)

namespace Commentary

def text : Commentary → Text
  | .nothing => []
  | .blank character _ rest => character :: rest.text
  | .lastLine words _ => "//".toList ++ words
  | .line words _ lineBreak _ rest => "//".toList ++ words ++ lineBreak :: rest.text
  | .block words _ rest => "/*".toList ++ words ++ "*/".toList ++ rest.text

def innerLines : Commentary → List Text
  | .nothing | .lastLine .. => []
  | .blank _ _ rest | .line _ _ _ _ rest => rest.innerLines
  | .block words _ rest =>
      (("/*".toList ++ words ++ "*/".toList ++ rest.text.firstLine).splitOn '\n').tail ++
        rest.innerLines

end Commentary

/-- A line that is passed over, as it is blank or starts with a mark. -/
def IsPassedOver (line : Text) : Prop :=
  IsBlankLine line ∨ IsCommentLine line

theorem IsCommentLine.append {line : Text} (comment : IsCommentLine line) (more : Text) :
    IsCommentLine (line ++ more) := by
  obtain ⟨margin, mark, rest, blank, isMark, rfl⟩ := comment
  exact ⟨margin, mark, rest ++ more, blank, isMark, List.append_assoc _ _ _⟩

/-- A line that is passed over stays so if a comment starts behind it. -/
theorem IsPassedOver.append_mark {line : Text} (passed : IsPassedOver line) {mark : Text}
    (isMark : mark ∈ commentMarks) (more : Text) : IsPassedOver (line ++ (mark ++ more)) := by
  rcases passed with blank | comment
  · exact .inr ⟨line, mark, more, blank, isMark, (List.append_assoc _ _ _).symm⟩
  · exact .inr (comment.append _)

theorem IsPassedOver.append_blank {line : Text} (passed : IsPassedOver line) {character : Char}
    (isBlank : Text.isBlank character = true) : IsPassedOver (line ++ [character]) := by
  rcases passed with blank | comment
  · exact .inl (List.forall_mem_append.mpr ⟨blank, List.forall_mem_singleton.mpr isBlank⟩)
  · exact .inr (comment.append _)

theorem IsPassedOver.not_isCode {line : Text} (passed : IsPassedOver line) :
    ¬ isCode line = true := by
  rw [isCode_iff, IsCodeLine, not_and_or, not_not, not_not]
  exact passed

theorem slashes_mem_commentMarks : "//".toList ∈ commentMarks := by
  decide

theorem slashStar_mem_commentMarks : "/*".toList ∈ commentMarks := by
  decide

namespace Commentary

/-- What comments start with is passed over if what stands before them on their line is. -/
theorem isPassedOver_firstLine (commentary : Commentary) {before : Text}
    (passed : IsPassedOver before) : IsPassedOver (before ++ commentary.text.firstLine) := by
  induction commentary generalizing before with
  | nothing =>
      rw [text, Text.firstLine, List.takeWhile_nil, List.append_nil]
      exact passed
  | blank character isBlank rest ih =>
      rw [text, Text.firstLine, List.takeWhile_cons]
      split
      · rw [List.append_cons]
        exact ih (passed.append_blank isBlank)
      · rw [List.append_nil]
        exact passed
  | lastLine words oneLine =>
      exact passed.append_mark slashes_mem_commentMarks (words.takeWhile (· != '\n'))
  | line words oneLine lineBreak breaks rest =>
      exact passed.append_mark slashes_mem_commentMarks
        ((words ++ lineBreak :: rest.text).takeWhile (· != '\n'))
  | block words unclosed rest =>
      have starts : text (.block words unclosed rest) =
          "/*".toList ++ (words ++ "*/".toList ++ rest.text) := by
        simp only [text, List.append_assoc]
      rw [starts]
      exact passed.append_mark slashStar_mem_commentMarks
        ((words ++ "*/".toList ++ rest.text).takeWhile (· != '\n'))

theorem isPassedOver_nil : IsPassedOver [] :=
  .inl fun _ member => absurd member List.not_mem_nil

theorem filter_splitOn (commentary : Commentary) :
    (commentary.text.splitOn '\n').filter isCode =
      (commentary.text.splitOn '\n').tail.filter isCode := by
  have split := Text.splitOn_append [] commentary.text
  have passed : IsPassedOver commentary.text.firstLine :=
    commentary.isPassedOver_firstLine isPassedOver_nil
  rw [List.nil_append, List.nil_append,
    List.splitOn_eq_singleton (Text.lineFeed_not_mem_firstLine _)] at split
  rw [split, List.singleton_append, List.tail_cons, List.filter_cons_of_neg passed.not_isCode]

/-- What ends in front of comments, with its line or on it, adds no code lines to theirs. -/
theorem filter_tail_append (rest : Commentary) {start : Text} (oneLine : '\n' ∉ start)
    (last : Char) :
    ((start ++ last :: rest.text).splitOn '\n').tail.filter isCode =
      (rest.text.splitOn '\n').tail.filter isCode := by
  by_cases ends : last = '\n'
  · rw [ends, List.splitOn_append_cons_self_of_not_mem oneLine, List.tail_cons, filter_splitOn]
  · have goesOn : '\n' ∉ start ++ [last] ++ rest.text.firstLine := by
      simp only [List.mem_append, List.mem_singleton, not_or]
      exact ⟨⟨oneLine, Ne.symm ends⟩, Text.lineFeed_not_mem_firstLine _⟩
    rw [List.append_cons, Text.splitOn_append, List.splitOn_eq_singleton goesOn,
      List.singleton_append, List.tail_cons]

theorem filter_tail (commentary : Commentary) :
    (commentary.text.splitOn '\n').tail.filter isCode =
      commentary.innerLines.filter isCode := by
  induction commentary with
  | nothing => rfl
  | blank character isBlank rest ih =>
      exact (rest.filter_tail_append List.not_mem_nil character).trans ih
  | lastLine words oneLine =>
      have oneLine : '\n' ∉ "//".toList ++ words := by
        simpa using oneLine
      rw [text, List.splitOn_eq_singleton oneLine]
      rfl
  | line words oneLine lineBreak breaks rest ih =>
      have oneLine : '\n' ∉ "//".toList ++ words := by
        simpa using oneLine
      exact (rest.filter_tail_append oneLine lineBreak).trans ih
  | block words unclosed rest ih =>
      rw [text, Text.splitOn_append, List.tail_append_of_ne_nil (List.splitOn_ne_nil _ _),
        List.filter_append, ih, innerLines, List.filter_append]

theorem codeLines_text (commentary : Commentary) :
    codeLines commentary.text = commentary.innerLines.filter isCode := by
  rw [codeLines, Text.cut_eq_splitOn, filter_splitOn, filter_tail]

end Commentary

/--
Comments carry code exactly if of the lines that start inside of a comment three are code
lines, or one of these holds a structural keyword.  So if all those lines are blank or
start with a mark, the comments carry none, and no chunk of them is ever given a vector.
-/
theorem comments_carry_code_iff (commentary : Commentary) :
    (carriesCode commentary.text = true ↔
      3 ≤ commentary.innerLines.countP (fun line => IsCodeLine line) ∨
        ∃ line ∈ commentary.innerLines, IsCodeLine line ∧
          Text.HoldsWord structuralKeywords line) ∧
    ((∀ line ∈ commentary.innerLines, IsBlankLine line ∨ IsCommentLine line) →
      carriesCode commentary.text = false ∧
      ∀ (index : SnippetIndex) (path : Text) (chunks : List Chunk),
        ∀ chunk ∈ index.candidates path chunks, chunk.text ≠ commentary.text) := by
  have decides := carriesCode_iff_of_codeLines commentary.codeLines_text
  refine ⟨decides, fun passed => ?_⟩
  have noCode : ∀ line ∈ commentary.innerLines, ¬ IsCodeLine line := fun line member isCodeLine =>
    (passed line member).elim isCodeLine.1 isCodeLine.2
  have rejected : carriesCode commentary.text = false := by
    rw [Bool.eq_false_iff, ne_eq, decides]
    rintro (enough | ⟨line, member, isCodeLine, _⟩)
    · rw [List.countP_eq_zero.mpr (by simpa using noCode)] at enough
      cases enough
    · exact noCode line member isCodeLine
  refine ⟨rejected, fun index path chunks chunk member same => ?_⟩
  have carries := index.carriesCode_of_mem_candidates member
  rw [same, rejected] at carries
  cases carries

/-- A comment over three lines, each of which starts with a mark. -/
def starredComment : Commentary :=
  .block "\n * public class A\n ".toList (by decide) .nothing

/-- The class in the comment stands behind a mark, so it is not taken for code. -/
theorem comments_carry_code_iff_starred :
    starredComment.text = "/*\n * public class A\n */".toList ∧
      carriesCode starredComment.text = false := by
  have noCode : ∀ line ∈ starredComment.innerLines, ¬ IsCodeLine line := by decide
  refine ⟨by decide, ((comments_carry_code_iff starredComment).2 fun line member => ?_).1⟩
  by_contra passed
  exact noCode line member (not_or.mp passed)

/-- A comment over three lines, of which the second one is a class. -/
def commentedClass : Commentary :=
  .block "\npublic class A\n".toList (by decide) .nothing

set_option maxRecDepth 4000 in
/-- The class in the comment carries code, and the chunk of the comment needs a vector. -/
theorem commentedClass_carries_code :
    commentedClass.text = "/*\npublic class A\n*/".toList ∧
      carriesCode commentedClass.text = true ∧
      ⟨commentedClass.text, 1, 3⟩ ∈
        SnippetIndex.empty.candidates "a.cs".toList
          (Chunking.standard.chunks commentedClass.text) := by
  decide

end CodeLine

end SnippetSearch
