import Mathlib.Data.List.Chain
import Mathlib.Data.List.Forall2
import SnippetSearch.Glob

/-!
# The language of a glob pattern

A pattern is read in one way only: its parts spell it, and no single star
stands directly in front of another star.  A text matches exactly if it can be
cut into one piece for each part, up to a line feed at its end.
-/

namespace SnippetSearch

namespace Glob

/-! ## Reading a pattern -/

def Token.spelling : Token → Text
  | .anyRun => ['*', '*']
  | .segmentRun => ['*']
  | .anyChar => ['?']
  | .letter character => [character]

/--
The parts of a pattern as it is read from left to right: two stars are one part
wherever that is possible, and only other characters stand for themselves.
-/
structure IsReading (pattern : Text) (parts : List Token) : Prop where
  spelled : parts.flatMap Token.spelling = pattern
  plain : ∀ character, .letter character ∈ parts → character ≠ '*' ∧ character ≠ '?'
  greedy : parts.IsChain fun part next => part = .segmentRun → next.isRun = false

namespace IsReading

variable {pattern : Text} {part : Token} {parts : List Token}

theorem nil : IsReading [] [] :=
  ⟨rfl, by simp, .nil⟩

/-- A part may be put in front of a reading unless it makes two stars of single ones. -/
theorem cons (reading : IsReading pattern parts) (part : Token)
    (plain : ∀ character, part = .letter character → character ≠ '*' ∧ character ≠ '?')
    (greedy : part = .segmentRun → ∀ next ∈ parts.head?, next.isRun = false) :
    IsReading (part.spelling ++ pattern) (part :: parts) := by
  refine ⟨?_, ?_, ?_⟩
  · rw [List.flatMap_cons, reading.spelled]
  · intro character member
    rcases List.mem_cons.mp member with same | member
    · exact plain character same.symm
    · exact reading.plain character member
  · refine reading.greedy.cons fun next isNext single => ?_
    exact greedy single next isNext

theorem tail (reading : IsReading pattern (part :: parts)) :
    IsReading (parts.flatMap Token.spelling) parts :=
  ⟨rfl, fun character member => reading.plain character (List.mem_cons_of_mem _ member),
    reading.greedy.tail⟩

end IsReading

theorem isRun_of_mem_head?_tokens {pattern : Text} (starless : pattern.head? ≠ some '*') :
    ∀ next ∈ (tokens pattern).head?, next.isRun = false := by
  fun_cases tokens pattern with
  | case1 => simp
  | case2 rest => simp at starless
  | case3 rest _ => simp at starless
  | case4 rest => simp [Token.isRun]
  | case5 character rest _ _ _ => simp [Token.isRun]

theorem tokens_isReading (pattern : Text) : IsReading pattern (tokens pattern) := by
  fun_induction tokens pattern with
  | case1 => exact .nil
  | case2 rest ih => exact ih.cons .anyRun (by simp) (by simp)
  | case3 rest single ih =>
      refine ih.cons .segmentRun (by simp) fun _ => isRun_of_mem_head?_tokens ?_
      intro starts
      obtain ⟨more, rfl⟩ := List.head?_eq_some_iff.mp starts
      exact single more rfl
  | case4 rest ih => exact ih.cons .anyChar (by simp) (by simp)
  | case5 character rest _ notStar notMark ih =>
      refine ih.cons (.letter character) ?_ (by simp)
      rintro _ ⟨rfl⟩
      exact ⟨notStar, notMark⟩

theorem IsReading.not_star_of_segmentRun {pattern : Text} {parts : List Token}
    (reading : IsReading pattern (.segmentRun :: parts)) (rest : Text) :
    parts.flatMap Token.spelling ≠ '*' :: rest := by
  intro starts
  cases parts with
  | nil => cases starts
  | cons next others =>
      have single : next.isRun = false := (List.isChain_cons_cons.mp reading.greedy).1 rfl
      cases next with
      | anyRun => cases single
      | segmentRun => cases single
      | anyChar => cases starts
      | letter character =>
          cases starts
          exact (reading.plain '*' (by simp)).1 rfl

theorem IsReading.eq_tokens {pattern : Text} {parts : List Token}
    (reading : IsReading pattern parts) : parts = tokens pattern := by
  obtain rfl := reading.spelled
  induction parts with
  | nil => rfl
  | cons part rest ih =>
      have others := ih reading.tail
      cases part with
      | anyRun => exact congrArg (List.cons _) others
      | segmentRun =>
          rw [List.flatMap_cons, Token.spelling, List.singleton_append, tokens]
          · exact congrArg (List.cons _) others
          · exact reading.not_star_of_segmentRun
      | anyChar => exact congrArg (List.cons _) others
      | letter character =>
          obtain ⟨notStar, notMark⟩ := reading.plain character List.mem_cons_self
          rw [List.flatMap_cons, Token.spelling, List.singleton_append, tokens]
          · exact congrArg (List.cons _) others
          · exact fun _ star => absurd star notStar
          · exact notStar
          · exact notMark

theorem isReading_iff (pattern : Text) (parts : List Token) :
    IsReading pattern parts ↔ parts = tokens pattern := by
  constructor
  · exact IsReading.eq_tokens
  · rintro rfl
    exact tokens_isReading pattern

example : tokens "***?".toList = [.anyRun, .segmentRun, .anyChar] := rfl

/-! ## Cutting a text -/

def Token.IsPiece : Token → Text → Prop
  | .anyRun, piece => '\n' ∉ piece
  | .segmentRun, piece => '/' ∉ piece ∧ '\\' ∉ piece
  | .anyChar, piece => ∃ character, piece = [character] ∧ character ≠ '\n'
  | .letter expected, piece =>
      ∃ character, piece = [character] ∧ Text.sameLetter expected character = true

theorem Token.isPiece_iff_of_isRun {part : Token} (run : part.isRun = true) (piece : Text) :
    part.IsPiece piece ↔ ∀ character ∈ piece, part.admits character = true := by
  cases part with
  | anyRun => simp [IsPiece, admits, List.forall_mem_ne']
  | segmentRun => simp [IsPiece, admits, forall_and, List.forall_mem_ne']
  | anyChar => cases run
  | letter character => cases run

theorem Token.isPiece_iff_of_not_isRun {part : Token} (single : part.isRun = false)
    (piece : Text) :
    part.IsPiece piece ↔ ∃ character, piece = [character] ∧ part.admits character = true := by
  cases part with
  | anyRun => cases single
  | segmentRun => cases single
  | anyChar => simp [IsPiece, admits]
  | letter character => rfl

theorem atEnd_iff (text : Text) : atEnd text = true ↔ text = [] ∨ text = ['\n'] := by
  fun_cases atEnd text with
  | case1 => simp
  | case2 => simp
  | case3 text notEmpty notBreak => simpa using ⟨notEmpty, notBreak⟩

theorem coversRun_iff (admits : Char → Bool) (next : Text → Bool) (text : Text) :
    coversRun admits next text = true ↔
      ∃ piece rest, piece ++ rest = text ∧
        (∀ character ∈ piece, admits character = true) ∧ next rest = true := by
  induction text with
  | nil => simp [coversRun, and_assoc]
  | cons character text ih =>
      rw [coversRun, Bool.or_eq_true, Bool.and_eq_true, ih]
      constructor
      · rintro (accepted | ⟨admitted, piece, rest, rfl, all, accepted⟩)
        · exact ⟨[], character :: text, rfl, by simp, accepted⟩
        · exact ⟨character :: piece, rest, rfl, List.forall_mem_cons.mpr ⟨admitted, all⟩, accepted⟩
      · rintro ⟨piece, rest, cut, all, accepted⟩
        cases piece with
        | nil =>
            obtain rfl : rest = character :: text := cut
            exact .inl accepted
        | cons first others =>
            cases cut
            obtain ⟨admitted, all⟩ := List.forall_mem_cons.mp all
            exact .inr ⟨admitted, others, rest, rfl, all, accepted⟩

/-- The first part gets some piece at the start, and the other parts cover what is left. -/
theorem covers_cons_iff (part : Token) (parts : List Token) (text : Text) :
    covers (part :: parts) text = true ↔
      ∃ piece rest, piece ++ rest = text ∧ part.IsPiece piece ∧ covers parts rest = true := by
  rw [covers.eq_def (part :: parts) text]
  dsimp only
  by_cases run : part.isRun = true
  · rw [if_pos run, coversRun_iff]
    simp only [Token.isPiece_iff_of_isRun run]
  · rw [if_neg run]
    simp only [Token.isPiece_iff_of_not_isRun (Bool.eq_false_iff.mpr run)]
    cases text with
    | nil => simp
    | cons character text => simp [and_assoc]

/-- Parts cover a text if it is a piece for each of them and then at most a line feed. -/
theorem covers_iff (parts : List Token) (text : Text) :
    covers parts text = true ↔
      ∃ pieces rest, List.Forall₂ Token.IsPiece parts pieces ∧ pieces.flatten ++ rest = text ∧
        (rest = [] ∨ rest = ['\n']) := by
  induction parts generalizing text with
  | nil => simp [covers, atEnd_iff]
  | cons part parts ih =>
      rw [covers_cons_iff]
      constructor
      · rintro ⟨piece, rest, rfl, isPiece, covered⟩
        obtain ⟨pieces, last, arePieces, rfl, ends⟩ := (ih rest).mp covered
        exact ⟨piece :: pieces, last, .cons isPiece arePieces, by simp, ends⟩
      · rintro ⟨_, last, (_ | ⟨isPiece, arePieces⟩), rfl, ends⟩
        refine ⟨_, _, ?_, isPiece, (ih _).mpr ⟨_, last, arePieces, rfl, ends⟩⟩
        simp

/--
A pattern has exactly one reading, and a text matches it exactly if the text, or
the text without a line feed at its end, can be cut into one piece for each part.
-/
theorem matchesText_iff_exists_pieces (pattern : Text) :
    (∀ parts, IsReading pattern parts ↔ parts = tokens pattern) ∧
      ∀ text, matchesText pattern text = true ↔
        ∃ pieces, List.Forall₂ Token.IsPiece (tokens pattern) pieces ∧
          (text = pieces.flatten ∨ text = pieces.flatten ++ ['\n']) := by
  refine ⟨isReading_iff pattern, fun text => ?_⟩
  rw [matchesText, covers_iff]
  constructor
  · rintro ⟨pieces, rest, arePieces, rfl, rfl | rfl⟩
    · exact ⟨pieces, arePieces, .inl (List.append_nil _)⟩
    · exact ⟨pieces, arePieces, .inr rfl⟩
  · rintro ⟨pieces, arePieces, rfl | rfl⟩
    · exact ⟨pieces, [], arePieces, List.append_nil _, .inl rfl⟩
    · exact ⟨pieces, ['\n'], arePieces, rfl, .inr rfl⟩

end Glob

end SnippetSearch
