import Mathlib.Data.List.Infix
import Mathlib.Data.List.TakeWhile
import SnippetSearch.Proofs.Glob.Components

/-!
# Patterns for file names

A pattern without separators is tried on the whole path and on its last
component.  If its only wildcards are single stars, no part of it can cover a
separator.  Then it matches a whole path only if the path is a single component,
and so it is the last component alone that decides.
-/

namespace SnippetSearch

namespace IgnoreFilter

theorem afterLast_withSlashes (path : Text) :
    (withSlashes path).afterLast '/' = fileName path := by
  have pieces := splitOn_withSlashes path
  rw [← folders_concat_fileName] at pieces
  by_cases held : '/' ∈ withSlashes path
  · obtain ⟨before, split⟩ := Text.exists_eq_append_afterLast held
    rw [split, List.splitOn_append_cons_self,
      List.splitOn_eq_singleton (Text.not_mem_afterLast '/' _)] at pieces
    exact (List.append_singleton_inj.mp pieces).2
  · rw [List.splitOn_eq_singleton held, ← List.nil_append [withSlashes path]] at pieces
    rw [Text.afterLast_of_not_mem held]
    exact (List.append_singleton_inj.mp pieces).2

theorem fileName_append {separator : Char} (separates : isSeparator separator = true) {name : Text}
    (single : ∀ character ∈ name, isSeparator character = false) (folder : Text) :
    fileName (folder ++ separator :: name) = name := by
  have pieces := folders_concat_fileName (folder ++ separator :: name)
  rw [components, List.splitOnP_append_cons _ _ separates, List.splitOnP_eq_singleton single]
    at pieces
  exact (List.append_singleton_inj.mp pieces).2

end IgnoreFilter

/-! ## Patterns within one component -/

namespace Glob

open Text

/-- Whether a pattern has no separator and no wildcard but single stars. -/
structure IsNamePattern (pattern : Text) : Prop where
  noSlash : '/' ∉ pattern
  noBackslash : '\\' ∉ pattern
  noMark : '?' ∉ pattern
  singleStars : ¬ ['*', '*'] <:+: pattern

theorem spelling_infix {pattern : Text} {part : Token} (isPart : part ∈ tokens pattern) :
    part.spelling <:+: pattern := by
  obtain ⟨before, behind, split⟩ := List.append_of_mem isPart
  rw [← (tokens_isReading pattern).spelled, split, List.flatMap_append, List.flatMap_cons,
    ← List.append_assoc]
  exact List.infix_append _ _ _

theorem IsNamePattern.slash_not_mem_piece {pattern : Text} (named : IsNamePattern pattern)
    {part : Token} (isPart : part ∈ tokens pattern) {piece : Text} (isPiece : part.IsPiece piece) :
    '/' ∉ piece := by
  have written := spelling_infix isPart
  cases part with
  | anyRun => exact absurd written named.singleStars
  | segmentRun => exact isPiece.1
  | anyChar => exact absurd (written.subset List.mem_cons_self) named.noMark
  | letter expected =>
      obtain ⟨character, rfl, same⟩ := isPiece
      intro held
      obtain rfl := List.mem_singleton.mp held
      obtain rfl := eq_of_sameLetter same (by decide)
      exact named.noSlash (written.subset List.mem_cons_self)

/-- Parts that cover no slash cover a text without any. -/
theorem slash_not_mem_of_covers {parts : List Token} {text : Text}
    (within : ∀ part ∈ parts, ∀ piece, part.IsPiece piece → '/' ∉ piece)
    (covered : covers parts text = true) : '/' ∉ text := by
  induction parts generalizing text with
  | nil =>
      rw [covers, atEnd_iff] at covered
      rcases covered with rfl | rfl <;> decide
  | cons part others ih =>
      obtain ⟨withinPiece, within⟩ := List.forall_mem_cons.mp within
      obtain ⟨piece, rest, rfl, isPiece, covered⟩ := (covers_cons_iff part others text).mp covered
      rw [List.mem_append, not_or]
      exact ⟨withinPiece piece isPiece, ih within covered⟩

end Glob

/-! ## The file name decides -/

namespace IgnoreFilter

open Glob

/--
A pattern without separators whose only wildcards are single stars leaves out exactly
the paths whose last component it matches, whatever the folders in front of it are.
-/
theorem name_patterns_judge_file_names {pattern : Text} (named : IsNamePattern pattern) :
    (∀ path, ignores ⟨[], [pattern]⟩ path = matchesText pattern (fileName path)) ∧
    ∀ folder separator name, isSeparator separator = true →
      (∀ character ∈ name, isSeparator character = false) →
        ignores ⟨[], [pattern]⟩ (folder ++ separator :: name) = matchesText pattern name := by
  have judged (path : Text) :
      ignores ⟨[], [pattern]⟩ path = matchesText pattern (fileName path) := by
    have noSlash : pattern.contains '/' = false := by
      rw [← Bool.not_eq_true, List.contains_iff_mem]
      exact named.noSlash
    rw [(ignores_single pattern path).2, patternIgnores,
      withSlashes_of_not_mem named.noBackslash, noSlash, Bool.not_false, Bool.true_and,
      afterLast_withSlashes, Bool.or_eq_right_iff_imp]
    -- A whole path that matches is its own last component.
    intro matched
    have single := slash_not_mem_of_covers
      (fun part isPart piece isPiece => named.slash_not_mem_piece isPart isPiece) matched
    rwa [← afterLast_withSlashes, Text.afterLast_of_not_mem single]
  refine ⟨judged, fun folder separator name separates single => ?_⟩
  rw [judged, fileName_append separates single]

/-- A folder that matches does not count, and a file name counts behind any folders. -/
theorem name_patterns_judge_file_names_env :
    IsNamePattern "*.env".toList ∧
      ignores ⟨[], ["*.env".toList]⟩ "src/a.env/b.cs".toList = false ∧
      ignores ⟨[], ["*.env".toList]⟩ "src\\a/local.ENV".toList = true := by
  have named : IsNamePattern "*.env".toList := ⟨by decide, by decide, by decide, by decide⟩
  obtain ⟨judged, behind⟩ := name_patterns_judge_file_names named
  refine ⟨named, (judged _).trans (by decide +kernel), ?_⟩
  have single : ∀ character ∈ "local.ENV".toList, isSeparator character = false := by
    simp [isSeparator]
  exact (behind "src\\a".toList '/' "local.ENV".toList rfl single).trans (by decide +kernel)

end IgnoreFilter

end SnippetSearch
