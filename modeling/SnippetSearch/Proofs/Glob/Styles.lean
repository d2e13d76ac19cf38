import SnippetSearch.Proofs.Glob.Components
import SnippetSearch.Proofs.Text.Ascii

/-!
# Paths and patterns in another style

A path or a pattern may be written with slashes or with backslashes and in
capitals or in small letters.  Neither makes a difference to what is left out:
with slashes alone, both styles have the same letters, and patterns that have
the same letters are cut into the same parts and match the same texts.  What a
filter leaves out is what any of its patterns does, in whatever order and list.
-/

namespace SnippetSearch

/-! ## Characters without case -/

namespace Text

theorem SameLetters.symm {left right : Text} (same : SameLetters left right) :
    SameLetters right left := by
  induction same with
  | nil => exact .nil
  | cons letter _ ih => exact .cons ((sameLetter_comm _ _).trans letter) ih

/-- Of two characters that are the same up to case, neither or both are one without case. -/
theorem eq_iff_of_sameLetter {left right character : Char}
    (same : sameLetter left right = true) (low : caseKey character < firstLower) :
    left = character ↔ right = character := by
  constructor
  · rintro rfl
    rw [sameLetter_comm] at same
    exact eq_of_sameLetter same low
  · rintro rfl
    exact eq_of_sameLetter same low

theorem SameLetters.mem_iff {left right : Text} (same : SameLetters left right)
    {character : Char} (low : caseKey character < firstLower) :
    character ∈ left ↔ character ∈ right :=
  ⟨same.symm.mem_of_mem low, same.mem_of_mem low⟩

theorem SameLetters.takeWhile_ne {left right : Text} (same : SameLetters left right)
    {separator : Char} (low : caseKey separator < firstLower) :
    SameLetters (left.takeWhile (· != separator)) (right.takeWhile (· != separator)) := by
  induction same with
  | nil => exact .nil
  | @cons first second rest others letter _ ih =>
      have separates := eq_iff_of_sameLetter letter low
      rw [List.takeWhile_cons, List.takeWhile_cons]
      by_cases ends : first = separator
      · rw [bne_eq_false_iff_eq.mpr ends, bne_eq_false_iff_eq.mpr (separates.mp ends)]
        exact .nil
      · rw [bne_iff_ne.mpr ends, bne_iff_ne.mpr (separates.not.mp ends)]
        exact .cons letter ih

/-- What stands behind the last separator has the same letters, too. -/
theorem SameLetters.afterLast {left right : Text} (same : SameLetters left right)
    {separator : Char} (low : caseKey separator < firstLower) :
    SameLetters (left.afterLast separator) (right.afterLast separator) :=
  List.forall₂_reverse_iff.mpr
    (SameLetters.takeWhile_ne (List.forall₂_reverse_iff.mpr same) low)

end Text

/-! ## Patterns with the same letters -/

namespace Glob

open Text

/-- Whether two parts of patterns differ in the case of a letter at most. -/
inductive Token.Alike : Token → Token → Prop where
  | anyRun : Alike .anyRun .anyRun
  | segmentRun : Alike .segmentRun .segmentRun
  | anyChar : Alike .anyChar .anyChar
  | letter {left right : Char} (same : sameLetter left right = true) :
      Alike (.letter left) (.letter right)

theorem Token.Alike.isRun_eq {part other : Token} (alike : part.Alike other) :
    part.isRun = other.isRun := by
  cases alike <;> rfl

theorem Token.Alike.admits_eq {part other : Token} (alike : part.Alike other)
    {left right : Char} (same : sameLetter left right = true) :
    part.admits left = other.admits right := by
  have differs (character : Char) (low : caseKey character < firstLower) :
      (left != character) = (right != character) := by
    rw [Bool.eq_iff_iff, bne_iff_ne, bne_iff_ne]
    exact (eq_iff_of_sameLetter same low).not
  cases alike with
  | anyRun => exact differs '\n' (by decide)
  | anyChar => exact differs '\n' (by decide)
  | segmentRun => exact congrArg₂ (· && ·) (differs '/' (by decide)) (differs '\\' (by decide))
  | letter letters =>
      rw [sameLetter_iff] at same letters
      rw [admits, admits, sameLetter, sameLetter, same, letters]

theorem tokens_alike {pattern other : Text} (same : SameLetters pattern other) :
    List.Forall₂ Token.Alike (tokens pattern) (tokens other) := by
  -- Where the pattern has a star or a question mark, the other one has it as well.
  have star {left right : Char} (letter : sameLetter left right = true) :
      left = '*' ↔ right = '*' := eq_iff_of_sameLetter letter (by decide)
  have mark {left right : Char} (letter : sameLetter left right = true) :
      left = '?' ↔ right = '?' := eq_iff_of_sameLetter letter (by decide)
  fun_induction tokens pattern generalizing other with
  | case1 =>
      cases same
      exact .nil
  | case2 rest ih =>
      obtain ⟨first, tail, firstLetter, sameTail, rfl⟩ := List.forall₂_cons_left_iff.mp same
      obtain ⟨second, others, secondLetter, sameRest, rfl⟩ :=
        List.forall₂_cons_left_iff.mp sameTail
      obtain rfl := (star firstLetter).mp rfl
      obtain rfl := (star secondLetter).mp rfl
      exact .cons .anyRun (ih sameRest)
  | case3 rest single ih =>
      obtain ⟨first, others, letter, sameRest, rfl⟩ := List.forall₂_cons_left_iff.mp same
      obtain rfl := (star letter).mp rfl
      have singleToo : ∀ more, others = '*' :: more → False := by
        rintro more rfl
        obtain ⟨next, before, nextLetter, _, rfl⟩ := List.forall₂_cons_right_iff.mp sameRest
        obtain rfl := (star nextLetter).mpr rfl
        exact single before rfl
      rw [tokens]
      · exact .cons .segmentRun (ih sameRest)
      · exact singleToo
  | case4 rest ih =>
      obtain ⟨first, others, letter, sameRest, rfl⟩ := List.forall₂_cons_left_iff.mp same
      obtain rfl := (mark letter).mp rfl
      exact .cons .anyChar (ih sameRest)
  | case5 character rest _ notStar notMark ih =>
      obtain ⟨first, others, letter, sameRest, rfl⟩ := List.forall₂_cons_left_iff.mp same
      have notStar : first ≠ '*' := (star letter).not.mp notStar
      rw [tokens]
      · exact .cons (.letter letter) (ih sameRest)
      · exact fun _ isStar => absurd isStar notStar
      · exact notStar
      · exact (mark letter).not.mp notMark

theorem atEnd_congr {text other : Text} (same : SameLetters text other) :
    atEnd text = atEnd other := by
  rw [Bool.eq_iff_iff, atEnd_iff, atEnd_iff]
  cases same with
  | nil => rfl
  | cons letter rest =>
      have low : caseKey '\n' < firstLower := by decide
      have lineFeed := eq_iff_of_sameLetter letter low
      cases rest with
      | nil => simp [lineFeed]
      | cons _ _ => simp

theorem coversRun_congr {admits otherAdmits : Char → Bool} {next otherNext : Text → Bool}
    (sameAdmitted : ∀ {left right : Char}, sameLetter left right = true →
      admits left = otherAdmits right)
    (sameNext : ∀ {rest others : Text}, SameLetters rest others → next rest = otherNext others)
    {text other : Text} (same : SameLetters text other) :
    coversRun admits next text = coversRun otherAdmits otherNext other := by
  induction same with
  | nil => exact sameNext .nil
  | cons letter rest ih =>
      rw [coversRun, coversRun, sameNext (.cons letter rest), sameAdmitted letter, ih]

theorem covers_congr {parts others : List Token} (alike : List.Forall₂ Token.Alike parts others)
    {text other : Text} (same : SameLetters text other) :
    covers parts text = covers others other := by
  induction alike generalizing text other with
  | nil => exact atEnd_congr same
  | cons part _ ih =>
      rw [covers.eq_def (_ :: _) text, covers.eq_def (_ :: _) other]
      dsimp only
      rw [part.isRun_eq, coversRun_congr part.admits_eq ih same]
      cases same with
      | nil => rfl
      | cons letter rest =>
          dsimp only
          rw [part.admits_eq letter, ih rest]

/-- In either case a pattern matches the same texts, in either case. -/
theorem matchesText_congr {pattern otherPattern text other : Text}
    (samePattern : SameLetters pattern otherPattern) (same : SameLetters text other) :
    matchesText pattern text = matchesText otherPattern other :=
  covers_congr (tokens_alike samePattern) same

end Glob

/-! ## Other separators and other case -/

namespace IgnoreFilter

open Text

/-- Whether a character may stand for another one: for a separator, or for an ASCII letter. -/
def Restyles (left right : Char) : Prop :=
  left = right ∨ (isSeparator left = true ∧ isSeparator right = true) ∨
    (left.isAlpha = true ∧ (right = left.toUpper ∨ right = left.toLower))

instance : DecidableRel Restyles := fun _ _ => inferInstanceAs (Decidable (_ ∨ _))

/-- Whether two texts differ in their separators and in the case of ASCII letters only. -/
def Restyled (text other : Text) : Prop :=
  List.Forall₂ Restyles text other

instance : DecidableRel Restyled := fun text other =>
  inferInstanceAs (Decidable (List.Forall₂ Restyles text other))

/-- Whether the patterns of two filters are the same, list by list, but for their style. -/
structure IsRestyled (filter other : IgnoreFilter) : Prop where
  defaults : List.Forall₂ Restyled filter.defaultPatterns other.defaultPatterns
  users : List.Forall₂ Restyled filter.userPatterns other.userPatterns

/-- The case of an ASCII letter does not matter, and it is no separator in either case. -/
theorem sameLetter_of_isAlpha {left right : Char} (isLetter : left.isAlpha = true)
    (cased : right = left.toUpper ∨ right = left.toLower) :
    left ≠ '\\' ∧ right ≠ '\\' ∧ sameLetter left right = true := by
  have checked : ∀ code < 0x7F, (Char.ofNat code).isAlpha = true →
      Char.ofNat code ≠ '\\' ∧
        ((Char.ofNat code).toUpper ≠ '\\' ∧
          sameLetter (Char.ofNat code) (Char.ofNat code).toUpper = true) ∧
        (Char.ofNat code).toLower ≠ '\\' ∧
          sameLetter (Char.ofNat code) (Char.ofNat code).toLower = true := by
    decide +kernel
  have plain : left.isAlphanum = true := by rw [Char.isAlphanum, isLetter, Bool.true_or]
  obtain ⟨code, small, rfl⟩ := exists_code_of_isPrintable (isPrintable_of_isAlphanum plain)
  obtain ⟨noBackslash, upper, lower⟩ := checked code small isLetter
  rcases cased with rfl | rfl
  · exact ⟨noBackslash, upper⟩
  · exact ⟨noBackslash, lower⟩

/-- With slashes alone, texts of different styles have the same letters. -/
theorem Restyled.sameLetters {text other : Text} (restyled : Restyled text other) :
    SameLetters (withSlashes text) (withSlashes other) := by
  induction restyled with
  | nil => exact .nil
  | @cons left right _ _ restyles _ ih =>
      rw [withSlashes_cons, withSlashes_cons]
      refine .cons ?_ ih
      rcases restyles with rfl | ⟨first, second⟩ | ⟨isLetter, cased⟩
      · exact sameLetter_refl _
      · have isSlash {character : Char} (separates : isSeparator character = true) :
            (if character = '\\' then '/' else character) = '/' := by
          rw [isSeparator, Bool.or_eq_true, beq_iff_eq, beq_iff_eq] at separates
          rcases separates with rfl | rfl <;> rfl
        rw [isSlash first, isSlash second]
        exact sameLetter_refl '/'
      · obtain ⟨plain, otherPlain, same⟩ := sameLetter_of_isAlpha isLetter cased
        rwa [if_neg plain, if_neg otherPlain]

/-- A pattern in another style leaves out the same paths, in any style. -/
theorem patternIgnores_congr {pattern otherPattern path otherPath : Text}
    (restyled : Restyled pattern otherPattern) (restyledPath : Restyled path otherPath) :
    patternIgnores pattern path = patternIgnores otherPattern otherPath := by
  have samePattern := restyled.sameLetters
  have samePath := restyledPath.sameLetters
  have low : caseKey '/' < firstLower := by decide
  have sameSlashes : (withSlashes pattern).contains '/' =
      (withSlashes otherPattern).contains '/' := by
    rw [Bool.eq_iff_iff, List.contains_iff_mem, List.contains_iff_mem]
    exact samePattern.mem_iff low
  rw [patternIgnores, patternIgnores,
    Glob.matchesText_congr samePattern samePath, sameSlashes,
    Glob.matchesText_congr samePattern (samePath.afterLast low)]

/-! ## Filters -/

theorem ignores_congr {filter other : IgnoreFilter} (restyled : filter.IsRestyled other)
    {path otherPath : Text} (restyledPath : Restyled path otherPath) :
    filter.ignores path = other.ignores otherPath := by
  have patterns : List.Forall₂ Restyled filter.patterns other.patterns :=
    List.rel_append restyled.defaults restyled.users
  rw [ignores, ignores]
  generalize filter.patterns = these, other.patterns = those at patterns
  induction patterns with
  | nil => rfl
  | cons pattern _ ih =>
      rw [List.any_cons, List.any_cons, ih, patternIgnores_congr pattern restyledPath]

/--
Whether a path is left out depends neither on its separators and the case of its ASCII
letters nor on those of the patterns.  It is left out exactly if one of the patterns
alone leaves it out, as one of either list; so neither the order of the patterns nor
the list that holds them matters.
-/
theorem ignores_in_any_style (filter : IgnoreFilter) (path : Text) :
    (∀ (other : IgnoreFilter) (otherPath : Text), filter.IsRestyled other →
      Restyled path otherPath → other.ignores otherPath = filter.ignores path) ∧
    (filter.ignores path = filter.patterns.any fun pattern => ignores ⟨[pattern], []⟩ path) ∧
    (filter.ignores path = filter.patterns.any fun pattern => ignores ⟨[], [pattern]⟩ path) ∧
    ∀ other : IgnoreFilter, (∀ pattern, pattern ∈ other.patterns ↔ pattern ∈ filter.patterns) →
      other.ignores path = filter.ignores path := by
  refine ⟨fun other otherPath restyled restyledPath => ?_, ?_, ?_, fun other same => ?_⟩
  · exact (ignores_congr restyled restyledPath).symm
  · simp only [(ignores_single _ path).1]
    rfl
  · simp only [(ignores_single _ path).2]
    rfl
  · rw [ignores, ignores, Bool.eq_iff_iff, List.any_eq_true, List.any_eq_true]
    simp only [same]

/-- Build output in capitals and with backslashes, and the patterns in the two lists exchanged. -/
theorem ignores_in_any_style_exchanged :
    let filter : IgnoreFilter := ⟨["**/bin/**".toList], ["secrets.json".toList]⟩
    let other : IgnoreFilter := ⟨["**\\BIN/**".toList], ["Secrets.JSON".toList]⟩
    let exchanged : IgnoreFilter := ⟨["secrets.json".toList], ["**/bin/**".toList]⟩
    other.ignores "\\src/Bin\\A.cs".toList = true ∧
      exchanged.ignores "/src/bin/a.cs".toList = true ∧
      filter.ignores "/src/bin/a.cs".toList = true := by
  intro filter other exchanged
  have ignored : filter.ignores "/src/bin/a.cs".toList = true := by decide +kernel
  obtain ⟨restyle, -, -, rearrange⟩ := ignores_in_any_style filter "/src/bin/a.cs".toList
  have restyled : filter.IsRestyled other := ⟨by decide, by decide⟩
  refine ⟨?_, ?_, ignored⟩
  · rw [restyle other _ restyled (by decide), ignored]
  · have same (pattern : Text) : pattern ∈ exchanged.patterns ↔ pattern ∈ filter.patterns :=
      (List.Perm.swap _ _ []).mem_iff
    rw [rearrange exchanged same, ignored]

end IgnoreFilter

end SnippetSearch
