import SnippetSearch.IgnoreFilter
import SnippetSearch.Proofs.Glob.Language
import SnippetSearch.Proofs.Text.Case
import SnippetSearch.Proofs.Text.Pieces

/-!
# Patterns for folders and for file names

A name between slashes with two stars on either side stands for a folder of a
path, and a name behind two stars, a slash and a star for the end of its last
component.  A single star holds no separator and the slash of a pattern stands
for a separator alone, so nothing else matches; the standard patterns therefore
leave out what lies in two folders and what has one of four endings.
-/

namespace SnippetSearch

/-! ## Components of a path -/

namespace IgnoreFilter

def isSeparator (character : Char) : Bool :=
  character == '/' || character == '\\'

/-- The components of a path; one that starts with a separator has an empty first component. -/
def components (path : Text) : List Text :=
  path.splitOnP isSeparator

theorem components_ne_nil (path : Text) : components path ≠ [] :=
  List.splitOnP_ne_nil isSeparator path

def folders (path : Text) : List Text :=
  (components path).dropLast

def fileName (path : Text) : Text :=
  (components path).getLast (components_ne_nil path)

def StartsAtRoot (path : Text) : Prop :=
  ∃ first ∈ path.head?, isSeparator first = true

instance : DecidablePred StartsAtRoot := fun path =>
  decidable_of_iff (path.head?.any isSeparator = true) (Option.any_eq_true isSeparator _)

theorem folders_concat_fileName (path : Text) : folders path ++ [fileName path] = components path :=
  List.dropLast_concat_getLast (components_ne_nil path)

/-- A path that starts with a separator has an empty first component and at least one more. -/
theorem StartsAtRoot.exists_components_eq {path : Text} (rooted : StartsAtRoot path) :
    ∃ rest, components path = [] :: components rest := by
  obtain ⟨first, isFirst, separates⟩ := rooted
  obtain ⟨rest, rfl⟩ := List.head?_eq_some_iff.mp isFirst
  refine ⟨rest, ?_⟩
  rw [components, components, List.splitOnP_cons_eq_if_modifyHead, if_pos separates]

theorem withSlashes_cons (character : Char) (rest : Text) :
    withSlashes (character :: rest) =
      (if character = '\\' then '/' else character) :: withSlashes rest := rfl

theorem splitOn_withSlashes (path : Text) :
    (withSlashes path).splitOn '/' = components path := by
  induction path with
  | nil => rfl
  | cons character rest ih =>
      rw [components] at ih ⊢
      rw [withSlashes_cons, List.splitOn_cons_eq_if_modifyHead, ih,
        List.splitOnP_cons_eq_if_modifyHead]
      by_cases backslash : character = '\\'
      · subst backslash
        rfl
      · rw [if_neg backslash, isSeparator, beq_eq_false_iff_ne.mpr backslash, Bool.or_false]

theorem withSlashes_of_not_mem {text : Text} (plain : '\\' ∉ text) : withSlashes text = text := by
  refine (List.map_congr_left fun character held => if_neg ?_).trans (List.map_id text)
  rintro rfl
  exact plain held

theorem not_mem_withSlashes {text : Text} {character : Char} (other : character ≠ '/')
    (plain : character ∉ text) : character ∉ withSlashes text := by
  intro held
  obtain ⟨original, inText, replaced⟩ := List.mem_map.mp held
  split at replaced
  · exact other replaced.symm
  · exact plain (replaced ▸ inText)

end IgnoreFilter

/-! ## Two shapes of patterns -/

namespace Glob

open Text

theorem tokens_append {name : Text} (plain : ∀ character ∈ name, character ≠ '*' ∧ character ≠ '?')
    (rest : Text) : tokens (name ++ rest) = name.map .letter ++ tokens rest := by
  induction name with
  | nil => rfl
  | cons character more ih =>
      obtain ⟨⟨notStar, notMark⟩, plain⟩ := List.forall_mem_cons.mp plain
      rw [List.cons_append, tokens, ih plain]
      · rfl
      · exact fun _ star => absurd star notStar
      · exact notStar
      · exact notMark

theorem covers_anyRun_iff {text : Text} (oneLine : '\n' ∉ text) (parts : List Token) :
    covers (.anyRun :: parts) text = true ↔
      ∃ before rest, text = before ++ rest ∧ covers parts rest = true := by
  rw [covers_cons_iff]
  constructor
  · rintro ⟨before, rest, rfl, _, covered⟩
    exact ⟨before, rest, rfl, covered⟩
  · rintro ⟨before, rest, rfl, covered⟩
    exact ⟨before, rest, rfl, fun held => oneLine (List.mem_append_left rest held), covered⟩

/-- The slash of a pattern takes a slash and nothing else. -/
theorem covers_slash_iff (parts : List Token) (text : Text) :
    covers (.letter '/' :: parts) text = true ↔
      ∃ rest, text = '/' :: rest ∧ covers parts rest = true := by
  rw [covers_cons_iff]
  constructor
  · rintro ⟨_, rest, rfl, ⟨character, rfl, same⟩, covered⟩
    rw [sameLetter_comm] at same
    obtain rfl := eq_of_sameLetter same (by decide)
    exact ⟨rest, rfl, covered⟩
  · rintro ⟨rest, rfl, covered⟩
    exact ⟨['/'], rest, rfl, ⟨'/', rfl, sameLetter_refl '/'⟩, covered⟩

theorem covers_letters_iff (name : Text) (parts : List Token) (text : Text) :
    covers (name.map .letter ++ parts) text = true ↔
      ∃ piece rest, text = piece ++ rest ∧ SameLetters name piece ∧ covers parts rest = true := by
  induction name generalizing text with
  | nil =>
      constructor
      · intro covered
        exact ⟨[], text, rfl, .nil, covered⟩
      · rintro ⟨_, rest, rfl, (_ | _), covered⟩
        exact covered
  | cons expected more ih =>
      rw [List.map_cons, List.cons_append, covers_cons_iff]
      constructor
      · rintro ⟨_, remaining, rfl, ⟨character, rfl, same⟩, covered⟩
        obtain ⟨piece, rest, rfl, others, covered⟩ := (ih remaining).mp covered
        exact ⟨character :: piece, rest, rfl, .cons same others, covered⟩
      · rintro ⟨_, rest, rfl, same, covered⟩
        obtain ⟨character, piece, letter, others, rfl⟩ := List.forall₂_cons_left_iff.mp same
        exact ⟨[character], piece ++ rest, rfl, ⟨character, rfl, letter⟩,
          (ih _).mpr ⟨piece, rest, rfl, others, covered⟩⟩

theorem covers_nil_iff {text : Text} (oneLine : '\n' ∉ text) :
    covers [] text = true ↔ text = [] := by
  rw [covers, atEnd_iff]
  refine or_iff_left ?_
  rintro rfl
  exact oneLine List.mem_cons_self

variable {name text : Text} (plain : ∀ character ∈ name, character ≠ '*' ∧ character ≠ '?')
  (oneLine : '\n' ∉ text)

include plain oneLine

/-- A name between slashes matches where it stands in the text with slashes around it. -/
theorem matchesText_folder_iff :
    matchesText ("**/".toList ++ name ++ "/**".toList) text = true ↔
      ∃ before folder behind, text = before ++ '/' :: (folder ++ '/' :: behind) ∧
        SameLetters name folder := by
  have parts : tokens ("**/".toList ++ name ++ "/**".toList) =
      .anyRun :: .letter '/' :: (name.map .letter ++ [.letter '/', .anyRun]) := by
    have read := tokens_append plain "/**".toList
    rw [List.append_assoc]
    exact congrArg (fun parts => Token.anyRun :: .letter '/' :: parts) read
  rw [matchesText, parts, covers_anyRun_iff oneLine]
  simp only [covers_slash_iff, covers_letters_iff]
  constructor
  · rintro ⟨before, _, rfl, _, rfl, folder, _, rfl, same, behind, rfl, _⟩
    exact ⟨before, folder, behind, rfl, same⟩
  · rintro ⟨before, folder, behind, rfl, same⟩
    refine ⟨before, _, rfl, _, rfl, folder, _, rfl, same, behind, rfl, ?_⟩
    have rest : '\n' ∉ behind := fun held => oneLine (by simp [held])
    exact (covers_anyRun_iff rest []).mpr ⟨behind, [], (List.append_nil _).symm, rfl⟩

theorem matchesText_ending_iff :
    matchesText ("**/*".toList ++ name) text = true ↔
      ∃ before start stop, text = before ++ '/' :: (start ++ stop) ∧
        ('/' ∉ start ∧ '\\' ∉ start) ∧ SameLetters name stop := by
  have parts : tokens ("**/*".toList ++ name) =
      .anyRun :: .letter '/' :: .segmentRun :: (name.map .letter ++ []) := by
    have read := tokens_append plain []
    rw [List.append_nil, tokens] at read
    have single : tokens ('*' :: name) = .segmentRun :: tokens name := by
      rw [tokens]
      rintro rest rfl
      exact (plain '*' List.mem_cons_self).1 rfl
    rw [← read, ← single]
    rfl
  rw [matchesText, parts, covers_anyRun_iff oneLine]
  simp only [covers_slash_iff, covers_cons_iff .segmentRun, covers_letters_iff]
  constructor
  · rintro ⟨before, _, rfl, _, rfl, start, _, rfl, inSegment, stop, rest, rfl, same, covered⟩
    have clear : '\n' ∉ rest := fun held => oneLine (by simp [held])
    obtain rfl := (covers_nil_iff clear).mp covered
    rw [List.append_nil]
    exact ⟨before, start, stop, rfl, inSegment, same⟩
  · rintro ⟨before, start, stop, rfl, inSegment, same⟩
    exact ⟨before, _, rfl, _, rfl, start, _, rfl, inSegment, stop, [],
      (List.append_nil _).symm, same, rfl⟩

end Glob

/-! ## Folders and endings -/

namespace IgnoreFilter

open Text

/-- A name of one component without wildcards. -/
structure IsPlainName (name : Text) : Prop where
  nonempty : name ≠ []
  plain : ∀ character ∈ name, character ∉ ['/', '\\', '*', '?']

instance : DecidablePred IsPlainName := fun name =>
  decidable_of_iff
    (name ≠ [] ∧ name.all (fun character => decide (character ∉ ['/', '\\', '*', '?'])) = true) <| by
      simp only [List.all_eq_true, decide_eq_true_iff]
      exact ⟨fun ⟨nonempty, plain⟩ => ⟨nonempty, plain⟩,
        fun ⟨nonempty, plain⟩ => ⟨nonempty, plain⟩⟩

namespace IsPlainName

variable {name : Text} (isPlain : IsPlainName name)

include isPlain

theorem not_mem {character : Char} (special : character ∈ ['/', '\\', '*', '?']) :
    character ∉ name :=
  fun held => isPlain.plain character held special

theorem ne_wildcards : ∀ character ∈ name, character ≠ '*' ∧ character ≠ '?' := by
  intro character held
  constructor
  · rintro rfl
    exact isPlain.not_mem (by simp) held
  · rintro rfl
    exact isPlain.not_mem (by simp) held

theorem of_sameLetters {other : Text} (same : SameLetters name other) :
    other ≠ [] ∧ '/' ∉ other := by
  constructor
  · rintro rfl
    exact isPlain.nonempty (List.forall₂_nil_right_iff.mp same)
  · exact fun held => isPlain.not_mem (by simp) (same.mem_of_mem (by decide) held)

end IsPlainName

section Names

variable {path name : Text} (rooted : StartsAtRoot path) (isPlain : IsPlainName name)

include rooted isPlain

/-- The folders of a path that starts at the root are what stands between two of its separators. -/
theorem exists_folder_iff :
    (∃ before folder behind, withSlashes path = before ++ '/' :: (folder ++ '/' :: behind) ∧
        SameLetters name folder) ↔
      ∃ folder ∈ folders path, SameLetters name folder := by
  have pieces := splitOn_withSlashes path
  rw [← folders_concat_fileName] at pieces
  constructor
  · rintro ⟨before, folder, behind, text_eq, same⟩
    refine ⟨folder, ?_, same⟩
    rw [folders, ← splitOn_withSlashes, text_eq, List.splitOn_append_cons_self,
      List.splitOn_append_cons_self_of_not_mem (isPlain.of_sameLetters same).2,
      List.dropLast_append_cons, List.dropLast_cons_of_ne_nil (List.splitOn_ne_nil '/' behind)]
    exact List.mem_append_right _ List.mem_cons_self
  · rintro ⟨folder, isFolder, same⟩
    obtain ⟨front, more, split⟩ := List.append_of_mem isFolder
    rw [split, List.append_assoc, List.cons_append] at pieces
    -- The first component is empty, so the folder is not the first.
    have someFront : front ≠ [] := by
      rintro rfl
      obtain ⟨rest, rootFirst⟩ := rooted.exists_components_eq
      rw [splitOn_withSlashes, rootFirst] at pieces
      exact (isPlain.of_sameLetters same).1 (List.cons.inj pieces).1.symm
    have text_eq := eq_append_of_splitOn pieces someFront (List.cons_ne_nil _ _)
    rw [List.intercalate_cons_of_ne_nil (by simp), List.append_assoc,
      List.singleton_append] at text_eq
    exact ⟨_, folder, _, text_eq, same⟩

/-- The last component of a path that starts at the root stands behind its last separator. -/
theorem exists_ending_iff :
    (∃ before start stop, withSlashes path = before ++ '/' :: (start ++ stop) ∧
        ('/' ∉ start ∧ '\\' ∉ start) ∧ SameLetters name stop) ↔
      EndsLike name (fileName path) := by
  have pieces := splitOn_withSlashes path
  rw [← folders_concat_fileName] at pieces
  constructor
  · rintro ⟨before, start, stop, text_eq, ⟨noSlash, _⟩, same⟩
    refine ⟨start, stop, ?_, same⟩
    have oneComponent : '/' ∉ start ++ stop := by
      rw [List.mem_append, not_or]
      exact ⟨noSlash, (isPlain.of_sameLetters same).2⟩
    rw [text_eq, List.splitOn_append_cons_self, List.splitOn_eq_singleton oneComponent] at pieces
    exact (List.append_singleton_inj.mp pieces).2.symm
  · rintro ⟨start, stop, name_eq, same⟩
    have someFolder : folders path ≠ [] := by
      obtain ⟨rest, rootFirst⟩ := rooted.exists_components_eq
      rw [folders, rootFirst, List.dropLast_cons_of_ne_nil (components_ne_nil rest)]
      exact List.cons_ne_nil _ _
    have text_eq := eq_append_of_splitOn pieces someFolder (List.cons_ne_nil _ _)
    rw [List.intercalate_singleton, name_eq] at text_eq
    have inName : fileName path ∈ components path := List.getLast_mem _
    have separators (character : Char) (held : character ∈ start) :
        isSeparator character = false := by
      refine not_of_mem_splitOnP inName ?_
      rw [name_eq]
      exact List.mem_append_left stop held
    refine ⟨_, start, stop, text_eq, ⟨fun held => ?_, fun held => ?_⟩, same⟩
    · exact absurd (separators '/' held) (by decide)
    · exact absurd (separators '\\' held) (by decide)

end Names

/-- One pattern leaves out the same, whichever of the two lists holds it. -/
theorem ignores_single (pattern path : Text) :
    ignores ⟨[pattern], []⟩ path = patternIgnores pattern path ∧
      ignores ⟨[], [pattern]⟩ path = patternIgnores pattern path :=
  ⟨Bool.or_false _, Bool.or_false _⟩

theorem patternIgnores_of_slash {pattern : Text} (forward : '\\' ∉ pattern)
    (slash : '/' ∈ pattern) (path : Text) :
    patternIgnores pattern path = Glob.matchesText pattern (withSlashes path) := by
  rw [patternIgnores, withSlashes_of_not_mem forward]
  have contained : pattern.contains '/' = true := List.contains_iff_mem.mpr slash
  rw [contained, Bool.not_true, Bool.false_and, Bool.or_false]

section Paths

variable {path : Text} (rooted : StartsAtRoot path) (oneLine : '\n' ∉ path)

include rooted oneLine

theorem patternIgnores_folder_iff {name : Text} (isPlain : IsPlainName name) :
    patternIgnores ("**/".toList ++ name ++ "/**".toList) path = true ↔
      ∃ folder ∈ folders path, SameLetters name folder := by
  have forward : '\\' ∉ "**/".toList ++ name ++ "/**".toList := by
    have noBackslash : '\\' ∉ name := isPlain.not_mem (by simp)
    simpa using noBackslash
  rw [patternIgnores_of_slash forward (by simp),
    Glob.matchesText_folder_iff isPlain.ne_wildcards (not_mem_withSlashes (by decide) oneLine),
    exists_folder_iff rooted isPlain]

/-- The pattern for an ending leaves out the paths whose last component ends like that. -/
theorem patternIgnores_ending_iff {name : Text} (isPlain : IsPlainName name) :
    patternIgnores ("**/*".toList ++ name) path = true ↔ EndsLike name (fileName path) := by
  have forward : '\\' ∉ "**/*".toList ++ name := by
    have noBackslash : '\\' ∉ name := isPlain.not_mem (by simp)
    simpa using noBackslash
  rw [patternIgnores_of_slash forward (by simp),
    Glob.matchesText_ending_iff isPlain.ne_wildcards (not_mem_withSlashes (by decide) oneLine),
    exists_ending_iff rooted isPlain]

end Paths

/--
What the standard patterns leave out.  A path of one line that starts at the root is
left out exactly if one of its folders is named `obj` or `bin` up to case, or if its
last component has one of four endings up to case.  In the same way any name without
separators and wildcards can be made a pattern for folders or for endings.
-/
theorem standard_patterns_exclude {path : Text} (rooted : StartsAtRoot path)
    (oneLine : '\n' ∉ path) :
    ((withStandard []).ignores path = true ↔
      (∃ folder ∈ folders path,
        SameLetters "obj".toList folder ∨ SameLetters "bin".toList folder) ∨
      ∃ ending ∈ [".generated.cs".toList, ".designer.cs".toList, ".g.cs".toList,
        ".AssemblyInfo.cs".toList], EndsLike ending (fileName path)) ∧
    ∀ name, IsPlainName name →
      ((⟨[], ["**/".toList ++ name ++ "/**".toList]⟩ : IgnoreFilter).ignores path = true ↔
        ∃ folder ∈ folders path, SameLetters name folder) ∧
      ((⟨[], ["**/*".toList ++ name]⟩ : IgnoreFilter).ignores path = true ↔
        EndsLike name (fileName path)) := by
  have folderPattern (name : Text) (isPlain : IsPlainName name) :=
    patternIgnores_folder_iff rooted oneLine isPlain
  have endingPattern (name : Text) (isPlain : IsPlainName name) :=
    patternIgnores_ending_iff rooted oneLine isPlain
  constructor
  · have standard : standardPatterns =
        ["**/".toList ++ "obj".toList ++ "/**".toList,
         "**/".toList ++ "bin".toList ++ "/**".toList,
         "**/*".toList ++ ".generated.cs".toList, "**/*".toList ++ ".designer.cs".toList,
         "**/*".toList ++ ".g.cs".toList, "**/*".toList ++ ".AssemblyInfo.cs".toList] := rfl
    simp only [ignores, patterns, withStandard, standard, List.append_nil, List.any_cons,
      List.any_nil, Bool.or_false, Bool.or_eq_true,
      folderPattern "obj".toList (by decide),
      folderPattern "bin".toList (by decide),
      endingPattern ".generated.cs".toList (by decide),
      endingPattern ".designer.cs".toList (by decide),
      endingPattern ".g.cs".toList (by decide),
      endingPattern ".AssemblyInfo.cs".toList (by decide)]
    simp only [and_or_left, exists_or, List.mem_cons, List.not_mem_nil, or_false, or_and_right,
      exists_eq_left, or_assoc]
  · intro name isPlain
    simp only [ignores, patterns, List.nil_append, List.any_cons, List.any_nil, Bool.or_false]
    exact ⟨folderPattern name isPlain, endingPattern name isPlain⟩

/-- A folder right under the root, and an ending behind a backslash, both in capitals. -/
theorem standard_patterns_exclude_capitals :
    StartsAtRoot "/BIN/Objects.cs".toList ∧ '\n' ∉ "/BIN/Objects.cs".toList ∧
      (withStandard []).ignores "/BIN/Objects.cs".toList = true ∧
      (withStandard []).ignores "/objects\\Obj.G.CS".toList = true := by
  have rooted : StartsAtRoot "/BIN/Objects.cs".toList := by decide
  have oneLine : '\n' ∉ "/BIN/Objects.cs".toList := by decide
  refine ⟨rooted, oneLine, ?_, ?_⟩
  · refine (standard_patterns_exclude rooted oneLine).1.mpr (.inl ?_)
    exact ⟨"BIN".toList, by decide, .inr (by decide)⟩
  · refine (standard_patterns_exclude (by decide) (by decide)).1.mpr (.inr ?_)
    exact ⟨".g.cs".toList, by decide, "Obj".toList, ".G.CS".toList, by decide, by decide⟩

example : (withStandard []).ignores "/objects/obj".toList = false := by decide +kernel

end IgnoreFilter

end SnippetSearch
