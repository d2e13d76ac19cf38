import Mathlib.Data.List.Perm.Basic
import SnippetSearch.Proofs.Scope.Descent

/-!
# Comments among the lines above

A line that starts as a comment is never taken for a method, but words in it
are taken for the declaration of a type.  So a comment in front of a line adds
to its scope the name that it seems to declare, and shows exactly if it has
such a name and no method stands below it.
-/

namespace SnippetSearch

/-! ## Joined names -/

namespace Text

/-- With one separator more, each of some pieces is followed by one. -/
theorem join_append_separator (separator : Char) {pieces : List Text} (nonempty : pieces ≠ []) :
    join [separator] pieces ++ [separator] =
      pieces.flatMap fun piece => piece ++ [separator] := by
  induction pieces with
  | nil => exact absurd rfl nonempty
  | cons piece rest ih =>
      cases rest with
      | nil => simp [join]
      | cons next others =>
          rw [List.flatMap_cons, ← ih (List.cons_ne_nil _ _), join, List.intercalate_cons_cons,
            join]
          simp only [List.append_assoc]

/-- Some of several pieces, none of them empty, are joined to a shorter text than all of them. -/
theorem eq_of_join_eq_of_sublist (separator : Char) {chosen pieces : List Text}
    (sublist : chosen.Sublist pieces) (proper : [] ∉ pieces)
    (same : join [separator] chosen = join [separator] pieces) : chosen = pieces := by
  obtain ⟨left, perm⟩ := sublist.exists_perm_append
  have total := (perm.flatMap_right fun piece => piece ++ [separator]).length_eq
  rw [List.flatMap_append, List.length_append] at total
  have nothingLeft : left = [] := by
    by_contra someLeft
    obtain ⟨piece, rest, rfl⟩ := List.exists_cons_of_ne_nil someLeft
    have isPiece : piece ∈ pieces := perm.mem_iff.mpr (List.mem_append_right _ List.mem_cons_self)
    have positive : 0 < piece.length :=
      List.length_pos_of_ne_nil fun empty => proper (empty ▸ isPiece)
    rw [← join_append_separator separator (List.ne_nil_of_mem isPiece), ← same,
      List.flatMap_cons, List.length_append, List.length_append, List.length_append,
      List.length_singleton] at total
    by_cases noneChosen : chosen = []
    · rw [noneChosen, List.flatMap_nil] at total
      change 0 + 1 = 0 + _ at total
      omega
    · rw [← join_append_separator separator noneChosen, List.length_append,
        List.length_singleton] at total
      omega
  rw [nothingLeft, List.append_nil] at perm
  exact sublist.eq_of_length perm.length_eq.symm

end Text

namespace Scope

def commentMarks : List Text := ["//".toList, "/*".toList]

/-- Whether a line, without the blank space at its start, starts as a comment. -/
def isComment (line : Text) : Bool :=
  Text.startsWithAny commentMarks line

/-- The name of a namespace or a type that a line declares or seems to declare, if it has one. -/
def declaredNames (line : Text) : List Text :=
  (declaredName? line).toList.filter fun name => !name.isEmpty

/-- Whether the search upwards ends at a line: it declares a method with a readable name. -/
def endsSearch (line : Text) : Bool :=
  !isDeclaration line && isNamedMethod line

/-! ## One line -/

section Line

variable {line : Text}

/-- Read downwards, a line puts its name below those so far, or its method in their place. -/
theorem descend_eq (names : List Text) (line : Text) :
    descend names line =
      if endsSearch line then [methodName line] else names ++ declaredNames line := by
  rw [endsSearch, declaredNames]
  cases declared : declaredName? line with
  | none =>
      rw [descend_of_not_declared declared, (declaredName?_eq_none_iff line).mp declared,
        Bool.not_false, Bool.true_and, Option.toList_none, List.filter_nil, List.append_nil]
  | some name =>
      have declares : isDeclaration line = true := by
        rw [← Bool.not_eq_false, ← declaredName?_eq_none_iff, declared]
        exact Option.some_ne_none name
      rw [descend_of_declared declared, declares, Bool.not_true, Bool.false_and,
        if_neg Bool.false_ne_true, Option.toList_some, List.filter_singleton]
      cases name.isEmpty with
      | true => exact (List.append_nil names).symm
      | false => rfl

theorem ne_nil_of_mem_declaredNames {name : Text} (member : name ∈ declaredNames line) :
    name ≠ [] := by
  have visible := (List.mem_filter.mp member).2
  rwa [Bool.not_eq_true', ← Bool.not_eq_true, List.isEmpty_iff] at visible

/-- A comment declares no namespace, and it declares a type if it holds one of the keywords. -/
theorem declaredName?_of_isComment (comment : isComment line = true) :
    declaredName? line =
      (typeKeywords.find? fun keyword => line.includes (keyword ++ [' '])).map fun keyword =>
        nameAfter keyword line := by
  have otherStart : ¬ "namespace ".toList.isPrefixOf line = true := by
    intro starts
    obtain ⟨rest, rfl⟩ := List.isPrefixOf_iff_prefix.mp starts
    revert comment
    simp [isComment, Text.startsWithAny, commentMarks]
  rw [declaredName?, if_neg otherStart]

theorem isMethodDeclaration_of_isComment (comment : isComment line = true) :
    isMethodDeclaration line = false := by
  have comment : Text.startsWithAny ["//".toList, "/*".toList] line = true := comment
  rw [isMethodDeclaration, comment, Bool.not_true, Bool.and_false]

theorem endsSearch_of_isComment (comment : isComment line = true) : endsSearch line = false := by
  rw [endsSearch, isNamedMethod, isMethodDeclaration_of_isComment comment, Bool.false_and,
    Bool.and_false]

/-- The search goes on at a comment, with the name of the type that it seems to declare. -/
theorem step_of_isComment (comment : isComment line = true) (parts : List Text) :
    Scan.step ⟨.seekingDeclaration, parts⟩ line =
      ⟨.seekingDeclaration, declaredNames line ++ parts⟩ := by
  rw [Scan.step, declaredNames, isMethodDeclaration_of_isComment comment]
  cases declaredName? line with
  | none => rfl
  | some name =>
      rw [Option.toList_some, List.filter_singleton]
      cases named : name.isEmpty with
      | true => simp [named]
      | false => simp [named]

end Line

/-! ## Comments put in among lines -/

/-- A line above another: one that stands in the file, or a comment that is put in. -/
inductive PlacedLine where
  | kept (line : Text)
  | added (line : Text) (comment : isComment line.trimStart = true)

namespace PlacedLine

def line : PlacedLine → Text
  | .kept line | .added line _ => line

/-- The line, if it stands in the file without the comments. -/
def kept? : PlacedLine → Option Text
  | .kept line => some line
  | .added .. => none

def isAdded : PlacedLine → Bool
  | .kept _ => false
  | .added .. => true

/-- The lines of the file without the comments that are put in. -/
def keptLines (lines : List PlacedLine) : List Text :=
  lines.filterMap kept?

def addedNames : PlacedLine → List Text
  | .kept _ => []
  | .added line _ => declaredNames line.trimStart

/-- The lines from the nearest upwards that no method hides from what stands below them. -/
def inSight (lines : List PlacedLine) : List PlacedLine :=
  lines.reverse.takeWhile fun placed => !endsSearch placed.line.trimStart

theorem keptLines_concat_kept (lines : List PlacedLine) (line : Text) :
    keptLines (lines ++ [.kept line]) = keptLines lines ++ [line] :=
  List.filterMap_append

theorem keptLines_concat_added (lines : List PlacedLine) {line : Text}
    (comment : isComment line.trimStart = true) :
    keptLines (lines ++ [.added line comment]) = keptLines lines :=
  List.filterMap_append.trans (List.append_nil _)

theorem length_eq_keptLines_add (lines : List PlacedLine) :
    lines.length = (keptLines lines).length + lines.countP isAdded := by
  induction lines with
  | nil => rfl
  | cons placed rest ih =>
      cases placed with
      | kept line =>
          rw [List.countP_cons_of_neg Bool.false_ne_true]
          change rest.length + 1 = (keptLines rest).length + 1 + _
          omega
      | added line comment =>
          rw [List.countP_cons_of_pos rfl]
          change rest.length + 1 = (keptLines rest).length + _
          omega

theorem inSight_concat (lines : List PlacedLine) (placed : PlacedLine) :
    inSight (lines ++ [placed]) =
      if endsSearch placed.line.trimStart then [] else placed :: inSight lines := by
  rw [inSight, List.reverse_concat, List.takeWhile_cons, ← inSight]
  cases endsSearch placed.line.trimStart <;> rfl

def names (lines : List Text) : List Text :=
  (lines.map Text.trimStart).foldl descend []

theorem names_concat (lines : List Text) (line : Text) :
    names (lines ++ [line]) =
      if endsSearch line.trimStart then [methodName line.trimStart]
      else names lines ++ declaredNames line.trimStart := by
  rw [names, List.map_append, List.foldl_append, ← descend_eq]
  rfl

theorem nil_not_mem_names (lines : List Text) : [] ∉ names lines := by
  induction lines using List.reverseRecOn with
  | nil => exact List.not_mem_nil
  | append_singleton lines line ih =>
      rw [names_concat]
      split
      · next ends =>
          rw [endsSearch, isNamedMethod, Bool.and_eq_true, Bool.and_eq_true,
            Bool.not_eq_true' (methodName _).isEmpty, ← Bool.not_eq_true, List.isEmpty_iff] at ends
          rw [List.mem_singleton]
          exact fun empty => ends.2.2 empty.symm
      · rw [List.mem_append, not_or]
        exact ⟨ih, fun member => ne_nil_of_mem_declaredNames member rfl⟩

theorem names_concat_added (lines : List PlacedLine) {line : Text}
    (comment : isComment line.trimStart = true) :
    names ((lines ++ [PlacedLine.added line comment]).map PlacedLine.line) =
      names (lines.map PlacedLine.line) ++ declaredNames line.trimStart := by
  rw [List.map_append, List.map_singleton, PlacedLine.line, names_concat,
    endsSearch_of_isComment comment, if_neg Bool.false_ne_true]

theorem names_keptLines_sublist (lines : List PlacedLine) :
    (names (keptLines lines)).Sublist (names (lines.map line)) := by
  induction lines using List.reverseRecOn with
  | nil => exact .slnil
  | append_singleton lines placed ih =>
      cases placed with
      | kept line =>
          rw [keptLines_concat_kept, List.map_append, List.map_singleton, PlacedLine.line,
            names_concat, names_concat]
          split
          · exact .refl _
          · exact ih.append_right _
      | added line comment =>
          rw [keptLines_concat_added, names_concat_added]
          exact ih.trans (List.sublist_append_left _ _)

/-- The names stay the same exactly if no comment in sight seems to declare a type. -/
theorem names_eq_iff (lines : List PlacedLine) :
    names (lines.map line) = names (keptLines lines) ↔
      ∀ placed ∈ inSight lines, placed.addedNames = [] := by
  induction lines using List.reverseRecOn with
  | nil => simp [inSight, keptLines]
  | append_singleton lines placed ih =>
      rw [inSight_concat]
      cases placed with
      | kept line =>
          rw [keptLines_concat_kept, List.map_append, List.map_singleton, PlacedLine.line,
            names_concat, names_concat]
          split
          · simp
          · rw [List.append_left_inj, ih, List.forall_mem_cons]
            exact (and_iff_right rfl).symm
      | added line comment =>
          rw [keptLines_concat_added, names_concat_added, PlacedLine.line,
            endsSearch_of_isComment comment, if_neg Bool.false_ne_true, List.forall_mem_cons, ← ih]
          constructor
          · intro same
            have fewer := (names_keptLines_sublist lines).length_le
            rw [← same, List.length_append] at fewer
            have nothing : declaredNames line.trimStart = [] :=
              List.length_eq_zero_iff.mp (by omega)
            rw [nothing, List.append_nil] at same
            exact ⟨nothing, same⟩
          · rintro ⟨nothing, same⟩
            rw [← same]
            exact (congrArg (_ ++ ·) nothing).trans (List.append_nil _)

end PlacedLine

open PlacedLine

/-! ## Scopes with comments and without -/

theorem ofLines_eq_join_names (lines : List Text) (lineNumber : Int) :
    ofLines lines lineNumber = Text.join ['.'] (names (linesAbove lines lineNumber)) := by
  rw [ofLines, Scan.start, Scan.parts_upwards, List.map_reverse, Scan.parts_foldl_step_reverse,
    List.append_nil, names]

/-- With further lines put in above a line, the lines above it are these and those. -/
theorem linesAbove_of_placed {lines : List Text} {lineNumber : Int} (positive : 1 ≤ lineNumber)
    {above : List PlacedLine} (kept : keptLines above = linesAbove lines lineNumber) :
    linesAbove (above.map line ++ lines.drop (lineNumber - 1).toNat)
        (lineNumber + above.countP isAdded) =
      above.map line := by
  have counted := length_eq_keptLines_add above
  rw [kept, linesAbove, List.length_take] at counted
  rw [linesAbove]
  by_cases within : (lineNumber - 1).toNat ≤ lines.length
  · refine List.take_left' ?_
    rw [List.length_map]
    omega
  · rw [List.drop_eq_nil_of_le (by omega), List.append_nil]
    refine List.take_of_length_le ?_
    rw [List.length_map]
    omega

/--
Comments that are put in above a line change its scope exactly if one of them, with no
method below it, seems to declare a type.  For a comment is passed over by the search for
methods, but not by the search for types: the search goes on at it, with the name of the
type that the comment seems to declare, which is none if it holds no keyword of types
and a space.
-/
theorem comments_add_what_they_mention (lines : List Text) (lineNumber : Int)
    (above : List PlacedLine) (positive : 1 ≤ lineNumber)
    (kept : keptLines above = linesAbove lines lineNumber) :
    let longer := above.map line ++ lines.drop (lineNumber - 1).toNat
    let later := lineNumber + above.countP isAdded
    (ofLines longer later = ofLines lines lineNumber ↔
      ∀ placed ∈ inSight above, placed.addedNames = []) ∧
    ∀ (line : Text) (parts : List Text), isComment line = true →
      Scan.step ⟨.seekingDeclaration, parts⟩ line =
        ⟨.seekingDeclaration, declaredNames line ++ parts⟩ ∧
      ((∀ keyword ∈ typeKeywords, line.includes (keyword ++ [' ']) = false) →
        declaredNames line = []) := by
  intro longer later
  refine ⟨?_, fun line parts comment => ⟨step_of_isComment comment parts, fun absent => ?_⟩⟩
  · rw [ofLines_eq_join_names, ofLines_eq_join_names, linesAbove_of_placed positive kept, ← kept,
      ← names_eq_iff]
    constructor
    · intro same
      exact (Text.eq_of_join_eq_of_sublist '.' (names_keptLines_sublist above)
        (nil_not_mem_names _) same.symm).symm
    · exact congrArg (Text.join ['.'])
  · have noKeyword :
        typeKeywords.find? (fun keyword => line.includes (keyword ++ [' '])) = none := by
      refine List.find?_eq_none.mpr fun keyword member => ?_
      rw [absent keyword member]
      exact Bool.false_ne_true
    rw [declaredNames, declaredName?_of_isComment comment, noKeyword]
    rfl

/-- A comment that names no type leaves the scope of the line below it as it was. -/
theorem comments_add_what_they_mention_note :
    let declaration := "namespace N".toList
    let note := "// a note".toList
    let statement := "x = 1;".toList
    ofLines [declaration, note, statement] 3 = ofLines [declaration, statement] 2 ∧
      ofLines [declaration, statement] 2 = "N".toList := by
  intro declaration note statement
  have unchanged := comments_add_what_they_mention [declaration, statement] 2
    [.kept declaration, .added note (by decide)] (by decide) (by decide)
  exact ⟨unchanged.1.mpr (by decide), by decide⟩

/-- A comment about a class gives the line below it the name of the class as its scope. -/
theorem comment_about_class_shows :
    let comment := "// see class Widget for details".toList
    isComment comment = true ∧
      ofLines ["x = 1;".toList] 1 = [] ∧
      ofLines [comment, "x = 1;".toList] 2 = "Widget".toList ∧
      Scan.step Scan.start comment = ⟨.seekingDeclaration, ["Widget".toList]⟩ := by
  decide

end Scope

end SnippetSearch
