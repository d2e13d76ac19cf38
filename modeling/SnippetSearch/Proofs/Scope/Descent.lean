import Mathlib.Data.List.Induction
import SnippetSearch.Scope

/-!
# Scopes read downwards

The search for a scope goes upwards and stops at the first method.  The same
names come out of reading the lines downwards to the very end: a declaration
goes below the names so far, and a method takes the place of all of them.
-/

namespace SnippetSearch

namespace Scope

/-! ## Kinds of lines -/

/-- Whether a line declares a namespace or a type, be it without a readable name. -/
def isDeclaration (line : Text) : Bool :=
  "namespace ".toList.isPrefixOf line ||
    typeKeywords.any fun keyword => line.includes (keyword ++ [' '])

def isNamedMethod (line : Text) : Bool :=
  isMethodDeclaration line && !(methodName line).isEmpty

/-- The names around what follows a line, given the names around the line. -/
def descend (names : List Text) (line : Text) : List Text :=
  if isDeclaration line then
    let name := (declaredName? line).getD []
    if name.isEmpty then names else names ++ [name]
  else if isNamedMethod line then
    [methodName line]
  else
    names

theorem declaredName?_eq_none_iff (line : Text) :
    declaredName? line = none ↔ isDeclaration line = false := by
  rw [declaredName?, isDeclaration, Bool.or_eq_false_iff]
  by_cases starts : "namespace ".toList.isPrefixOf line = true
  · rw [if_pos starts]
    constructor
    · intro absent
      cases absent
    · rintro ⟨startsNot, _⟩
      exact absurd starts (Bool.eq_false_iff.mp startsNot)
  · rw [if_neg starts, Option.map_eq_none_iff, List.find?_eq_none, List.any_eq_false]
    exact ⟨fun absent => ⟨Bool.eq_false_iff.mpr starts, absent⟩, fun absent => absent.2⟩

theorem descend_of_declared {line name : Text} (declared : declaredName? line = some name)
    (names : List Text) :
    descend names line = if name.isEmpty then names else names ++ [name] := by
  have declares : isDeclaration line = true := by
    rw [← Bool.not_eq_false, ← declaredName?_eq_none_iff, declared]
    exact Option.some_ne_none name
  rw [descend, if_pos declares, declared]
  rfl

theorem descend_of_not_declared {line : Text} (undeclared : declaredName? line = none)
    (names : List Text) :
    descend names line = if isNamedMethod line then [methodName line] else names := by
  rw [declaredName?_eq_none_iff] at undeclared
  rw [descend, if_neg (Bool.eq_false_iff.mp undeclared)]

/-! ## The search upwards -/

namespace Scan

theorem step_of_stopped {scan : Scan} (stopped : scan.state ≠ .seekingDeclaration)
    (line : Text) : scan.step line = { scan with state := .done } := by
  rw [step]
  cases state : scan.state with
  | seekingDeclaration => exact absurd state stopped
  | foundMethod => rfl
  | done => rfl

/-- A search that is over finds no more names. -/
theorem parts_foldl_step_of_stopped {scan : Scan} (stopped : scan.state ≠ .seekingDeclaration)
    (lines : List Text) : (lines.foldl step scan).parts = scan.parts := by
  induction lines generalizing scan with
  | nil => rfl
  | cons line rest ih =>
      rw [List.foldl_cons, step_of_stopped stopped, ih]
      exact ScanState.noConfusion

theorem parts_upwards (parts : List Text) (lines : List Text) :
    (upwards ⟨.seekingDeclaration, parts⟩ lines).parts =
      ((lines.map Text.trimStart).foldl step ⟨.seekingDeclaration, parts⟩).parts := by
  induction lines generalizing parts with
  | nil => rfl
  | cons line above ih =>
      rw [upwards, List.map_cons, List.foldl_cons]
      rcases next : step ⟨.seekingDeclaration, parts⟩ line.trimStart with ⟨state, longer⟩
      dsimp only
      split
      · next seeking =>
          subst seeking
          exact ih longer
      · next stopped => exact (parts_foldl_step_of_stopped stopped _).symm

/--
One line of the search: either it goes on, having put in front what the line
adds below the names above it, or the line replaces whatever is above it.
-/
theorem step_cases (parts : List Text) (line : Text) :
    (∃ longer, step ⟨.seekingDeclaration, parts⟩ line = ⟨.seekingDeclaration, longer⟩ ∧
        ∀ names, descend names line ++ parts = names ++ longer) ∨
      (∃ longer, step ⟨.seekingDeclaration, parts⟩ line = ⟨.foundMethod, longer⟩ ∧
        ∀ names, descend names line ++ parts = longer) := by
  cases declared : declaredName? line with
  | some name =>
      left
      simp only [step, declared, descend_of_declared declared]
      split
      · exact ⟨parts, rfl, fun _ => rfl⟩
      · exact ⟨name :: parts, rfl, fun names => List.append_assoc names [name] parts⟩
  | none =>
      simp only [step, declared, descend_of_not_declared declared, ← isNamedMethod.eq_def]
      split
      · exact .inr ⟨methodName line :: parts, rfl, fun _ => rfl⟩
      · exact .inl ⟨parts, rfl, fun _ => rfl⟩

theorem parts_foldl_step_reverse (parts : List Text) (lines : List Text) :
    (lines.reverse.foldl step ⟨.seekingDeclaration, parts⟩).parts =
      lines.foldl descend [] ++ parts := by
  -- The last line is the first one met, so the names found below it are generalised.
  induction lines using List.reverseRecOn generalizing parts with
  | nil => rfl
  | append_singleton above line ih =>
      rw [List.reverse_concat, List.foldl_cons, List.foldl_append, List.foldl_cons, List.foldl_nil]
      rcases step_cases parts line with ⟨longer, next, below⟩ | ⟨longer, next, replaced⟩
      · rw [next, ih, below]
      · rw [next, parts_foldl_step_of_stopped ScanState.noConfusion, replaced]

end Scan

/-! ## The scope of a line -/

theorem foldl_descend_of_namedMethod {method : Text} (undeclared : isDeclaration method = false)
    (named : isNamedMethod method = true) (before following : List Text) :
    (before ++ method :: following).foldl descend [] =
      following.foldl descend [methodName method] := by
  rw [List.foldl_append, List.foldl_cons,
    descend_of_not_declared ((declaredName?_eq_none_iff method).mpr undeclared), if_pos named]

/--
The scope of a line is read off the lines above it, downwards, and searching them
all upwards gives the same names.  So neither the line itself nor what follows it
has any influence, nor does anything above a method with a readable name.
-/
theorem ofLines_eq_join_foldl_descend (lines : List Text) (lineNumber : Int) :
    let above := (lines.take (min (lineNumber - 1) lines.length).toNat).map Text.trimStart
    let names := above.foldl descend []
    ofLines lines lineNumber = Text.join ['.'] names ∧
      (above.reverse.foldl Scan.step Scan.start).parts = names ∧
      (∀ other : List Text,
        other.take (lineNumber - 1).toNat = lines.take (lineNumber - 1).toNat →
          ofLines other lineNumber = ofLines lines lineNumber) ∧
      ∀ before method following, above = before ++ method :: following →
        isDeclaration method = false → isNamedMethod method = true →
          ofLines lines lineNumber =
            Text.join ['.'] (following.foldl descend [methodName method]) := by
  intro above names
  have counted : lines.take (min (lineNumber - 1) lines.length).toNat =
      linesAbove lines lineNumber := by
    rw [linesAbove, List.take_eq_take_iff]
    omega
  have read : (above.reverse.foldl Scan.step Scan.start).parts = names := by
    rw [Scan.start, Scan.parts_foldl_step_reverse, List.append_nil]
  have scope_eq : ofLines lines lineNumber = Text.join ['.'] names := by
    rw [ofLines, Scan.start, Scan.parts_upwards, List.map_reverse, ← counted]
    exact congrArg (Text.join ['.']) read
  refine ⟨scope_eq, read, fun other same => ?_, fun before method following split undeclared
    named => ?_⟩
  · rw [ofLines, linesAbove, same]
    rfl
  · rw [scope_eq, ← foldl_descend_of_namedMethod undeclared named before following, ← split]

example :
    let lines := ["namespace N".toList, "  class A".toList, "    void M()".toList]
    ofLines lines 3 = "N.A".toList ∧ ofLines lines 4 = "M".toList := by
  decide

end Scope

end SnippetSearch
