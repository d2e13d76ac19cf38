import Mathlib.Data.List.Forall2
import SnippetSearch.Proofs.Text.Lines
import SnippetSearch.Proofs.Text.Trimming
import SnippetSearch.Settings

/-!
# Patterns of files to leave out

The patterns are given as a list, or as the pieces of a variable between commas.
Both ways give the same patterns: those of the list that are not blank, in their
order, without the blank space around them.
-/

namespace SnippetSearch

namespace Settings

/-- The patterns as they are given: by the argument, else as the pieces of the variable. -/
def patternEntries (environment : Environment) (given? : Option (List Text)) : List Text :=
  match given? with
  | some entries => entries
  | none => Text.cut ',' ((environment.get? Variable.ignorePatterns).getD [])

/-- Whether a pattern is what is left of an entry without the blank space around it. -/
def IsKeptOf (entry pattern : Text) : Prop :=
  ∃ before behind : Text, entry = before ++ pattern ++ behind ∧ before.isAllBlank = true ∧
    behind.isAllBlank = true

theorem findPatterns_eq (environment : Environment) (given? : Option (List Text)) :
    findPatterns environment given? = tidyPatterns (patternEntries environment given?) := by
  cases given? <;> rfl

/-! ## Tidy patterns -/

theorem mem_tidyPatterns {entries : List Text} {pattern : Text} :
    pattern ∈ tidyPatterns entries ↔
      ∃ entry ∈ entries, entry.isAllBlank = false ∧ entry.trim = pattern := by
  simp only [tidyPatterns, List.mem_map, List.mem_filter, Bool.not_eq_true', and_assoc]

/-- A tidy pattern has some text, and none of it is blank space around the rest. -/
theorem ne_nil_and_isTrimmed_of_mem_tidyPatterns {entries : List Text} {pattern : Text}
    (isTidy : pattern ∈ tidyPatterns entries) : pattern ≠ [] ∧ pattern.IsTrimmed := by
  obtain ⟨entry, -, visible, rfl⟩ := mem_tidyPatterns.mp isTidy
  refine ⟨fun nothing => ?_, Text.isTrimmed_trim entry⟩
  rw [(Text.trim_eq_nil_iff entry).mp nothing] at visible
  cases visible

/-- One pattern is kept of each entry that is not blank, in the order of the entries. -/
theorem forall₂_tidyPatterns (entries : List Text) :
    List.Forall₂ IsKeptOf (entries.filter fun entry => !entry.isAllBlank)
      (tidyPatterns entries) := by
  rw [tidyPatterns, List.forall₂_map_right_iff, List.forall₂_same]
  exact fun entry _ => Text.exists_blank_around_trim entry

theorem tidyPatterns_of_isTrimmed {patterns : List Text}
    (tidy : ∀ pattern ∈ patterns, pattern ≠ [] ∧ pattern.IsTrimmed) :
    tidyPatterns patterns = patterns := by
  have noneIsBlank : (patterns.filter fun pattern => !pattern.isAllBlank) = patterns := by
    refine List.filter_eq_self.mpr fun pattern member => ?_
    obtain ⟨nonempty, trimmed⟩ := tidy pattern member
    rw [Bool.not_eq_true', ← Bool.not_eq_true, ← Text.trim_eq_nil_iff, trimmed.trim_eq]
    exact nonempty
  calc tidyPatterns patterns
    _ = patterns.map Text.trim := by rw [tidyPatterns, noneIsBlank]
    _ = patterns.map id := List.map_congr_left fun pattern member => (tidy pattern member).2.trim_eq
    _ = patterns := List.map_id patterns

/-- Cutting a list that was joined with commas gives its entries, as far as they are tidied. -/
theorem tidyPatterns_cut_join {entries : List Text} (free : ∀ entry ∈ entries, ',' ∉ entry) :
    tidyPatterns (Text.cut ',' (Text.join [','] entries)) = tidyPatterns entries := by
  cases entries with
  | nil =>
      -- nothing joined is the empty text, which is cut into one blank piece
      rfl
  | cons entry rest => rw [Text.cut_join ',' (List.cons_ne_nil entry rest) free]

theorem findPatterns_set_join (environment : Environment) {entries : List Text}
    (free : ∀ entry ∈ entries, ',' ∉ entry) :
    findPatterns (environment.set Variable.ignorePatterns (some (Text.join [','] entries))) none =
      findPatterns environment (some entries) := by
  rw [findPatterns_eq, findPatterns_eq, patternEntries, patternEntries, Environment.get?_set_self,
    Option.getD_some, tidyPatterns_cut_join free]

end Settings

/-! ## Machines with a variable set -/

/-- The machine with one of its variables set to a value, or unset. -/
def Machine.withVariable (machine : Machine) (name : Text) (value? : Option Text) : Machine :=
  { machine with environment := machine.environment.set name value? }

theorem Machine.homeOf_withVariable (machine : Machine) {name : Text}
    (notHome : Variable.home ≠ name) (value? : Option Text) :
    (machine.withVariable name value?).homeOf = machine.homeOf := by
  funext user
  rw [homeOf, homeOf, withVariable, Environment.get?_set_of_ne _ notHome]

namespace Settings

/-- The folder to search depends on the variables for it and for home folders only. -/
theorem findBase_withVariable (machine : Machine) {name : Text} (notHome : Variable.home ≠ name)
    (notBase : Variable.baseFolder ≠ name) (value? : Option Text) (given? : Option Text) :
    findBase (machine.withVariable name value?) given? = findBase machine given? := by
  have path : basePath (machine.withVariable name value?).environment given? =
      basePath machine.environment given? := by
    rw [basePath, basePath, Environment.nonempty?, Environment.nonempty?, Machine.withVariable,
      Environment.get?_set_of_ne _ notBase]
  have location : (machine.withVariable name value?).locate = machine.locate := by
    funext path
    rw [Machine.locate, Machine.locate, machine.homeOf_withVariable notHome]
    rfl
  rw [findBase, findBase, path, location]
  rfl

/-- An integer setting depends on its own variable only. -/
theorem findInteger_withVariable (machine : Machine) {name setting : Text}
    (differ : setting ≠ name) (value? : Option Text) (given? : Option Int) (default : Int) :
    findInteger (machine.withVariable name value?).environment given? setting default =
      findInteger machine.environment given? setting default := by
  cases given? with
  | some value => rfl
  | none =>
      have same : (machine.environment.set name value?).integer setting default =
          machine.environment.integer setting default := by
        rw [Environment.integer, Environment.integer, Environment.get?_set_of_ne _ differ]
      rw [findInteger, findInteger, Machine.withVariable, same]

/-- The variable for patterns has influence on the settings through the patterns only. -/
theorem resolve_withVariable_ignorePatterns {machine : Machine} {value? : Option Text}
    {entries? others? : Option (List Text)}
    (patterns : findPatterns (machine.withVariable Variable.ignorePatterns value?).environment
      entries? = findPatterns machine.environment others?) (given : SettingsArguments) :
    resolve (machine.withVariable Variable.ignorePatterns value?)
        { given with ignorePatterns? := entries? } =
      resolve machine { given with ignorePatterns? := others? } := by
  rw [resolve, resolve]
  dsimp only
  rw [findBase_withVariable machine (by decide) (by decide),
    findInteger_withVariable machine (by decide), findInteger_withVariable machine (by decide),
    patterns]

/--
Patterns mean the same in the variable and in the argument.  A list of entries without
commas gives the same patterns, and the same settings, if it is joined with commas in the
variable as if it is the argument.  However they are given, one pattern is kept of each
entry that is not blank, in the order of the entries and as often: it is not empty, has no
blank space around it, and stays the same if the patterns are given again.  Beside an
argument, even without entries, the variable has no influence.
-/
theorem ignore_patterns_mean_the_same (entries : List Text)
    (free : ∀ entry ∈ entries, ',' ∉ entry) :
    (∀ (machine : Machine) (given : SettingsArguments),
      let other := machine.withVariable Variable.ignorePatterns (some (Text.join [','] entries))
      findPatterns other.environment none = findPatterns machine.environment (some entries) ∧
        resolve other { given with ignorePatterns? := none } =
          resolve machine { given with ignorePatterns? := some entries }) ∧
    (∀ (environment : Environment) (given? : Option (List Text)),
      let patterns := findPatterns environment given?
      List.Forall₂ IsKeptOf
          ((patternEntries environment given?).filter fun entry => !entry.isAllBlank) patterns ∧
        (∀ pattern ∈ patterns, pattern ≠ [] ∧ pattern.IsTrimmed) ∧
        ∀ other : Environment, findPatterns other (some patterns) = patterns) ∧
    ∀ (machine : Machine) (value? : Option Text) (given : SettingsArguments) (others : List Text),
      let other := machine.withVariable Variable.ignorePatterns value?
      findPatterns other.environment (some others) =
          findPatterns machine.environment (some others) ∧
        resolve other { given with ignorePatterns? := some others } =
          resolve machine { given with ignorePatterns? := some others } := by
  refine ⟨fun machine given => ?_, fun environment given? => ?_,
    fun machine value? given others => ?_⟩
  · intro other
    have same : findPatterns other.environment none =
        findPatterns machine.environment (some entries) :=
      findPatterns_set_join machine.environment free
    exact ⟨same, resolve_withVariable_ignorePatterns same given⟩
  · intro patterns
    have tidy : ∀ pattern ∈ patterns, pattern ≠ [] ∧ pattern.IsTrimmed := by
      intro pattern member
      rw [show patterns = _ from findPatterns_eq environment given?] at member
      exact ne_nil_and_isTrimmed_of_mem_tidyPatterns member
    refine ⟨?_, tidy, fun other => tidyPatterns_of_isTrimmed tidy⟩
    rw [show patterns = _ from findPatterns_eq environment given?]
    exact forall₂_tidyPatterns _
  · exact ⟨rfl, resolve_withVariable_ignorePatterns rfl given⟩

/-- A list with a blank entry, a padded one and a repeated one, read from the variable. -/
theorem ignore_patterns_mean_the_same_repeated :
    let entries : List Text := ["*.g.cs".toList, [], "\tbin/ ".toList, "*.g.cs".toList]
    let machine : Machine := ⟨.folder [], [], .empty, []⟩
    let other := machine.withVariable Variable.ignorePatterns
      (some "*.g.cs,,\tbin/ ,*.g.cs".toList)
    (∀ entry ∈ entries, ',' ∉ entry) ∧
      findPatterns other.environment none =
        ["*.g.cs".toList, "bin/".toList, "*.g.cs".toList] := by
  intro entries machine other
  have free : ∀ entry ∈ entries, ',' ∉ entry := by decide
  have same := (ignore_patterns_mean_the_same entries free).1 machine {}
  exact ⟨free, same.1.trans (by decide +kernel)⟩

end Settings

end SnippetSearch
