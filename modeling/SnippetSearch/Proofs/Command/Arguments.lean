import SnippetSearch.Command.Run
import SnippetSearch.Proofs.Text.Numerals

/-!
# The arguments of a search

A search can be asked for in full: with the query, the number of results and
the wish for JSON.  The query is the argument after its option, whatever it
looks like, and the number is understood unless it has too many digits.
-/

namespace SnippetSearch

/-! ## Options that are given -/

namespace OptionRule

variable {rules : List OptionRule} {argument name : Text}

theorem read_of_waiting (option : argument ≠ ['-', '-'])
    (waits : readArgument rules argument = .ok (.waiting [] name)) (value : Text)
    (following : List Text) :
    read rules (argument :: value :: following) =
      (read rules following).map fun reading =>
        { reading with occurrences := ⟨name, value⟩ :: reading.occurrences } := by
  rw [read, if_neg option, waits]
  rfl

/-- An option without a value is complete. -/
theorem read_of_complete (option : argument ≠ ['-', '-']) {occurrences : List Occurrence}
    (completes : readArgument rules argument = .ok (.complete occurrences))
    (following : List Text) :
    read rules (argument :: following) =
      (read rules following).map fun reading =>
        { reading with occurrences := occurrences ++ reading.occurrences } := by
  rw [read, if_neg option, completes]

end OptionRule

namespace Command

def searchOptions (query : Text) (limit : Nat) : List Text :=
  ["--query".toList, query, "--top-k".toList, Text.ofNat limit, "--json".toList]

def searchArguments (query : Text) (limit : Nat) : List Text :=
  "search".toList :: searchOptions query limit

def searchReading (query : Text) (limit : Nat) : OptionReading :=
  { occurrences := [⟨queryName, query⟩, ⟨limitName, Text.ofNat limit⟩, ⟨jsonName, []⟩]
    others := [] }

theorem read_searchOptions (query : Text) (limit : Nat) :
    OptionRule.read searchRules (searchOptions query limit) = .ok (searchReading query limit) := by
  have isQuery : OptionRule.readArgument searchRules "--query".toList =
      .ok (.waiting [] queryName) := rfl
  have isLimit : OptionRule.readArgument searchRules "--top-k".toList =
      .ok (.waiting [] limitName) := rfl
  have isJson : OptionRule.readArgument searchRules "--json".toList =
      .ok (.complete [⟨jsonName, []⟩]) := rfl
  rw [searchOptions, OptionRule.read_of_waiting (by decide) isQuery,
    OptionRule.read_of_waiting (by decide) isLimit, OptionRule.read_of_complete (by decide) isJson]
  rfl

/-! ## The command that is meant -/

theorem integerOption_searchReading (query : Text) (limit : Nat) :
    integerOption (searchReading query limit) limitName defaultLimit =
      if (Text.ofNat limit).length ≤ Text.maxDigits then .ok (limit : Int)
      else .error (.notAnInteger limitName (Text.ofNat limit)) := by
  have given : (searchReading query limit).value? limitName = some (Text.ofNat limit) := rfl
  rw [integerOption, given]
  dsimp only
  rw [Text.userInteger?_ofNat]
  by_cases short : (Text.ofNat limit).length ≤ Text.maxDigits
  · rw [if_pos short, if_pos short]
  · rw [if_neg short, if_neg short]

theorem readSearch_searchReading (query : Text) (limit : Nat) :
    readSearch (searchReading query limit) =
      if (Text.ofNat limit).length ≤ Text.maxDigits then .ok (.search query limit none true)
      else .error (.notAnInteger limitName (Text.ofNat limit)) := by
  have given : (searchReading query limit).value? queryName = some query := rfl
  rw [readSearch, given]
  dsimp only
  rw [integerOption_searchReading]
  by_cases short : (Text.ofNat limit).length ≤ Text.maxDigits
  · rw [if_pos short, if_pos short]
    rfl
  · rw [if_neg short, if_neg short]
    rfl

/-- The arguments of a search ask for it, unless its number has too many digits. -/
theorem ofArguments_searchArguments (query : Text) (limit : Nat) :
    ofArguments (searchArguments query limit) =
      if (Text.ofNat limit).length ≤ Text.maxDigits then .ok (.search query limit none true)
      else .error (.notAnInteger limitName (Text.ofNat limit)) := by
  have isName : ofArguments (searchArguments query limit) =
      readWith searchRules readSearch (searchOptions query limit) := rfl
  have isRead : readWith searchRules readSearch (searchOptions query limit) =
      readSearch (searchReading query limit) >>= pure := by
    rw [readWith, read_searchOptions]
    rfl
  rw [isName, isRead, bind_pure, readSearch_searchReading]

end Command

end SnippetSearch
