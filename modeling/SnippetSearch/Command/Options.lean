import SnippetSearch.Text.Basic

/-!
# Command-line options

Options have long names after two dashes and may have a letter after one
dash.  A value follows an equals sign after the long name, follows the letter
at once, or is the next argument, whatever that looks like.  Letters without
values may share a dash.  After two dashes alone nothing is an option.
-/

namespace SnippetSearch

inductive UsageError where
  | noCommand
  | unknownCommand (name : Text)
  | unknownOption (name : Text)
  | missingValue (name : Text)
  | unexpectedValue (name : Text)
  | unexpectedArgument (argument : Text)
  | missingOption (name : Text)
  | notAnInteger (name value : Text)
  | outOfRange (name : Text) (value : Int)
deriving Repr, DecidableEq

/-- The names of an option, and whether a value comes with it. -/
structure OptionRule where
  name : Text
  letter? : Option Char
  takesValue : Bool
deriving Repr, DecidableEq

/-- An option that was given, with its value if it takes one. -/
structure Occurrence where
  name : Text
  value : Text
deriving Repr, DecidableEq

/-- The options given and the other arguments, each in order. -/
structure OptionReading where
  occurrences : List Occurrence
  others : List Text
deriving Repr, DecidableEq

/-- What a single argument says about options. -/
inductive ArgumentReading where
  | other
  | complete (occurrences : List Occurrence)
  | waiting (occurrences : List Occurrence) (name : Text)
deriving Repr, DecidableEq

namespace OptionRule

def readLetters (rules : List OptionRule) : Text → Except UsageError ArgumentReading
  | [] => .ok (.complete [])
  | letter :: rest =>
      match rules.find? fun rule => rule.letter? == some letter with
      | none => .error (.unknownOption [letter])
      | some rule =>
          if rule.takesValue then
            if rest.isEmpty then .ok (.waiting [] rule.name)
            else .ok (.complete [⟨rule.name, rest⟩])
          else
            match readLetters rules rest with
            | .ok (.complete more) => .ok (.complete (⟨rule.name, []⟩ :: more))
            | .ok (.waiting more name) => .ok (.waiting (⟨rule.name, []⟩ :: more) name)
            | other => other

def readName (rules : List OptionRule) (text : Text) : Except UsageError ArgumentReading :=
  let name := text.takeWhile (· != '=')
  match rules.find? fun rule => rule.name == name with
  | none => .error (.unknownOption name)
  | some rule =>
      if text.contains '=' then
        if rule.takesValue then .ok (.complete [⟨name, text.drop (name.length + 1)⟩])
        else .error (.unexpectedValue name)
      else if rule.takesValue then
        .ok (.waiting [] name)
      else
        .ok (.complete [⟨name, []⟩])

def readArgument (rules : List OptionRule) : Text → Except UsageError ArgumentReading
  | '-' :: '-' :: name => readName rules name
  | '-' :: letter :: rest => readLetters rules (letter :: rest)
  | _ => .ok .other

def read (rules : List OptionRule) : List Text → Except UsageError OptionReading
  | [] => .ok ⟨[], []⟩
  | argument :: rest =>
      if argument = ['-', '-'] then
        .ok ⟨[], rest⟩
      else
        match readArgument rules argument with
        | .error error => .error error
        | .ok .other =>
            (read rules rest).map fun reading =>
              { reading with others := argument :: reading.others }
        | .ok (.complete occurrences) =>
            (read rules rest).map fun reading =>
              { reading with occurrences := occurrences ++ reading.occurrences }
        | .ok (.waiting occurrences name) =>
            match rest with
            | [] => .error (.missingValue name)
            | value :: following =>
                (read rules following).map fun reading =>
                  { reading with
                    occurrences := occurrences ++ ⟨name, value⟩ :: reading.occurrences }

end OptionRule

namespace OptionReading

def has (reading : OptionReading) (name : Text) : Bool :=
  reading.occurrences.any fun occurrence => occurrence.name == name

/-- The value of an option, of which the last occurrence counts. -/
def value? (reading : OptionReading) (name : Text) : Option Text :=
  (reading.occurrences.reverse.find? fun occurrence => occurrence.name == name).map (·.value)

end OptionReading

end SnippetSearch
