import SnippetSearch.Command.Options
import SnippetSearch.Engine.Search
import SnippetSearch.Text.UserInteger

/-!
# Commands

The program has three commands: to search once, to show whether searching is
possible, and to serve requests.  A request for help wins over everything but
an option that is not understood.
-/

namespace SnippetSearch

inductive Command where
  | search (query : Text) (limit : Nat) (baseFolder? : Option Text) (asJson : Bool)
  | status (baseFolder? : Option Text)
  | serve (host : Text) (port : Int)
  | help
deriving Repr, DecidableEq

namespace Command

/-! ## Options -/

def queryName : Text := "query".toList

def limitName : Text := "top-k".toList

def baseFolderName : Text := "base-dir".toList

def jsonName : Text := "json".toList

def verboseName : Text := "verbose".toList

def hostName : Text := "host".toList

def portName : Text := "port".toList

def helpName : Text := "help".toList

def helpRule : OptionRule := ⟨helpName, none, false⟩

/-- The option that asks for more messages, which changes nothing else. -/
def verboseRule : OptionRule := ⟨verboseName, some 'v', false⟩

def baseFolderRule : OptionRule := ⟨baseFolderName, some 'd', true⟩

def searchRules : List OptionRule :=
  [⟨queryName, some 'q', true⟩, ⟨limitName, some 'k', true⟩, baseFolderRule,
   ⟨jsonName, none, false⟩, verboseRule, helpRule]

def statusRules : List OptionRule :=
  [baseFolderRule, helpRule]

def serveRules : List OptionRule :=
  [⟨hostName, none, true⟩, ⟨portName, none, true⟩, verboseRule, helpRule]

def defaultHost : Text := "127.0.0.1".toList

def defaultPort : Int := 8000

/-! ## Reading a command line -/

def integerOption (reading : OptionReading) (name : Text) (default : Int) :
    Except UsageError Int :=
  match reading.value? name with
  | none => .ok default
  | some value =>
      match value.userInteger? with
      | some number => .ok number
      | none => .error (.notAnInteger name value)

def readSearch (reading : OptionReading) : Except UsageError Command := do
  let some query := reading.value? queryName | throw (.missingOption queryName)
  let limit ← integerOption reading limitName defaultLimit
  if limit < 0 then
    throw (.outOfRange limitName limit)
  return .search query limit.toNat (reading.value? baseFolderName) (reading.has jsonName)

def readServe (reading : OptionReading) : Except UsageError Command := do
  let port ← integerOption reading portName defaultPort
  return .serve ((reading.value? hostName).getD defaultHost) port

def readWith (rules : List OptionRule) (ofReading : OptionReading → Except UsageError Command)
    (arguments : List Text) : Except UsageError Command := do
  let reading ← OptionRule.read rules arguments
  if reading.has helpName then
    return .help
  let command ← ofReading reading
  match reading.others with
  | [] => return command
  | argument :: _ => throw (.unexpectedArgument argument)

def readNamed : List Text → Except UsageError Command
  | [] => .error .noCommand
  | name :: arguments =>
      if name = "search".toList then
        readWith searchRules readSearch arguments
      else if name = "status".toList then
        readWith statusRules
          (fun reading => .ok (.status (reading.value? baseFolderName))) arguments
      else if name = "serve".toList then
        readWith serveRules readServe arguments
      else
        .error (.unknownCommand name)

/--
The command that arguments ask for, after a request for help or not.  All
options in front of the name of the command are judged before help is given.
-/
def readLeading (helpWanted : Bool) : List Text → Except UsageError Command
  | [] => if helpWanted then .ok .help else .error .noCommand
  | argument :: rest =>
      if argument = ['-', '-'] then
        if helpWanted then .ok .help else readNamed rest
      else
        match OptionRule.readArgument [helpRule] argument with
        | .error error => .error error
        | .ok .other => if helpWanted then .ok .help else readNamed (argument :: rest)
        | .ok (.complete _) | .ok (.waiting ..) => readLeading true rest

def ofArguments (arguments : List Text) : Except UsageError Command :=
  readLeading false arguments

end Command

end SnippetSearch
