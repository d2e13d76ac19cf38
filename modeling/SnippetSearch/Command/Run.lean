import SnippetSearch.Command.Basic
import SnippetSearch.Report

/-!
# Running commands

A command hands lines and panels over to be shown, writes plain text, or hands an
address over to be served.  While it searches it shows a note.  A refused
configuration and a query without a vector are shown as errors; any other failure
is left to the caller.
-/

namespace SnippetSearch

inductive Failure where
  | setup (error : SetupError)
  | search (error : SearchError)
deriving Repr, DecidableEq

namespace Failure

def message : Failure → Text
  | .setup error => error.message
  | .search error => error.message

def isExplained : Failure → Bool
  | .setup (.configuration _) | .search (.query _) => true
  | .setup .numeralTooLong | .setup (.resolution _) | .setup (.noSuchFolder _) => false
  | .search .negativeLimit | .search .nullByte | .search (.dimensions _) => false

end Failure

/-- What a command did, and what it showed at work before. -/
structure CommandOutcome where
  exitCode : Nat := 0
  note? : Option Text := none
  displays : List Display := []
  output : Text := []
  served : List (Text × Int) := []
  requests : List EmbeddingRequest := []
  failure? : Option Failure := none

namespace CommandOutcome

def failureExitCode : Nat := 1

def usageExitCode : Nat := 2

/-- The line that tells of an error, whose message is marked up like the rest of it. -/
def errorLine (message : Text) : Display :=
  .line ("[bold red]Error:[/] ".toList ++ message)

/-- The outcome of a failure after a note, if any, and the given requests for vectors. -/
def ofFailure (failure : Failure) (note? : Option Text) (requests : List EmbeddingRequest) :
    CommandOutcome :=
  if failure.isExplained then
    { exitCode := failureExitCode, note?, displays := [errorLine failure.message], requests }
  else
    { exitCode := failureExitCode, note?, requests, failure? := some failure }

end CommandOutcome

namespace Command

def searchNote : Text := "Indexing and searching...".toList

def runSearch (machine : Machine) (service : EmbeddingService) (query : Text) (limit : Nat)
    (baseFolder? : Option Text) (asJson : Bool) : CommandOutcome :=
  match Settings.resolve machine { baseFolder? } with
  | .error error => .ofFailure (.setup error) none []
  | .ok settings =>
      match Engine.start machine service.starts settings with
      | .error error => .ofFailure (.setup error) none []
      | .ok engine =>
          let (run, _) :=
            engine.search (.ofMachine machine service) (.ofText query) limit ()
          match run.outcome with
          | .error error => .ofFailure (.search error) (some searchNote) run.requests
          | .ok results =>
              if asJson then
                { note? := some searchNote
                  output := (SearchResult.jsonArray results).pretty ++ ['\n']
                  requests := run.requests }
              else
                { note? := some searchNote
                  displays :=
                    Report.ofResults machine.workingFolder settings.baseFolder.path results
                  requests := run.requests }

def statusDisplays (engine : Engine) : List Display :=
  let state := if engine.isAvailable then "[bold green]enabled[/]" else "[bold red]unavailable[/]"
  [.line ("Semantic search: ".toList ++ state.toList),
   .line ("Base directory: ".toList ++ engine.catalog.basePath?.getD [])]

def runStatus (machine : Machine) (service : EmbeddingService) (baseFolder? : Option Text) :
    CommandOutcome :=
  match Settings.resolve machine { baseFolder? } with
  | .error error => .ofFailure (.setup error) none []
  | .ok settings =>
      match Engine.start machine service.starts settings with
      | .error error => .ofFailure (.setup error) none []
      | .ok engine => { displays := statusDisplays engine }

def run (machine : Machine) (service : EmbeddingService) : Command → CommandOutcome
  | .search query limit baseFolder? asJson =>
      runSearch machine service query limit baseFolder? asJson
  | .status baseFolder? => runStatus machine service baseFolder?
  | .serve host port => { served := [(host, port)] }
  | .help => {}

def runArguments (machine : Machine) (service : EmbeddingService) (arguments : List Text) :
    CommandOutcome :=
  match ofArguments arguments with
  | .error _ => { exitCode := CommandOutcome.usageExitCode }
  | .ok command => run machine service command

end Command

end SnippetSearch
