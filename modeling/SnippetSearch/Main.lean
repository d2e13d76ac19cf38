import SnippetSearch.Command.Console
import SnippetSearch.Json.Reader
import SnippetSearch.Snapshot

/-!
# The program

Runs the command of its arguments on the machine whose snapshot is read from
standard input, with the environment of the process.
-/

namespace SnippetSearch

namespace Program

def lookedUp : List Text :=
  [Variable.baseFolder, Variable.chunkSize, Variable.chunkOverlap, Variable.ignorePatterns,
   Variable.embeddingModel, Variable.embeddingDimension, Variable.serviceKey, Variable.home]

def readEnvironment : IO Environment :=
  lookedUp.foldlM
    (fun environment name => do
      let value? ← IO.getEnv (String.ofList name)
      return environment.set name (value?.map String.toList))
    Environment.empty

partial def readRest (stream : IO.FS.Stream) (before : String) : IO String := do
  let line ← stream.getLine
  if line.isEmpty then return before else readRest stream (before ++ line)

/-- A console without notes that shows markup as it is, and a panel as its three texts. -/
def console : Console where
  working _ := []
  show?
    | .line markup => some (markup ++ ['\n'])
    | .panel title subtitle code => some (Text.join ['\n'] [title, code, subtitle, []])

def showOutcome (outcome : CommandOutcome) : IO UInt32 := do
  let transcript := console.transcript outcome
  IO.print (String.ofList transcript.output)
  outcome.served.forM fun (host, port) =>
    IO.println (String.ofList (host ++ ':' :: Text.ofInt port))
  match outcome.failure? with
  | none => pure ()
  | some failure => IO.eprintln (String.ofList failure.message)
  return UInt32.ofNat transcript.exitCode

def run (arguments : List Text) : IO UInt32 := do
  let environment ← readEnvironment
  let input ← readRest (← IO.getStdin) ""
  match Json.read (.ofText input.toList) with
  | .error _ =>
      IO.eprintln "The snapshot of the machine is not readable."
      return 1
  | .ok snapshot =>
      showOutcome (Command.runArguments (Snapshot.machine snapshot environment)
        (Snapshot.service snapshot) arguments)

end Program

end SnippetSearch

def main (arguments : List String) : IO UInt32 :=
  SnippetSearch.Program.run (arguments.map String.toList)
