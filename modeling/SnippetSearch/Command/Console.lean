import SnippetSearch.Command.Run

/-!
# What is seen of a command

A command hands its displays to a console, which makes texts of them and writes
these to the standard output, as it may do with a note while the command is at
work.  A display whose markup is refused ends the command.
-/

namespace SnippetSearch

/--
A console: what it writes while a note is shown, which is nothing where notes are
not shown, and what it makes of a display, unless it refuses its markup.
-/
structure Console where
  working : Text → Text
  show? : Display → Option Text

/-- What is seen of a run: its exit code and its standard output, apart from texts of help. -/
structure Transcript where
  exitCode : Nat
  output : Text
deriving Repr, DecidableEq

namespace Console

/-- What is shown of displays up to the first that is refused, and whether none is. -/
def showAll (console : Console) : List Display → Text × Bool
  | [] => ([], true)
  | display :: rest =>
      match console.show? display with
      | none => ([], false)
      | some shown =>
          let (others, complete) := console.showAll rest
          (shown ++ others, complete)

def note (console : Console) (outcome : CommandOutcome) : Text :=
  (outcome.note?.map console.working).getD []

def transcript (console : Console) (outcome : CommandOutcome) : Transcript :=
  match console.showAll outcome.displays with
  | (shown, true) => ⟨outcome.exitCode, console.note outcome ++ shown ++ outcome.output⟩
  | (shown, false) => ⟨CommandOutcome.failureExitCode, console.note outcome ++ shown⟩

end Console

end SnippetSearch
