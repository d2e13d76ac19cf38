import SnippetSearch.Configuration
import SnippetSearch.FileTree.Walk
import SnippetSearch.Text.Encoding

/-!
# Machines

What the search finds on the machine it runs on: a tree of files, the folder
that it was started in, environment variables, and the home folders of the
accounts.  Paths and files are read against a machine.
-/

namespace SnippetSearch

/-- Why a path leads nowhere that could be named. -/
inductive PathError where
  | unknownHome
  | nullByte
  | linkLoop (location : Location)
  | linksTooDeep
  | nameTooLong (location : Location)
deriving Repr, DecidableEq

def PathError.message : PathError → Text
  | .unknownHome => "Could not determine home directory.".toList
  | .nullByte => "embedded null byte".toList
  | .linkLoop location => "Symlink loop from ".toList ++ location.path.quoted
  | .linksTooDeep => "maximum recursion depth exceeded".toList
  | .nameTooLong location => "[Errno 36] File name too long: ".toList ++ location.path.quoted

/-- A machine; the home folder of the own account stands under the empty name. -/
structure Machine where
  tree : FileTree
  workingFolder : Place
  environment : Environment
  accountHomes : List (Text × Text)

namespace Machine

/-- The home folder of a user, or of the own account if the name is empty. -/
def homeOf (machine : Machine) (user : Text) : Option Text :=
  if user.isEmpty then
    (machine.environment.get? Variable.home).or (machine.accountHomes.lookup [])
  else
    machine.accountHomes.lookup user

/-- The location that a path stands for, which need not exist. -/
def resolve (machine : Machine) (path : Text) : Except PathError Location :=
  (machine.tree.resolve machine.workingFolder path).mapError fun
    | .nullByte => .nullByte
    | .linkLoop location => .linkLoop location
    | .linksTooDeep => .linksTooDeep

/-- The location that a path stands for, where a tilde at its start means a home folder. -/
def locate (machine : Machine) (path : Text) : Except PathError Location :=
  if (Path.homeUser? path).any Path.hasNull then
    .error .nullByte
  else
    match Path.expandHome? machine.homeOf path with
    | none => .error .unknownHome
    | some expanded => machine.resolve expanded

/-- Whether a folder stands at a location, which must not be too long to be asked for. -/
def hasFolder (machine : Machine) (location : Location) : Except PathError Bool :=
  if Path.isTooLong location.path then
    .error (.nameTooLong location)
  else
    match machine.tree.walk location.place with
    | .error .nameTooLong => .error (.nameTooLong location)
    | _ => .ok (machine.tree.leadsToFolder location.place)

/-- The text of the file at a path without null characters, if it can be read. -/
def readText? (machine : Machine) (path : Text) : Option Text :=
  if Path.isTooLong (Path.tidy path) then
    none
  else
    (machine.tree.bytes? (Path.steps machine.workingFolder path)).bind Text.ofFileBytes?

end Machine

end SnippetSearch
