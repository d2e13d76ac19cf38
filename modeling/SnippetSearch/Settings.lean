import SnippetSearch.Chunk
import SnippetSearch.Setup

/-!
# Settings

Every setting is taken from an explicit argument, else from the environment,
else from a default.  The folder is found first, then the numbers are read,
and only then are they judged.
-/

namespace SnippetSearch

structure SettingsArguments where
  baseFolder? : Option Text := none
  chunkSize? : Option Int := none
  chunkOverlap? : Option Int := none
  ignorePatterns? : Option (List Text) := none
deriving Repr, DecidableEq

structure Settings where
  baseFolder : Location
  chunking : Chunking
  ignorePatterns : List Text

namespace Settings

/-- The size of windows unless it is set. -/
def defaultChunkSize : Int := 200

def defaultChunkOverlap : Int := 20

/-- The path of the folder to search: the argument, else the variable, else the working folder. -/
def basePath (environment : Environment) (given? : Option Text) : Text :=
  match given?.filter fun path => !path.isEmpty with
  | some path => path
  | none => (environment.nonempty? Variable.baseFolder).getD Path.self

def findBase (machine : Machine) (given? : Option Text) : Except SetupError Location :=
  match machine.locate (basePath machine.environment given?) with
  | .error error => .error (.resolution error)
  | .ok location =>
      match machine.hasFolder location with
      | .error error => .error (.resolution error)
      | .ok true => .ok location
      | .ok false => .error (.configuration (.folderNotFound location.path))

/-- The patterns that are left once blank space around them and blank ones are dropped. -/
def tidyPatterns (patterns : List Text) : List Text :=
  (patterns.filter fun pattern => !pattern.isAllBlank).map Text.trim

/-- The patterns of files to leave out: the argument, else the pieces of the variable. -/
def findPatterns (environment : Environment) (given? : Option (List Text)) : List Text :=
  match given? with
  | some patterns => tidyPatterns patterns
  | none => tidyPatterns (Text.cut ',' ((environment.get? Variable.ignorePatterns).getD []))

/-- The chunking that two numbers make, unless one of them is out of range. -/
def checkChunking (size overlap : Int) : Except SetupError Chunking :=
  if notPositive : size ≤ 0 then
    .error (.ofRefusal (.sizeNotPositive size))
  else if inRange : 0 ≤ overlap ∧ overlap < size then
    .ok ⟨size.toNat, overlap.toNat, by omega⟩
  else
    .error (.ofRefusal (.overlapOutOfRange size overlap))

def findInteger (environment : Environment) (given? : Option Int) (name : Text) (default : Int) :
    Except SetupError Int :=
  match given? with
  | some value => .ok value
  | none => (environment.integer name default).mapError .configuration

def resolve (machine : Machine) (given : SettingsArguments) : Except SetupError Settings := do
  let baseFolder ← findBase machine given.baseFolder?
  let size ← findInteger machine.environment given.chunkSize? Variable.chunkSize defaultChunkSize
  let overlap ←
    findInteger machine.environment given.chunkOverlap? Variable.chunkOverlap defaultChunkOverlap
  let ignorePatterns := findPatterns machine.environment given.ignorePatterns?
  let chunking ← checkChunking size overlap
  return { baseFolder, chunking, ignorePatterns }

end Settings

end SnippetSearch
