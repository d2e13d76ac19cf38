import SnippetSearch.FileTree.Basic

/-!
# Following paths and links

There are two ways to follow a path.  A walk opens a file: every name on the
way must exist and be no longer than names can be, and at most forty links
are followed.  Settling finds out where a path leads without asking that
anything exists there: a missing name is kept, and a link that is met again
while it is being followed ends the search, as does a chain in which too many
links are followed inside each other.  In both, the folder above is taken
after links have been followed.
-/

namespace SnippetSearch

namespace FileTree

/-- The components of the target of a link; a slash at its end asks for a folder. -/
def targetSteps (target : Text) : List Text :=
  let pieces := (Text.cut '/' target).filter fun component => !component.isEmpty
  if target.getLast? == some '/' then pieces ++ [Path.self] else pieces

def targetPlace (folder : Place) (target : Text) : Place :=
  if Path.isAbsolute target then [] else folder

/-! ## Walking -/

inductive WalkError where
  | missing
  | notFolder
  | nameTooLong
  | tooManyLinks
deriving Repr, DecidableEq

/-- The walk from a place along steps; `follow` goes on from the target of a link. -/
def walkWith (root : FileTree) (follow : Place → List Text → Except WalkError Place)
    (here : Place) : List Text → Except WalkError Place
  | [] => .ok here
  | component :: rest =>
      match root.at? here with
      | some (.folder entries) =>
          if component = Path.self then walkWith root follow here rest
          else if component = Path.parent then walkWith root follow here.dropLast rest
          else if Path.isLongName component then .error .nameTooLong
          else
            match entries.lookup component with
            | none => .error .missing
            | some (.link target) => follow (targetPlace here target) (targetSteps target ++ rest)
            | some (.file _) | some (.folder _) => walkWith root follow (here ++ [component]) rest
      | _ => .error .notFolder

/-- The walk from a place along steps that follows at most the given number of links. -/
def walkWithin (root : FileTree) : Nat → Place → List Text → Except WalkError Place
  | 0 => walkWith root fun _ _ => .error .tooManyLinks
  | links + 1 => walkWith root (walkWithin root links)

def maxLinks : Nat := 40

def walk (root : FileTree) (steps : List Text) : Except WalkError Place :=
  walkWithin root maxLinks [] steps

def reach? (root : FileTree) (steps : List Text) : Option FileTree :=
  match root.walk steps with
  | .ok place => root.at? place
  | .error _ => none

def leadsToFolder (root : FileTree) (steps : List Text) : Bool :=
  ((root.reach? steps).map isFolder).getD false

def bytes? (root : FileTree) (steps : List Text) : Option (List UInt8) :=
  match root.reach? steps with
  | some (.file bytes) => some bytes
  | _ => none

/-! ## Settling -/

/--
A spelling of a place without links on the way: names after the root, or
after some steps upwards from the working folder.
-/
structure Spelling where
  fromRoot : Bool
  ups : Nat
  names : List Text
deriving Repr, DecidableEq

namespace Spelling

def root : Spelling := ⟨true, 0, []⟩

def here : Spelling := ⟨false, 0, []⟩

def startOf (path : Text) : Spelling :=
  if Path.isAbsolute path then root else here

def down (spelling : Spelling) (name : Text) : Spelling :=
  { spelling with names := spelling.names ++ [name] }

/-- The spelling of the folder above, which the root is itself. -/
def up (spelling : Spelling) : Spelling :=
  if !spelling.names.isEmpty then { spelling with names := spelling.names.dropLast }
  else if spelling.fromRoot then spelling
  else { spelling with ups := spelling.ups + 1 }

def targetStart (folder : Spelling) (target : Text) : Spelling :=
  if Path.isAbsolute target then root else folder

def place (workingFolder : Place) (spelling : Spelling) : Place :=
  if spelling.fromRoot then spelling.names
  else workingFolder.take (workingFolder.length - spelling.ups) ++ spelling.names

def path (spelling : Spelling) : Text :=
  let relative := Text.join ['/'] (List.replicate spelling.ups Path.parent ++ spelling.names)
  if spelling.fromRoot then '/' :: relative else relative

end Spelling

/-- The target of the link that a spelling leads to, if one stands there and can be looked up. -/
def linkTarget? (root : FileTree) (workingFolder : Place) (spelling : Spelling) : Option Text :=
  if Path.isTooLong spelling.path then
    none
  else
    match root.at? (spelling.place workingFolder) with
    | some (.link target) => some target
    | _ => none

/--
Where a path leads, unless it asks for a name that cannot be, runs into a
circle of links, or follows too many links inside each other.
-/
inductive Settled where
  | reached (spelling : Spelling)
  | loop (path : Text)
  | nullByte
  | tooDeep
deriving Repr, DecidableEq

/-- The links met so far: each with where it leads, or with nothing while it is being followed. -/
abbrev MetLinks := List (Spelling × Option Spelling)

/-- Settling along the pieces of a path; `follow` settles the pieces of the target of a link. -/
def settleWith (root : FileTree) (workingFolder : Place)
    (follow : MetLinks → Spelling → List Text → Settled × MetLinks) (met : MetLinks)
    (here : Spelling) : List Text → Settled × MetLinks
  | [] => (.reached here, met)
  | piece :: rest =>
      if piece.isEmpty || piece == Path.self then
        settleWith root workingFolder follow met here rest
      else if piece = Path.parent then
        settleWith root workingFolder follow met here.up rest
      else if Path.hasNull piece then
        (.nullByte, met)
      else
        let next := here.down piece
        match root.linkTarget? workingFolder next with
        | none => settleWith root workingFolder follow met next rest
        | some target =>
            match met.lookup next with
            | some (some known) => settleWith root workingFolder follow met known rest
            | some none => (.loop (Path.append next.path (Text.join ['/'] rest)), met)
            | none =>
                match follow ((next, none) :: met) (here.targetStart target)
                    (Text.cut '/' target) with
                | (.reached found, after) =>
                    settleWith root workingFolder follow ((next, some found) :: after) found rest
                | (.loop path, after) => (.loop (Path.append path (Text.join ['/'] rest)), after)
                | (.nullByte, after) => (.nullByte, after)
                | (.tooDeep, after) => (.tooDeep, after)

/-- Settling in which so many links at most are followed inside each other. -/
def settleWithin (root : FileTree) (workingFolder : Place) :
    Nat → MetLinks → Spelling → List Text → Settled × MetLinks
  | 0 => settleWith root workingFolder fun met _ _ => (.tooDeep, met)
  | links + 1 => settleWith root workingFolder (settleWithin root workingFolder links)

/-- The most links that are followed inside each other when a path is settled. -/
def maxNestedLinks : Nat := 988

def settle (root : FileTree) (workingFolder : Place) (path : Text) : Settled :=
  (settleWithin root workingFolder maxNestedLinks [] (.startOf path) (Path.components path)).1

inductive ResolveError where
  | nullByte
  | linkLoop (location : Location)
  | linksTooDeep
deriving Repr, DecidableEq

/-- A location that can be asked for, unless there is a circle of links on the way to it. -/
def checkLocation (root : FileTree) (location : Location) : Except ResolveError Location :=
  if location.place.any Path.hasNull then
    .error .nullByte
  else if Path.isTooLong location.path then
    .ok location
  else
    match root.walk location.place with
    | .error .tooManyLinks => .error (.linkLoop location)
    | _ => .ok location

/--
The location that a path stands for.  A path that runs into a circle of links
is taken as a text from there on, and is refused if the circle is still on it.
-/
def resolve (root : FileTree) (workingFolder : Place) (path : Text) :
    Except ResolveError Location :=
  match root.settle workingFolder path with
  | .nullByte => .error .nullByte
  | .tooDeep => .error .linksTooDeep
  | .reached spelling => root.checkLocation ⟨spelling.place workingFolder, false⟩
  | .loop left => root.checkLocation (Path.lexicalLocation workingFolder left)

end FileTree

end SnippetSearch
