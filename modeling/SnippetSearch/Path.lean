import SnippetSearch.Text.Basic

/-!
# Paths

A path is a text whose components are separated by slashes; it starts at the
root if it starts with a slash, and at the working folder otherwise.  A place
is what a path without links comes down to: the names of the folders from the
root downwards.  A path that starts with exactly two slashes leads to the same
place as with one, but counts as another spelling of it.  This module treats
paths as texts only and looks at no file.
-/

namespace SnippetSearch

/-- The names that lead from the root to a file or folder, without detours. -/
abbrev Place := List Text

namespace Place

def path (place : Place) : Text :=
  '/' :: Text.join ['/'] place

end Place

/-- A place together with how its path starts: with one slash, or, doubled, with two. -/
structure Location where
  place : Place
  doubled : Bool := false
deriving Repr, DecidableEq

namespace Location

def path (location : Location) : Text :=
  if location.doubled then '/' :: location.place.path else location.place.path

/-- Whether a location lies below another one, or is the same, by their spellings. -/
def isInside (location base : Location) : Bool :=
  location.doubled == base.doubled && base.place.isPrefixOf location.place

end Location

namespace Path

def parent : Text := ['.', '.']

def self : Text := ['.']

def isAbsolute (path : Text) : Bool :=
  path.head? == some '/'

/-- The components of a path that lead somewhere: empty ones and single dots are left out. -/
def components (path : Text) : List Text :=
  (Text.cut '/' path).filter fun component => !component.isEmpty && component != self

def steps (workingFolder : Place) (path : Text) : List Text :=
  if isAbsolute path then components path else workingFolder ++ components path

/-- One step from a place: to a name below it, or to the folder above, which the root is itself. -/
def stepFrom (place : Place) (component : Text) : Place :=
  if component = parent then place.dropLast else place ++ [component]

/-- The place that steps lead to if no name on the way is a link. -/
def normalize (steps : List Text) : Place :=
  steps.foldl stepFrom []

/-- The place that a path leads to if no name on the way is a link. -/
def lexicalPlace (workingFolder : Place) (path : Text) : Place :=
  normalize (steps workingFolder path)

/-- The first path followed by the second, which stands alone if it starts at the root. -/
def append (path rest : Text) : Text :=
  if isAbsolute rest then rest
  else if path.isEmpty || path.getLast? == some '/' then path ++ rest
  else path ++ '/' :: rest

def startsDoubled (path : Text) : Bool :=
  (path.takeWhile (· == '/')).length == 2

/-- The location that a path spells if no name on the way is a link. -/
def lexicalLocation (workingFolder : Place) (path : Text) : Location :=
  ⟨lexicalPlace workingFolder path, startsDoubled path⟩

def commonLength : Place → Place → Nat
  | left :: leftRest, right :: rightRest =>
      if left = right then commonLength leftRest rightRest + 1 else 0
  | _, _ => 0

def way (base target : Place) : List Text :=
  let common := commonLength base target
  List.replicate (base.length - common) parent ++ target.drop common

/-- The text of a way; a way of no step is a dot. -/
def wayText (way : List Text) : Text :=
  if way.isEmpty then self else Text.join ['/'] way

/--
The path relative to a base, judged by the texts of both; an empty path has
no relative form.
-/
def relative? (workingFolder : Place) (path base : Text) : Option Text :=
  if path.isEmpty then
    none
  else
    some (wayText (way (lexicalPlace workingFolder base) (lexicalPlace workingFolder path)))

def hasNull (path : Text) : Bool :=
  path.contains '\x00'

/-! ## Lengths -/

def byteCount (text : Text) : Nat :=
  text.foldr (fun letter bytes => letter.utf8Size + bytes) 0

def maxNameBytes : Nat := 255

def maxBytes : Nat := 4096

def isLongName (name : Text) : Bool :=
  maxNameBytes < byteCount name

def isTooLong (path : Text) : Bool :=
  maxBytes ≤ byteCount path

def tidy (path : Text) : Text :=
  let relative := Text.join ['/'] (components path)
  if isAbsolute path then '/' :: relative
  else if relative.isEmpty then self
  else relative

/-! ## Home folders -/

/-- A home folder without the slashes at its end; the root keeps one. -/
def homePath (home : Text) : Text :=
  let trimmed := (home.reverse.dropWhile (· == '/')).reverse
  if trimmed.isEmpty then ['/'] else trimmed

/-- The user whose home folder a path starts at; the name is empty for the own account. -/
def homeUser? (path : Text) : Option Text :=
  if isAbsolute path then
    none
  else
    match components path with
    | ('~' :: user) :: _ => some user
    | _ => none

/--
The path with a tilde and user name at its start replaced by the home folder
that `homeOf` knows for the name; nothing if there is none, or if the home
folder itself starts with a tilde.
-/
def expandHome? (homeOf : Text → Option Text) (path : Text) : Option Text :=
  if isAbsolute path then
    some path
  else
    match components path with
    | ('~' :: user) :: rest =>
        match (homeOf user).map homePath with
        | none => none
        | some ('~' :: _) => none
        | some home => some (Text.join ['/'] (home :: rest))
    | _ => some path

end Path

end SnippetSearch
