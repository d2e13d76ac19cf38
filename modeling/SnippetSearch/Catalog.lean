import SnippetSearch.FileTree.Listing
import SnippetSearch.Settings
import SnippetSearch.Text.Case

/-!
# Catalogs

A catalog says which files are searched.  It is either a fixed list of paths,
or it lists the source files below one folder, which it never leaves.
-/

namespace SnippetSearch

/-- The source files below a folder, recognised by the ends of their names. -/
structure FolderCatalog where
  base : Location
  suffixes : List Text
deriving Repr, DecidableEq

namespace FolderCatalog

def standardSuffixes : List Text :=
  [".cs".toList, ".vb".toList, ".fs".toList, ".fsx".toList, ".fsi".toList, ".cshtml".toList,
   ".vbhtml".toList, ".razor".toList]

def ofPath (machine : Machine) (path : Text) (suffixes : List Text) :
    Except SetupError FolderCatalog :=
  match machine.locate path with
  | .error error => .error (.resolution error)
  | .ok base =>
      match machine.hasFolder base with
      | .error error => .error (.resolution error)
      | .ok true => .ok { base, suffixes := suffixes.map Text.lower }
      | .ok false => .error (.noSuchFolder base.path)

/-- Whether a file of this name is a source file; the case of letters does not matter. -/
def wants (catalog : FolderCatalog) (name : Text) : Bool :=
  catalog.suffixes.any fun suffix => suffix.isSuffixOf name.lower

def paths (catalog : FolderCatalog) (tree : FileTree) : List Text :=
  (tree.filesBelow catalog.wants catalog.base.place).map fun place =>
    Location.path { catalog.base with place }

def isSafe (catalog : FolderCatalog) (machine : Machine) (path : Text) : Except PathError Bool :=
  if path.isEmpty then
    .ok false
  else
    (machine.resolve path).map fun location => location.isInside catalog.base

/-- The path relative to the folder, unless it is empty. -/
def relative? (catalog : FolderCatalog) (machine : Machine) (path : Text) : Option Text :=
  Path.relative? machine.workingFolder path catalog.base.path

end FolderCatalog

/-- Which files are searched. -/
inductive Catalog where
  | fixed (paths : List Text)
  | folder (catalog : FolderCatalog)
deriving Repr, DecidableEq

/-- The path of the folder that a catalog lists, if it lists one. -/
def Catalog.basePath? : Catalog → Option Text
  | .fixed _ => none
  | .folder catalog => some catalog.base.path

end SnippetSearch
