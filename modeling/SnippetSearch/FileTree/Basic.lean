import SnippetSearch.Path

/-!
# File trees

A file tree is a file with its bytes, a symbolic link with the path that it
points to, or a folder with named trees in it.
-/

namespace SnippetSearch

/-- A file, a symbolic link or a folder with everything below it. -/
inductive FileTree where
  | file (bytes : List UInt8)
  | link (target : Text)
  | folder (entries : List (Text × FileTree))
deriving Repr

namespace FileTree

def isFolder : FileTree → Bool
  | .folder _ => true
  | .file _ | .link _ => false

def child? (name : Text) : FileTree → Option FileTree
  | .folder entries => entries.lookup name
  | .file _ | .link _ => none

/-- The tree at a place, which no link leads to. -/
def at? (tree : FileTree) (place : Place) : Option FileTree :=
  place.foldlM (fun tree name => tree.child? name) tree

/-- The entries with one entry replaced, or added at the end. -/
def setEntry (name : Text) (tree : FileTree) :
    List (Text × FileTree) → List (Text × FileTree)
  | [] => [(name, tree)]
  | entry :: rest =>
      if entry.1 = name then (name, tree) :: rest else entry :: setEntry name tree rest

/-- The tree with another tree put at a place; folders on the way are made where they lack. -/
def put (new : FileTree) : Place → FileTree → FileTree
  | [], _ => new
  | name :: rest, .folder entries =>
      .folder (setEntry name (put new rest ((entries.lookup name).getD (.folder []))) entries)
  | name :: rest, .file _ | name :: rest, .link _ =>
      .folder [(name, put new rest (.folder []))]

/-- The tree without what stands at a place; the root cannot be removed. -/
def remove : Place → FileTree → FileTree
  | [], tree => tree
  | [name], .folder entries => .folder (entries.filter fun entry => entry.1 != name)
  | name :: rest, .folder entries =>
      .folder (entries.map fun entry =>
        if entry.1 = name then (name, remove rest entry.2) else entry)
  | _ :: _, tree => tree

/-- The tree with a folder at a place, which is kept if it is there. -/
def putFolder (place : Place) (tree : FileTree) : FileTree :=
  match tree.at? place with
  | some (.folder _) => tree
  | _ => put (.folder []) place tree

@[simp] theorem at?_nil (tree : FileTree) : tree.at? [] = some tree := rfl

@[simp] theorem at?_cons (tree : FileTree) (name : Text) (rest : Place) :
    tree.at? (name :: rest) = (tree.child? name).bind fun child => child.at? rest := rfl

end FileTree

end SnippetSearch
