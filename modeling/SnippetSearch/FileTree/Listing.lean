import SnippetSearch.FileTree.Walk
import SnippetSearch.StableSort

/-!
# Listing the files below a folder

The files of a folder come first, sorted by name, and then those of its
subfolders, sorted by name as well.  Hidden subfolders and links to folders
are not entered; links that lead to no folder count as files.
-/

namespace SnippetSearch

namespace FileTree

def isHidden (name : Text) : Bool :=
  name.head? == some '.'

/-- Whether an entry is listed as a file; `leadsOn` tells whether a link leads to a folder. -/
def isListedFile (leadsOn : Bool) : FileTree → Bool
  | .file _ => true
  | .link _ => !leadsOn
  | .folder _ => false

def sortByName {α : Type} (entries : List (Text × α)) : List (Text × α) :=
  StableSort.sort (fun earlier later => decide (earlier.1 < later.1)) entries

/-- The names of the files of a folder that are wanted, in order. -/
def fileNames (root : FileTree) (wanted : Text → Bool) (here : Place)
    (entries : List (Text × FileTree)) : List Text :=
  (sortByName (entries.filter fun entry =>
    isListedFile (root.leadsToFolder (here ++ [entry.1])) entry.2 && wanted entry.1)).map (·.1)

mutual

/--
The ways from a folder to the wanted files below it.  Each folder on them counts
as one that can be read, however long its path is and however deep it lies.
-/
def listing (root : FileTree) (wanted : Text → Bool) (here : Place) : FileTree → List (List Text)
  | .folder entries =>
      (fileNames root wanted here entries).map ([·]) ++
        (sortByName (folderListings root wanted here entries)).flatMap (·.2)
  | .file _ | .link _ => []

/-- The subfolders that are entered, each with the ways through it. -/
def folderListings (root : FileTree) (wanted : Text → Bool) (here : Place) :
    List (Text × FileTree) → List (Text × List (List Text))
  | [] => []
  | (name, tree) :: rest =>
      let others := folderListings root wanted here rest
      if tree.isFolder && !isHidden name then
        (name, (listing root wanted (here ++ [name]) tree).map (name :: ·)) :: others
      else
        others

end

def filesBelow (root : FileTree) (wanted : Text → Bool) (base : Place) : List Place :=
  match root.walk base with
  | .error _ => []
  | .ok place =>
      match root.at? place with
      | some tree => (listing root wanted place tree).map (base ++ ·)
      | none => []

end FileTree

end SnippetSearch
