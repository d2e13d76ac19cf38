import SnippetSearch.Embedding
import SnippetSearch.Json.Basic
import SnippetSearch.Machine

/-!
# Snapshots of machines

A machine can be written down as a JSON object: `folder` is the path of the
working folder, and `files`, `links` and `vectors` are objects that give files
their texts, links their targets, and texts the vectors that an embedding
service answers with.  Without `vectors` no service starts.
-/

namespace SnippetSearch

namespace Snapshot

/-- The fields of an object whose names are texts, or none. -/
def fieldsOf (value? : Option Json) : List (Text × Json) :=
  match value? with
  | some (.object fields) =>
      fields.filterMap fun (name, value) => name.text?.map fun name => (name, value)
  | _ => []

def textOf (value : Json) : Text :=
  value.text?.getD []

def placeOf (workingFolder : Place) (path : Text) : Place :=
  Path.lexicalPlace workingFolder path

def workingFolder (snapshot : Json) : Place :=
  placeOf [] (((snapshot.field? "folder".toList).map textOf).getD [])

/-- The tree with the files and links of a snapshot; the working folder is always there. -/
def tree (snapshot : Json) : FileTree :=
  let home := workingFolder snapshot
  let withFiles := (fieldsOf (snapshot.field? "files".toList)).foldl
    (fun tree (path, value) =>
      FileTree.put (.file (textOf value).toUtf8) (placeOf home path) tree)
    (FileTree.putFolder home (.folder []))
  (fieldsOf (snapshot.field? "links".toList)).foldl
    (fun tree (path, value) => FileTree.put (.link (textOf value)) (placeOf home path) tree)
    withFiles

def machine (snapshot : Json) (environment : Environment) : Machine :=
  { tree := tree snapshot
    workingFolder := workingFolder snapshot
    environment
    accountHomes := [] }

def vectorOf : Json → Embedding
  | .array items => items.filterMap fun
      | .number value => some value.toFloat
      | _ => none
  | _ => []

def service (snapshot : Json) : EmbeddingService :=
  let vectors? := snapshot.field? "vectors".toList
  { starts := vectors?.isSome
    reply := fun request =>
      match vectors?.bind (Json.member? request.text) with
      | some value => .values (vectorOf value)
      | none => .failure "no vector for this text".toList }

end Snapshot

end SnippetSearch
