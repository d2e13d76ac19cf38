import SnippetSearch.Json.Printer
import SnippetSearch.Json.Shortest

/-!
# Search results

A result is a snippet with its similarity to the query and the declarations
around it.  As JSON it is an object with six fields in a fixed order.
-/

namespace SnippetSearch

structure SearchResult where
  filePath : Text
  startLine : Int
  endLine : Int
  content : Text
  score : Float
  parentScope : Text
deriving Repr

namespace SearchResult

def unavailable : SearchResult :=
  { filePath := "semantic_search_unavailable".toList
    startLine := 0
    endLine := 0
    content :=
      ("Semantic search is unavailable because embedding provider credentials " ++
        "are not configured. Set GOOGLE_API_KEY to enable it.").toList
    score := 0
    parentScope := [] }

def json (result : SearchResult) : Json :=
  .record
    [("filePath".toList, .ofText result.filePath),
     ("startLine".toList, .ofInt result.startLine),
     ("endLine".toList, .ofInt result.endLine),
     ("content".toList, .ofText result.content),
     ("score".toList, .number (.ofFloat result.score)),
     ("parentScope".toList, .ofText result.parentScope)]

def jsonArray (results : List SearchResult) : Json :=
  .array (results.map json)

end SearchResult

end SnippetSearch
