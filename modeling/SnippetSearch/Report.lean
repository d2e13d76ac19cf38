import SnippetSearch.Path
import SnippetSearch.SearchResult

/-!
# Reports

Results are shown one below the other, each in a panel with the lines above
the code and the score below it.  Paths that start at the root are shown
relative to the folder that was searched.
-/

namespace SnippetSearch

/-- Something shown to the user: marked-up text, or code in a panel. -/
inductive Display where
  | line (markup : Text)
  | panel (title subtitle code : Text)
deriving Repr, DecidableEq

namespace Report

/-- Scores have three decimal places, and a zero keeps its minus sign. -/
def scoreFormat : Decimal.Format := ⟨3, true⟩

def nothingFound : Display :=
  .line "[bold yellow]No matching code found.[/]".toList

def shownPath (workingFolder : Place) (base path : Text) : Text :=
  if Path.isAbsolute path then
    (Path.relative? workingFolder path base).getD path
  else
    path

def title (workingFolder : Place) (base : Text) (result : SearchResult) : Text :=
  shownPath workingFolder base result.filePath ++ ':' :: Text.ofInt result.startLine ++
    '-' :: Text.ofInt result.endLine

def subtitle (result : SearchResult) : Text :=
  let score := "score ".toList ++ scoreFormat.text result.score
  if result.parentScope.isEmpty then score else score ++ " | ".toList ++ result.parentScope

def panel (workingFolder : Place) (base : Text) (result : SearchResult) : Display :=
  .panel (title workingFolder base result) (subtitle result) result.content

def ofResults (workingFolder : Place) (base : Text) (results : List SearchResult) :
    List Display :=
  if results.isEmpty then [nothingFound] else results.map (panel workingFolder base)

end Report

end SnippetSearch
