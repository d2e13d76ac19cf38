import SnippetSearch.Engine.Basic
import SnippetSearch.Ranking
import SnippetSearch.Scope
import SnippetSearch.SearchResult

/-!
# Searching

A search first indexes the catalog, then asks for the vector of the query,
ranks the snippets by their similarity to it, and reads the files of the best
ones again for the declarations around them.  Without a service there is one
result that says so, and nothing is indexed.
-/

namespace SnippetSearch

def defaultLimit : Nat := 5

inductive SearchError where
  | negativeLimit
  | nullByte
  | query (error : EmbeddingError)
  | dimensions (mismatch : DimensionMismatch)
deriving Repr, DecidableEq

def SearchError.message : SearchError → Text
  | .negativeLimit => "top_k must be >= 0".toList
  | .nullByte => PathError.nullByte.message
  | .query error => "Failed to embed query: ".toList ++ error.message
  | .dimensions mismatch => mismatch.message

/-- What a search came to, which paths it visited, what it asked, and what it left indexed. -/
structure SearchRun where
  outcome : Except SearchError (List SearchResult)
  visits : List Visit
  requests : List EmbeddingRequest
  index : SnippetIndex

def SearchRun.ended (outcome : Except SearchError (List SearchResult)) (index : SnippetIndex) :
    SearchRun :=
  { outcome, visits := [], requests := [], index }

namespace Engine

variable {σ : Type}

/-- The results for ranked snippets, each with the scope of its first line. -/
def results (around : Surroundings σ) : List (Snippet × Float) → σ → List SearchResult × σ
  | [], state => ([], state)
  | (snippet, score) :: rest, state =>
      let (text?, between) := around.read snippet.key.path state
      let (others, after) := results around rest between
      ({ filePath := snippet.key.path
         startLine := snippet.key.startLine
         endLine := snippet.key.endLine
         content := snippet.content
         score
         parentScope := Scope.ofFile text? snippet.key.startLine } :: others, after)

def rank (around : Surroundings σ) (index : SnippetIndex) (query : Embedding) (limit : Int)
    (state : σ) : Except SearchError (List SearchResult) × σ :=
  match Ranking.top Snippet.embedding index.snippets query limit with
  | .error mismatch => (.error (.dimensions mismatch), state)
  | .ok ranked =>
      let (results, after) := results around ranked state
      (.ok results, after)

def answer (engine : Engine) (around : Surroundings σ) (run : IndexingRun)
    (query : LooseText) (limit : Int) (state : σ) : SearchRun × σ :=
  let provider := engine.indexer.provider
  let unasked (outcome : Except SearchError (List SearchResult)) : SearchRun :=
    { outcome
      visits := run.visits
      requests := run.requests provider
      index := run.index }
  if run.interrupted then
    (unasked (.error .nullByte), state)
  else if run.index.snippets.isEmpty || limit == 0 then
    (unasked (.ok []), state)
  else
    let (vector, between) := around.embed provider .query query state
    let (outcome, after) :=
      match vector with
      | .error error => (.error (.query error), between)
      | .ok vector => rank around run.index vector limit between
    ({ outcome
       visits := run.visits
       requests := run.requests provider ++ [provider.request .query query]
       index := run.index }, after)

def search (engine : Engine) (around : Surroundings σ) (query : LooseText) (limit : Int)
    (state : σ) : SearchRun × σ :=
  if limit < 0 then
    (.ended (.error .negativeLimit) engine.index, state)
  else if engine.isAvailable then
    let (paths, listed) := around.paths engine.catalog state
    let (run, indexed) := engine.indexer.run around engine.index paths listed
    engine.answer around run query limit indexed
  else
    (.ended (.ok [.unavailable]) engine.index, state)

def withIndex (engine : Engine) (index : SnippetIndex) : Engine :=
  { engine with index }

end Engine

end SnippetSearch
