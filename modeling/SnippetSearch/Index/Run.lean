import SnippetSearch.IgnoreFilter
import SnippetSearch.Index.Visit
import SnippetSearch.Surroundings

/-!
# Indexing

Indexing goes through a list of paths, skips the files that have been read or
are ignored, and asks for the vectors of the others chunk by chunk.  A file
that cannot be read and a chunk without a vector stop nothing; a path with a
null character ends the call, and what was stored before it stays.
-/

namespace SnippetSearch

/-- How files are indexed: who embeds them, how they are cut, and which are left out. -/
structure Indexer where
  provider : Provider
  chunking : Chunking
  filter : IgnoreFilter

structure IndexingRun where
  visits : List Visit
  index : SnippetIndex
  interrupted : Bool

namespace IndexingRun

def after (visit : Visit) (run : IndexingRun) : IndexingRun :=
  { run with visits := visit :: run.visits }

def summary (run : IndexingRun) : IndexingSummary :=
  IndexingSummary.ofVisits run.visits

/-- What a run asked the service of a provider, in order. -/
def requests (provider : Provider) (run : IndexingRun) : List EmbeddingRequest :=
  (run.visits.flatMap Visit.attempts).map fun attempt =>
    provider.request .document (.ofText attempt.chunk.text)

end IndexingRun

namespace Indexer

variable {σ : Type}

/-- Asks for the vectors of chunks, one after the other. -/
def attemptAll (indexer : Indexer) (around : Surroundings σ) :
    List Chunk → σ → List Attempt × σ
  | [], state => ([], state)
  | chunk :: rest, state =>
      let (outcome, between) :=
        around.embed indexer.provider .document (.ofText chunk.text) state
      let (attempts, after) := indexer.attemptAll around rest between
      (⟨chunk, outcome⟩ :: attempts, after)

def read (indexer : Indexer) (around : Surroundings σ) (index : SnippetIndex) (path : Text)
    (state : σ) : Visit × σ :=
  match around.read path state with
  | (none, after) => (.unreadable path, after)
  | (some content, between) =>
      let (attempts, after) :=
        indexer.attemptAll around (index.candidates path (indexer.chunking.chunks content)) between
      (.indexed path content attempts, after)

def visitAll (indexer : Indexer) (around : Surroundings σ) :
    SnippetIndex → List Text → σ → IndexingRun × σ
  | index, [], state => ({ visits := [], index, interrupted := false }, state)
  | index, path :: rest, state =>
      if index.isIndexed path then
        let (run, after) := indexer.visitAll around index rest state
        (run.after (.known path), after)
      else if indexer.filter.ignores path then
        let (run, after) := indexer.visitAll around index rest state
        (run.after (.ignored path), after)
      else if Path.hasNull path then
        ({ visits := [], index, interrupted := true }, state)
      else
        let (visit, between) := indexer.read around index path state
        let (run, after) := indexer.visitAll around (index.record visit) rest between
        (run.after visit, after)

def run (indexer : Indexer) (around : Surroundings σ) (index : SnippetIndex) (paths : List Text)
    (state : σ) : IndexingRun × σ :=
  if indexer.provider.available then
    indexer.visitAll around index paths state
  else
    ({ visits := [], index, interrupted := false }, state)

end Indexer

end SnippetSearch
