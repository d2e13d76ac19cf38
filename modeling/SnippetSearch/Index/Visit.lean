import SnippetSearch.CodeLine
import SnippetSearch.Embedding
import SnippetSearch.Index.Basic

/-!
# Visits

Indexing visits paths one after the other.  A visit says all that happened at
one path: that the file had been read before, is ignored or cannot be read,
or with which content it was read and what came of each request for a vector.
What an index holds follows from its visits alone.
-/

namespace SnippetSearch

/-- The request for the vector of a chunk and what came of it. -/
structure Attempt where
  chunk : Chunk
  outcome : Except EmbeddingError Embedding

inductive Visit where
  | known (path : Text)
  | ignored (path : Text)
  | unreadable (path : Text)
  | indexed (path content : Text) (attempts : List Attempt)

namespace Attempt

/-- The snippet that an attempt yields, unless it failed. -/
def snippet? (path : Text) (attempt : Attempt) : Option Snippet :=
  match attempt.outcome with
  | .ok embedding => some (Snippet.ofChunk path attempt.chunk embedding)
  | .error _ => none

def failed (attempt : Attempt) : Bool :=
  match attempt.outcome with
  | .ok _ => false
  | .error _ => true

end Attempt

/-- The chunks that are left if only the first of each range of lines is kept. -/
def firstOfEachRange : List Chunk → List Chunk
  | [] => []
  | chunk :: rest =>
      chunk :: (firstOfEachRange rest).filter fun other =>
        !(other.startLine == chunk.startLine && other.endLine == chunk.endLine)

namespace SnippetIndex

/--
The chunks of a file that need a vector: those that carry code, the first of
each range of lines, and no range that is stored already.
-/
def candidates (index : SnippetIndex) (path : Text) (chunks : List Chunk) : List Chunk :=
  (firstOfEachRange (chunks.filter fun chunk => CodeLine.carriesCode chunk.text)).filter
    fun chunk => !index.holds (chunk.key path)

end SnippetIndex

namespace Visit

def snippets : Visit → List Snippet
  | .indexed path _ attempts => attempts.filterMap (Attempt.snippet? path)
  | .known _ | .ignored _ | .unreadable _ => []

/-- The path of the file that a visit reads, if it reads one. -/
def indexedPath? : Visit → Option Text
  | .indexed path _ _ => some path
  | .known _ | .ignored _ | .unreadable _ => none

def attempts : Visit → List Attempt
  | .indexed _ _ attempts => attempts
  | .known _ | .ignored _ | .unreadable _ => []

def isSkipped : Visit → Bool
  | .ignored _ | .unreadable _ => true
  | .known _ | .indexed .. => false

end Visit

def SnippetIndex.record (index : SnippetIndex) (visit : Visit) : SnippetIndex :=
  { snippets := index.snippets ++ visit.snippets
    indexedPaths := index.indexedPaths ++ visit.indexedPath?.toList }

/-- What a call reports: counts of files and of chunks. -/
structure IndexingSummary where
  indexedFiles : Nat
  skippedFiles : Nat
  snippetsWritten : Nat
  failedChunks : Nat
deriving Repr, DecidableEq

def IndexingSummary.ofVisits (visits : List Visit) : IndexingSummary :=
  { indexedFiles := (visits.filterMap Visit.indexedPath?).length
    skippedFiles := visits.countP Visit.isSkipped
    snippetsWritten := (visits.flatMap Visit.snippets).length
    failedChunks := (visits.flatMap Visit.attempts).countP Attempt.failed }

end SnippetSearch
