import SnippetSearch.Chunk
import SnippetSearch.Similarity

/-!
# Snippet indexes

A snippet is a chunk of a file together with its vector.  An index holds
snippets in the order in which they were stored, no two of them under the
same key, and remembers which files it has read.
-/

namespace SnippetSearch

/-- Where a snippet comes from: a file and a range of its lines. -/
structure SnippetKey where
  path : Text
  startLine : Nat
  endLine : Nat
deriving Repr, DecidableEq

def Chunk.key (path : Text) (chunk : Chunk) : SnippetKey :=
  ⟨path, chunk.startLine, chunk.endLine⟩

structure Snippet where
  key : SnippetKey
  content : Text
  embedding : Embedding
deriving Repr

def Snippet.ofChunk (path : Text) (chunk : Chunk) (embedding : Embedding) : Snippet :=
  { key := chunk.key path, content := chunk.text, embedding }

/-- The snippets that have been stored and the paths of the files that have been read. -/
structure SnippetIndex where
  snippets : List Snippet
  indexedPaths : List Text
deriving Repr

namespace SnippetIndex

/-- The index that holds nothing. -/
def empty : SnippetIndex := ⟨[], []⟩

def isIndexed (index : SnippetIndex) (path : Text) : Bool :=
  index.indexedPaths.contains path

def holds (index : SnippetIndex) (key : SnippetKey) : Bool :=
  index.snippets.any fun snippet => snippet.key == key

def size (index : SnippetIndex) : Nat :=
  index.snippets.length

end SnippetIndex

end SnippetSearch
