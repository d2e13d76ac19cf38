import SnippetSearch.Proofs.Index.Candidates
import SnippetSearch.Proofs.Index.Visits

/-!
# Files and replies that stay as they are

While files and replies are fixed, what is stored for a file that has not been
read before follows from its content alone: its wanted chunks, each with the
vector that the service gives for it.
-/

namespace SnippetSearch

namespace Indexer

/-- What comes of the request for the vector of a chunk if replies are fixed. -/
def attempt (indexer : Indexer) (reply : EmbeddingRequest → EmbeddingReply) (chunk : Chunk) :
    Attempt :=
  ⟨chunk, (reply (indexer.provider.request .document (.ofText chunk.text))).vector⟩

/-- The snippets of a file with the given content: its wanted chunks that are given a vector. -/
def fileSnippets (indexer : Indexer) (reply : EmbeddingRequest → EmbeddingReply)
    (path content : Text) : List Snippet :=
  (indexer.chunking.wantedChunks content).filterMap fun chunk =>
    (indexer.attempt reply chunk).snippet? path

/-- The visit of a file with the given content, if it has not been read before. -/
def fileVisit (indexer : Indexer) (reply : EmbeddingRequest → EmbeddingReply)
    (path content : Text) : Visit :=
  .indexed path content ((indexer.chunking.wantedChunks content).map (indexer.attempt reply))

variable {indexer : Indexer} {read : Text → Option Text}
  {reply : EmbeddingRequest → EmbeddingReply} {list : FolderCatalog → List Text}
  {index : SnippetIndex} {path : Text}

theorem snippets_fileVisit (indexer : Indexer) (reply : EmbeddingRequest → EmbeddingReply)
    (path content : Text) :
    (indexer.fileVisit reply path content).snippets =
      indexer.fileSnippets reply path content := by
  rw [fileVisit, Visit.snippets, List.filterMap_map]
  rfl

theorem path_of_mem_fileSnippets {content : Text} {snippet : Snippet}
    (member : snippet ∈ indexer.fileSnippets reply path content) : snippet.key.path = path := by
  rw [← snippets_fileVisit] at member
  exact (Option.some.inj (Visit.path_mem_of_mem_snippets member)).symm

theorem attemptAll_fixed (available : indexer.provider.available = true) (chunks : List Chunk) :
    indexer.attemptAll (.fixed read reply list) chunks () =
      (chunks.map (indexer.attempt reply), ()) := by
  induction chunks with
  | nil => rfl
  | cons chunk rest ih =>
      rw [attemptAll, Surroundings.embed, if_pos available]
      dsimp only [Surroundings.fixed] at ih ⊢
      rw [ih]
      rfl

/-- Reading a file that is not known yields its visit, if it can be read. -/
theorem read_fixed (available : indexer.provider.available = true)
    (sound : index.HoldsIndexedOnly) (unknown : path ∉ index.indexedPaths) :
    indexer.read (.fixed read reply list) index path () =
      match read path with
      | none => (.unreadable path, ())
      | some content => (indexer.fileVisit reply path content, ()) := by
  rw [Indexer.read]
  dsimp only [Surroundings.fixed]
  cases read path with
  | none => rfl
  | some content =>
      dsimp only
      rw [SnippetIndex.candidates_eq_wantedChunks sound unknown]
      exact congrArg (fun done => (Visit.indexed path content done.1, done.2))
        (attemptAll_fixed available (indexer.chunking.wantedChunks content))

end Indexer

namespace SnippetIndex

variable {index : SnippetIndex}

theorem HoldsIndexedOnly.record (sound : index.HoldsIndexedOnly) (visit : Visit) :
    (index.record visit).HoldsIndexedOnly := by
  intro snippet stored
  rcases List.mem_append.mp stored with stored | stored
  · exact List.mem_append_left _ (sound snippet stored)
  · exact List.mem_append_right _ (Option.mem_toList.mpr (Visit.path_mem_of_mem_snippets stored))

end SnippetIndex

end SnippetSearch
