import SnippetSearch.Proofs.Index.Visits

/-!
# Indexing again

While files and replies stay as they are, indexing the same paths again changes
nothing: what could be read is known, and what could not be read still cannot.
-/

namespace SnippetSearch

def IndexingRun.EndsLike (run other : IndexingRun) : Prop :=
  run.index = other.index ∧ run.interrupted = other.interrupted

theorem IndexingRun.EndsLike.trans {first second third : IndexingRun}
    (left : first.EndsLike second) (right : second.EndsLike third) : first.EndsLike third :=
  ⟨left.1.trans right.1, left.2.trans right.2⟩

def Indexer.PassesOver (indexer : Indexer) (read : Text → Option Text) (index : SnippetIndex)
    (path : Text) : Prop :=
  path ∈ index.indexedPaths ∨ indexer.filter.ignores path = true ∨
    (¬ Path.hasNull path = true ∧ read path = none)

def Indexer.Settles (indexer : Indexer) (around : Surroundings Unit) (index : SnippetIndex)
    (paths : List Text) : Prop :=
  let once := (indexer.visitAll around index paths ()).1
  (indexer.visitAll around once.index paths ()).1.EndsLike once

namespace Indexer

variable {indexer : Indexer} {read : Text → Option Text}
  {reply : EmbeddingRequest → EmbeddingReply} {list : FolderCatalog → List Text}
  {index : SnippetIndex} {path : Text}

theorem PassesOver.of_subset {wider : SnippetIndex} (passes : indexer.PassesOver read index path)
    (subset : index.indexedPaths ⊆ wider.indexedPaths) : indexer.PassesOver read wider path := by
  rcases passes with known | ignored | unreadable
  · exact .inl (subset known)
  · exact .inr (.inl ignored)
  · exact .inr (.inr unreadable)

theorem PassesOver.visitAll_cons (passes : indexer.PassesOver read index path)
    (reply : EmbeddingRequest → EmbeddingReply) (list : FolderCatalog → List Text)
    (rest : List Text) :
    (indexer.visitAll (.fixed read reply list) index (path :: rest) ()).1.EndsLike
      (indexer.visitAll (.fixed read reply list) index rest ()).1 := by
  by_cases known : index.isIndexed path = true
  · rw [visitAll_cons_of_known known]
    exact ⟨rfl, rfl⟩
  by_cases ignored : indexer.filter.ignores path = true
  · rw [visitAll_cons_of_ignored known ignored]
    exact ⟨rfl, rfl⟩
  rcases passes with indexed | isIgnored | ⟨clean, unreadable⟩
  · exact absurd ((index.isIndexed_iff_mem path).mpr indexed) known
  · exact absurd isIgnored ignored
  · have visited : indexer.read (.fixed read reply list) index path () =
        (.unreadable path, ()) := by
      simp only [Indexer.read, Surroundings.fixed, unreadable]
    rw [visitAll_cons_of_read known ignored clean _ rest visited,
      SnippetIndex.record_unreadable]
    exact ⟨rfl, rfl⟩

/--
If the first path leads to an index that passes over it, then the second time
only the remaining paths matter.
-/
theorem PassesOver.settles {between : SnippetIndex} (passes : indexer.PassesOver read between path)
    {rest : List Text}
    (first : (indexer.visitAll (.fixed read reply list) index (path :: rest) ()).1.EndsLike
      (indexer.visitAll (.fixed read reply list) between rest ()).1)
    (settled : indexer.Settles (.fixed read reply list) between rest) :
    indexer.Settles (.fixed read reply list) index (path :: rest) := by
  obtain ⟨sameIndex, sameEnd⟩ := first
  have later := passes.of_subset
    (indexer.indexedPaths_subset_visitAll (.fixed read reply list) between rest ())
  have second := (later.visitAll_cons reply list rest).trans settled
  constructor
  · rw [sameIndex]
    exact second.1
  · rw [sameIndex, sameEnd]
    exact second.2

/-- Going through the same paths again ends with the same index, and in the same way. -/
theorem settles (indexer : Indexer) (read : Text → Option Text)
    (reply : EmbeddingRequest → EmbeddingReply) (list : FolderCatalog → List Text)
    (index : SnippetIndex) (paths : List Text) :
    indexer.Settles (.fixed read reply list) index paths := by
  induction paths generalizing index with
  | nil => exact ⟨rfl, rfl⟩
  | cons path rest ih =>
      by_cases passes : indexer.PassesOver read index path
      · exact passes.settles (passes.visitAll_cons reply list rest) (ih index)
      rw [PassesOver, not_or, not_or, not_and'] at passes
      obtain ⟨unread, kept, readable⟩ := passes
      have unknown : ¬ index.isIndexed path = true := fun known =>
        unread ((index.isIndexed_iff_mem path).mp known)
      by_cases null : Path.hasNull path = true
      · -- The call ends here each time, and nothing has been stored.
        have ended := visitAll_cons_of_null unknown kept null (.fixed read reply list) rest ()
        constructor
        · rw [ended, ended]
        · rw [ended, ended]
      rcases indexer.read_cases (.fixed read reply list) index path () with
        ⟨missing, _⟩ | ⟨content, attempts, after, _, _, visited⟩
      · exact absurd null (readable missing)
      · have known : indexer.PassesOver read (index.record (.indexed path content attempts)) path :=
          .inl (List.mem_append_right _ (List.mem_singleton_self path))
        refine known.settles ?_ (ih _)
        rw [visitAll_cons_of_read unknown kept null _ rest visited]
        exact ⟨rfl, rfl⟩

theorem run_again (indexer : Indexer) (read : Text → Option Text)
    (reply : EmbeddingRequest → EmbeddingReply) (list : FolderCatalog → List Text)
    (index : SnippetIndex) (paths : List Text) :
    let once := (indexer.run (.fixed read reply list) index paths ()).1
    (indexer.run (.fixed read reply list) once.index paths ()).1.EndsLike once := by
  by_cases available : indexer.provider.available = true
  · simp only [run, if_pos available]
    exact indexer.settles read reply list index paths
  · simp only [run, if_neg available]
    exact ⟨rfl, rfl⟩

end Indexer

end SnippetSearch
