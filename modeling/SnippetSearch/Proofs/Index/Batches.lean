import SnippetSearch.Proofs.Index.FixedFiles
import SnippetSearch.Proofs.Index.History

/-!
# Batches of paths

Paths can be indexed in one call or in several, and while files and replies
stay as they are their order and repetitions do not matter either: the same
files are read, and each of them has the same snippets in the same order.
Only the order of the files among each other may differ.
-/

namespace SnippetSearch

variable {σ : Type}

/-! ## One call or two -/

instance : Add IndexingSummary where
  add first second :=
    { indexedFiles := first.indexedFiles + second.indexedFiles
      skippedFiles := first.skippedFiles + second.skippedFiles
      snippetsWritten := first.snippetsWritten + second.snippetsWritten
      failedChunks := first.failedChunks + second.failedChunks }

theorem IndexingSummary.ofVisits_append (first second : List Visit) :
    ofVisits (first ++ second) = ofVisits first + ofVisits second := by
  simp only [ofVisits, List.filterMap_append, List.countP_append, List.flatMap_append,
    List.length_append]
  rfl

theorem IndexingRun.summary_after (run : IndexingRun) (visit : Visit) :
    (run.after visit).summary = .ofVisits [visit] + run.summary :=
  IndexingSummary.ofVisits_append [visit] run.visits

def IndexingRun.followedBy (first second : IndexingRun) : IndexingRun :=
  { second with visits := first.visits ++ second.visits }

theorem IndexingRun.summary_followedBy (first second : IndexingRun) :
    (first.followedBy second).summary = first.summary + second.summary :=
  IndexingSummary.ofVisits_append first.visits second.visits

namespace Indexer

variable {indexer : Indexer} {index : SnippetIndex}

/-- Going through two lists of paths is going through the first and then through the second. -/
theorem visitAll_append (around : Surroundings σ) {first : List Text}
    (clean : ∀ path ∈ first, Path.hasNull path = false) (second : List Text) (state : σ) :
    let one := indexer.visitAll around index first state
    let two := indexer.visitAll around one.1.index second one.2
    indexer.visitAll around index (first ++ second) state = (one.1.followedBy two.1, two.2) := by
  induction first generalizing index state with
  | nil => rfl
  | cons path rest ih =>
      obtain ⟨clean, cleanRest⟩ := List.forall_mem_cons.mp clean
      rw [List.cons_append]
      by_cases known : index.isIndexed path = true
      · rw [visitAll_cons_of_known known, visitAll_cons_of_known known, ih cleanRest]
        rfl
      by_cases ignored : indexer.filter.ignores path = true
      · rw [visitAll_cons_of_ignored known ignored, visitAll_cons_of_ignored known ignored,
          ih cleanRest]
        rfl
      · have unbroken : ¬ Path.hasNull path = true := Bool.eq_false_iff.mp clean
        rw [visitAll_cons_of_read known ignored unbroken around _ rfl,
          visitAll_cons_of_read known ignored unbroken around _ rfl, ih cleanRest]
        rfl

theorem run_append (around : Surroundings σ) {first : List Text}
    (clean : ∀ path ∈ first, Path.hasNull path = false) (second : List Text) (state : σ) :
    let one := indexer.run around index first state
    let two := indexer.run around one.1.index second one.2
    indexer.run around index (first ++ second) state = (one.1.followedBy two.1, two.2) := by
  by_cases available : indexer.provider.available = true
  · simp only [run, if_pos available]
    exact visitAll_append around clean second state
  · simp only [run, if_neg available]
    rfl

end Indexer

/-! ## Snippets of one file -/

namespace SnippetIndex

def snippet? (index : SnippetIndex) (key : SnippetKey) : Option Snippet :=
  index.snippets.find? fun snippet => snippet.key == key

/-- The snippets of the file at a path, in the order in which they were stored. -/
def snippetsOf (index : SnippetIndex) (path : Text) : List Snippet :=
  index.snippets.filter fun snippet => snippet.key.path == path

theorem snippet?_eq_find?_snippetsOf (index : SnippetIndex) (key : SnippetKey) :
    index.snippet? key = (index.snippetsOf key.path).find? fun snippet => snippet.key == key := by
  rw [snippet?, snippetsOf, List.find?_filter]
  congr 1
  funext snippet
  rw [Bool.eq_iff_iff, decide_eq_true_iff, beq_iff_eq, beq_iff_eq]
  exact ⟨fun same => ⟨congrArg SnippetKey.path same, same⟩, And.right⟩

theorem HoldsIndexedOnly.snippetsOf_eq_nil {index : SnippetIndex}
    (sound : index.HoldsIndexedOnly) {path : Text} (unknown : path ∉ index.indexedPaths) :
    index.snippetsOf path = [] := by
  refine List.filter_eq_nil_iff.mpr fun snippet stored same => unknown ?_
  rw [← eq_of_beq same]
  exact sound snippet stored

/--
A later index keeps what an earlier one holds, and holds for each file that has
been read since then the snippets that are its own.
-/
structure Extends (index later : SnippetIndex) (own : Text → List Snippet) : Prop where
  subset : index.indexedPaths ⊆ later.indexedPaths
  sound : later.HoldsIndexedOnly
  old : ∀ path ∈ index.indexedPaths, later.snippetsOf path = index.snippetsOf path
  new : ∀ path ∈ later.indexedPaths, path ∉ index.indexedPaths →
    later.snippetsOf path = own path

namespace Extends

variable {index later other : SnippetIndex} {own : Text → List Snippet}

theorem refl (sound : index.HoldsIndexedOnly) (own : Text → List Snippet) :
    index.Extends index own :=
  ⟨List.Subset.refl _, sound, fun _ _ => rfl, fun _ known unknown => absurd known unknown⟩

/-- Two later indexes that have read the same files hold the same snippets for each of them. -/
theorem snippetsOf_eq (left : index.Extends later own) (right : index.Extends other own)
    (same : ∀ path, path ∈ later.indexedPaths ↔ path ∈ other.indexedPaths) (path : Text) :
    later.snippetsOf path = other.snippetsOf path := by
  by_cases known : path ∈ later.indexedPaths
  · by_cases before : path ∈ index.indexedPaths
    · rw [left.old path before, right.old path before]
    · rw [left.new path known before, right.new path ((same path).mp known) before]
  · rw [left.sound.snippetsOf_eq_nil known,
      right.sound.snippetsOf_eq_nil fun read => known ((same path).mpr read)]

/-- Reading one more file goes on from a later index, if the file is stored with its own snippets. -/
theorem record (extended : index.Extends later own) {path content : Text}
    {attempts : List Attempt} (unknown : path ∉ later.indexedPaths)
    (stored : (Visit.indexed path content attempts).snippets = own path)
    (inFile : ∀ snippet ∈ own path, snippet.key.path = path) :
    index.Extends (later.record (.indexed path content attempts)) own := by
  have snippetsOf_eq (other : Text) :
      (later.record (.indexed path content attempts)).snippetsOf other =
        later.snippetsOf other ++ (own path).filter fun snippet => snippet.key.path == other := by
    rw [snippetsOf, SnippetIndex.record, List.filter_append, stored]
    rfl
  have elsewhere {other : Text} (differ : other ≠ path) :
      (own path).filter (fun snippet => snippet.key.path == other) = [] := by
    refine List.filter_eq_nil_iff.mpr fun snippet isOwn same => differ ?_
    rw [← eq_of_beq same, inFile snippet isOwn]
  constructor
  · exact fun _ known => List.mem_append_left _ (extended.subset known)
  · exact extended.sound.record _
  · intro other before
    have differ : other ≠ path := fun same => unknown (same ▸ extended.subset before)
    rw [snippetsOf_eq, elsewhere differ, List.append_nil, extended.old other before]
  · intro other known before
    rw [snippetsOf_eq]
    by_cases same : other = path
    · subst same
      rw [extended.sound.snippetsOf_eq_nil unknown, List.nil_append]
      exact List.filter_eq_self.mpr fun snippet isOwn => beq_iff_eq.mpr (inFile snippet isOwn)
    · rw [elsewhere same, List.append_nil]
      refine extended.new other ?_ before
      rcases List.mem_append.mp known with known | isPath
      · exact known
      · exact absurd (List.mem_singleton.mp isPath) same

end Extends

end SnippetIndex

/-! ## Any order -/

namespace Indexer

/-- Whether the file at a path is read when its turn comes: it is not ignored and can be read. -/
def Takes (indexer : Indexer) (read : Text → Option Text) (path : Text) : Prop :=
  indexer.filter.ignores path = false ∧ (read path).isSome = true

/-- The snippets of the file at a path, if it can be read. -/
def ownSnippets (indexer : Indexer) (read : Text → Option Text)
    (reply : EmbeddingRequest → EmbeddingReply) (path : Text) : List Snippet :=
  (read path).elim [] (indexer.fileSnippets reply path)

variable {indexer : Indexer} {read : Text → Option Text}
  {reply : EmbeddingRequest → EmbeddingReply} {list : FolderCatalog → List Text}
  {index : SnippetIndex}

theorem path_of_mem_ownSnippets {path : Text} {snippet : Snippet}
    (member : snippet ∈ indexer.ownSnippets read reply path) : snippet.key.path = path := by
  rw [ownSnippets] at member
  cases given : read path with
  | none =>
      rw [given] at member
      cases member
  | some content =>
      rw [given] at member
      exact path_of_mem_fileSnippets member

/-- What is read in a call are the files of its paths that are taken, and each stores its own. -/
theorem visitAll_extends (available : indexer.provider.available = true)
    (sound : index.HoldsIndexedOnly) (paths : List Text) :
    index.Extends (indexer.visitAll (.fixed read reply list) index paths ()).1.index
      (indexer.ownSnippets read reply) := by
  refine visitAll_preserves
    (motive := fun later _ => index.Extends later (indexer.ownSnippets read reply)) ?_
    (.refl sound _) paths
  intro later path _ unknown _ extended
  rw [SnippetIndex.isIndexed_iff_mem] at unknown
  rw [read_fixed available extended.sound unknown]
  cases given : read path with
  | none =>
      dsimp only
      rw [SnippetIndex.record_unreadable]
      exact extended
  | some content =>
      have own : indexer.ownSnippets read reply path = indexer.fileSnippets reply path content := by
        rw [ownSnippets, given]
        rfl
      refine extended.record unknown ?_ fun snippet => path_of_mem_ownSnippets
      rw [own]
      exact indexer.snippets_fileVisit reply path content

/-- After a call those files are read that were before, or that are taken when their turn comes. -/
theorem mem_indexedPaths_visitAll_iff {paths : List Text}
    (clean : ∀ path ∈ paths, Path.hasNull path = false) (other : Text) :
    other ∈ (indexer.visitAll (.fixed read reply list) index paths ()).1.index.indexedPaths ↔
      other ∈ index.indexedPaths ∨ (other ∈ paths ∧ indexer.Takes read other) := by
  induction paths generalizing index with
  | nil => simp [visitAll]
  | cons path rest ih =>
      obtain ⟨clean, cleanRest⟩ := List.forall_mem_cons.mp clean
      rw [List.mem_cons]
      by_cases known : index.isIndexed path = true
      · rw [visitAll_cons_of_known known]
        refine (ih cleanRest).trans ?_
        rw [SnippetIndex.isIndexed_iff_mem] at known
        by_cases same : other = path
        · simp only [same, known, true_or]
        · simp only [same, false_or]
      by_cases ignored : indexer.filter.ignores path = true
      · rw [visitAll_cons_of_ignored known ignored]
        refine (ih cleanRest).trans ?_
        by_cases same : other = path
        · simp only [same, Takes, ignored, Bool.true_eq_false, false_and, and_false]
        · simp only [same, false_or]
      have unbroken : ¬ Path.hasNull path = true := Bool.eq_false_iff.mp clean
      rcases indexer.read_cases (.fixed read reply list) index path () with
        ⟨missing, visited⟩ | ⟨content, attempts, after, readable, _, visited⟩
      · have unreadable : read path = none := missing
        rw [visitAll_cons_of_read known ignored unbroken _ _ visited]
        refine (ih cleanRest).trans ?_
        rw [SnippetIndex.record_unreadable]
        by_cases same : other = path
        · simp only [same, Takes, unreadable, Option.isSome_none, Bool.false_eq_true, and_false]
        · simp only [same, false_or]
      · have given : read path = some content := readable
        rw [visitAll_cons_of_read known ignored unbroken _ _ visited]
        refine (ih cleanRest).trans ?_
        change (other ∈ index.indexedPaths ++ [path] ∨ _) ↔ _
        rw [List.mem_append, List.mem_singleton]
        by_cases same : other = path
        · simp only [same, or_true, true_or, Takes, given, Option.isSome_some, ignored, and_self]
        · simp only [same, or_false, false_or]

/-- While nothing changes, calls for the same paths in any order read the same files. -/
theorem indexedPaths_run_iff {paths others : List Text}
    (clean : ∀ path ∈ paths, Path.hasNull path = false)
    (same : ∀ path, path ∈ paths ↔ path ∈ others) (path : Text) :
    path ∈ (indexer.run (.fixed read reply list) index paths ()).1.index.indexedPaths ↔
      path ∈ (indexer.run (.fixed read reply list) index others ()).1.index.indexedPaths := by
  by_cases available : indexer.provider.available = true
  · simp only [run, if_pos available]
    rw [mem_indexedPaths_visitAll_iff clean, mem_indexedPaths_visitAll_iff, same]
    exact fun other member => clean other ((same other).mpr member)
  · simp only [run, if_neg available]

/-- While nothing changes, calls for the same paths in any order store the same for each file. -/
theorem snippetsOf_run_eq (sound : index.HoldsIndexedOnly) {paths others : List Text}
    (clean : ∀ path ∈ paths, Path.hasNull path = false)
    (same : ∀ path, path ∈ paths ↔ path ∈ others) (path : Text) :
    (indexer.run (.fixed read reply list) index paths ()).1.index.snippetsOf path =
      (indexer.run (.fixed read reply list) index others ()).1.index.snippetsOf path := by
  have readAlike (path : Text) :
      path ∈ (indexer.run (.fixed read reply list) index paths ()).1.index.indexedPaths ↔
        path ∈ (indexer.run (.fixed read reply list) index others ()).1.index.indexedPaths :=
    indexedPaths_run_iff clean same path
  by_cases available : indexer.provider.available = true
  · simp only [run, if_pos available] at readAlike ⊢
    exact (visitAll_extends available sound paths).snippetsOf_eq
      (visitAll_extends available sound others) readAlike path
  · simp only [run, if_neg available]

end Indexer

/--
Batches and order do not matter.  From an index that any operations have led to,
while files and replies stay as they are: indexing two lists of paths at once leaves
the index that indexing one after the other leaves, with counts that add up; and two
lists of the same paths, in any order and with any repetitions, lead to the same read
files, the same snippet under each key, and the same snippets of each file in the same
order.
-/
theorem indexing_ignores_batches_and_order (indexer : Indexer) (around : Surroundings σ)
    (state : σ) (operations : List (IndexOperation σ)) (read : Text → Option Text)
    (reply : EmbeddingRequest → EmbeddingReply) (list : FolderCatalog → List Text) :
    let reached := (operations.foldl (indexer.perform around) (.empty, state)).1
    let call (index : SnippetIndex) (paths : List Text) : IndexingRun :=
      (indexer.run (.fixed read reply list) index paths ()).1
    (∀ first second : List Text, (∀ path ∈ first ++ second, Path.hasNull path = false) →
      let one := call reached first
      let two := call one.index second
      let both := call reached (first ++ second)
      both.index = two.index ∧ both.summary = one.summary + two.summary) ∧
    ∀ paths others : List Text, (∀ path ∈ paths, Path.hasNull path = false) →
      (∀ path, path ∈ paths ↔ path ∈ others) →
      let left := (call reached paths).index
      let right := (call reached others).index
      (∀ path, left.isIndexed path = right.isIndexed path) ∧
      (∀ key, left.snippet? key = right.snippet? key) ∧
      ∀ path, left.snippetsOf path = right.snippetsOf path := by
  intro reached call
  have sound := indexer.holdsIndexedOnly_of_operations around state operations
  constructor
  · intro first second clean one two both
    have both_eq : both = one.followedBy two := congrArg Prod.fst
      (indexer.run_append (.fixed read reply list) (List.forall_mem_append.mp clean).1 second ())
    rw [both_eq]
    exact ⟨rfl, one.summary_followedBy two⟩
  · intro paths others clean same left right
    have stored : ∀ path, left.snippetsOf path = right.snippetsOf path :=
      Indexer.snippetsOf_run_eq sound clean same
    refine ⟨fun path => ?_, fun key => ?_, stored⟩
    · rw [Bool.eq_iff_iff, left.isIndexed_iff_mem, right.isIndexed_iff_mem]
      exact Indexer.indexedPaths_run_iff clean same path
    · rw [left.snippet?_eq_find?_snippetsOf, right.snippet?_eq_find?_snippetsOf, stored]

end SnippetSearch
