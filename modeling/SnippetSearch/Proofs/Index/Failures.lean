import Mathlib.Data.List.Forall2
import Mathlib.Data.Set.Basic
import SnippetSearch.Proofs.Engine.Journal
import SnippetSearch.Proofs.Index.Batches
import SnippetSearch.Proofs.Index.Encodings

/-!
# Failures stay where they are

A request that fails costs the snippet of its chunk, and a file that cannot be
read costs one place among the skipped files; nothing else changes.  Two runs
are compared visit by visit: what one of them loses at a path has no influence
on what either of them does at the next.
-/

namespace SnippetSearch

variable {σ : Type}

/-! ## Requests that fail -/

/-- Replies that fail on some texts and are as others on all the rest. -/
structure Indexer.FailsOn (indexer : Indexer) (refused : Set Text)
    (reply failing : EmbeddingRequest → EmbeddingReply) : Prop where
  fails : ∀ text ∈ refused, ∃ error,
    (failing (indexer.provider.request .document (.ofText text))).vector = .error error
  keeps : ∀ text ∉ refused, failing (indexer.provider.request .document (.ofText text)) =
    reply (indexer.provider.request .document (.ofText text))

/-- A visit does what another does at its path, without the snippets of some texts. -/
structure Visit.LosesOnly (refused : Set Text) [DecidablePred (· ∈ refused)]
    (whole less : Visit) : Prop where
  indexedPath?_eq : less.indexedPath? = whole.indexedPath?
  isSkipped_eq : less.isSkipped = whole.isSkipped
  snippets_eq : less.snippets = whole.snippets.filter fun snippet => snippet.content ∉ refused

section Refused

variable {refused : Set Text} [DecidablePred (· ∈ refused)] {indexer : Indexer}
  {read : Text → Option Text} {reply failing : EmbeddingRequest → EmbeddingReply}
  {list : FolderCatalog → List Text}

/-- A visit that stores nothing has nothing to lose. -/
theorem Visit.LosesOnly.of_snippets_eq_nil {visit : Visit} (nothing : visit.snippets = []) :
    visit.LosesOnly refused visit := by
  refine ⟨rfl, rfl, ?_⟩
  rw [nothing]
  rfl

/-- An attempt fails if its text is refused, and has the same outcome as before if it is not. -/
theorem Indexer.FailsOn.snippet?_attempt (fails : indexer.FailsOn refused reply failing)
    (path : Text) (chunk : Chunk) :
    (indexer.attempt failing chunk).snippet? path =
      ((indexer.attempt reply chunk).snippet? path).filter fun snippet =>
        snippet.content ∉ refused := by
  rw [attempt, attempt]
  by_cases lost : chunk.text ∈ refused
  · obtain ⟨error, failed⟩ := fails.fails chunk.text lost
    rw [failed, Attempt.snippet?, Attempt.snippet?]
    dsimp only
    split
    · rw [Option.filter_some_neg]
      exact decide_eq_false (not_not.mpr lost)
    · rfl
  · rw [fails.keeps chunk.text lost, Attempt.snippet?]
    dsimp only
    split
    · rw [Option.filter_some_pos]
      exact decide_eq_true lost
    · rfl

/-- A file loses the snippets whose texts are refused, and no others. -/
theorem Indexer.FailsOn.losesOnly_fileVisit (fails : indexer.FailsOn refused reply failing)
    (path content : Text) :
    (indexer.fileVisit reply path content).LosesOnly refused
      (indexer.fileVisit failing path content) := by
  refine ⟨rfl, rfl, ?_⟩
  rw [snippets_fileVisit, snippets_fileVisit, fileSnippets, fileSnippets, List.filter_filterMap]
  exact List.filterMap_congr fun chunk _ => fails.snippet?_attempt path chunk

/-- Reading a new file loses the refused texts only, whatever snippets are stored of other files. -/
theorem Indexer.FailsOn.losesOnly_read (fails : indexer.FailsOn refused reply failing)
    (available : indexer.provider.available = true) {whole less : SnippetIndex}
    (wholeSound : whole.HoldsIndexedOnly) (lessSound : less.HoldsIndexedOnly) {path : Text}
    (wholeNew : path ∉ whole.indexedPaths) (lessNew : path ∉ less.indexedPaths) :
    (indexer.read (.fixed read reply list) whole path ()).1.LosesOnly refused
      (indexer.read (.fixed read failing list) less path ()).1 := by
  rw [read_fixed available wholeSound wholeNew, read_fixed available lessSound lessNew]
  cases read path with
  | none => exact .of_snippets_eq_nil rfl
  | some content => exact fails.losesOnly_fileVisit path content

/--
Indexes that have read the same files go through a list of paths side by side: at each
path the visit with the failing replies loses the refused texts only.
-/
theorem Indexer.FailsOn.losesOnly_visits (fails : indexer.FailsOn refused reply failing)
    (available : indexer.provider.available = true) {whole less : SnippetIndex}
    (wholeSound : whole.HoldsIndexedOnly) (lessSound : less.HoldsIndexedOnly)
    (same : less.indexedPaths = whole.indexedPaths) (paths : List Text) :
    List.Forall₂ (Visit.LosesOnly refused)
      (indexer.visitAll (.fixed read reply list) whole paths ()).1.visits
      (indexer.visitAll (.fixed read failing list) less paths ()).1.visits := by
  induction paths generalizing whole less with
  | nil => exact .nil
  | cons path rest ih =>
      -- Both runs take the same branch, which hangs on the files that have been read alone.
      have alike : less.isIndexed path = whole.isIndexed path := by
        rw [SnippetIndex.isIndexed, SnippetIndex.isIndexed, same]
      by_cases known : whole.isIndexed path = true
      · rw [visitAll_cons_of_known known, visitAll_cons_of_known (alike.trans known)]
        exact .cons (.of_snippets_eq_nil rfl) (ih wholeSound lessSound same)
      have unknown : ¬ less.isIndexed path = true := alike ▸ known
      by_cases ignored : indexer.filter.ignores path = true
      · rw [visitAll_cons_of_ignored known ignored, visitAll_cons_of_ignored unknown ignored]
        exact .cons (.of_snippets_eq_nil rfl) (ih wholeSound lessSound same)
      by_cases null : Path.hasNull path = true
      · rw [visitAll_cons_of_null known ignored null, visitAll_cons_of_null unknown ignored null]
        exact .nil
      · rw [visitAll_cons_of_read known ignored null _ rest rfl,
          visitAll_cons_of_read unknown ignored null _ rest rfl]
        rw [SnippetIndex.isIndexed_iff_mem] at known unknown
        have loses : (indexer.read (.fixed read reply list) whole path ()).1.LosesOnly refused
            (indexer.read (.fixed read failing list) less path ()).1 :=
          fails.losesOnly_read available wholeSound lessSound known unknown
        refine .cons loses (ih (wholeSound.record _) (lessSound.record _) ?_)
        exact congrArg₂ (fun paths path? => paths ++ Option.toList path?) same
          loses.indexedPath?_eq

/-- What is common to visits of which some lose snippets, and what is left of their snippets. -/
theorem Visit.LosesOnly.of_forall₂ {visits others : List Visit}
    (loses : List.Forall₂ (Visit.LosesOnly refused) visits others) :
    others.filterMap Visit.indexedPath? = visits.filterMap Visit.indexedPath? ∧
      others.countP Visit.isSkipped = visits.countP Visit.isSkipped ∧
      others.flatMap Visit.snippets =
        (visits.flatMap Visit.snippets).filter fun snippet => snippet.content ∉ refused := by
  induction loses with
  | nil => exact ⟨rfl, rfl, rfl⟩
  | cons first _ ih =>
      obtain ⟨sameFiles, sameSkips, fewer⟩ := ih
      refine ⟨?_, ?_, ?_⟩
      · rw [List.filterMap_cons, List.filterMap_cons, first.indexedPath?_eq, sameFiles]
      · rw [List.countP_cons, List.countP_cons, first.isSkipped_eq, sameSkips]
      · rw [List.flatMap_cons, List.flatMap_cons, List.filter_append, first.snippets_eq, fewer]

/-- A call with failing replies reads and skips the same files, and loses the refused texts only. -/
theorem Indexer.FailsOn.run (fails : indexer.FailsOn refused reply failing)
    {index : SnippetIndex} (sound : index.HoldsIndexedOnly) (paths : List Text) :
    let whole := (indexer.run (.fixed read reply list) index paths ()).1
    let less := (indexer.run (.fixed read failing list) index paths ()).1
    less.index.indexedPaths = whole.index.indexedPaths ∧
      less.summary.indexedFiles = whole.summary.indexedFiles ∧
      less.summary.skippedFiles = whole.summary.skippedFiles ∧
      ∃ stored, whole.index.snippets = index.snippets ++ stored ∧
        less.index.snippets =
          index.snippets ++ stored.filter fun snippet => snippet.content ∉ refused := by
  intro whole less
  by_cases available : indexer.provider.available = true
  · have wholeRun : whole = (indexer.visitAll (.fixed read reply list) index paths ()).1 :=
      congrArg Prod.fst (if_pos available)
    have lessRun : less = (indexer.visitAll (.fixed read failing list) index paths ()).1 :=
      congrArg Prod.fst (if_pos available)
    have loses : List.Forall₂ (Visit.LosesOnly refused) whole.visits less.visits := by
      rw [wholeRun, lessRun]
      exact fails.losesOnly_visits available sound sound rfl paths
    have wholeIndex : whole.index = whole.visits.foldl SnippetIndex.record index := by
      rw [wholeRun]
      exact indexer.visitAll_index _ index paths ()
    have lessIndex : less.index = less.visits.foldl SnippetIndex.record index := by
      rw [lessRun]
      exact indexer.visitAll_index _ index paths ()
    obtain ⟨sameFiles, sameSkips, fewer⟩ := Visit.LosesOnly.of_forall₂ loses
    refine ⟨?_, congrArg List.length sameFiles, sameSkips, whole.visits.flatMap Visit.snippets,
      ?_, ?_⟩
    · rw [wholeIndex, lessIndex, SnippetIndex.indexedPaths_foldl_record,
        SnippetIndex.indexedPaths_foldl_record, sameFiles]
    · rw [wholeIndex, SnippetIndex.snippets_foldl_record]
    · rw [lessIndex, SnippetIndex.snippets_foldl_record, fewer]
  · have same : less = whole :=
      congrArg Prod.fst ((if_neg available).trans (if_neg available).symm)
    have unchanged : whole.index = index :=
      congrArg (IndexingRun.index ∘ Prod.fst) (if_neg available)
    rw [same, unchanged]
    exact ⟨rfl, rfl, rfl, [], (List.append_nil _).symm, (List.append_nil _).symm⟩

end Refused

/-! ## Files that cannot be read -/

def IndexingSummary.skippingMore (summary : IndexingSummary) (more : Nat) : IndexingSummary :=
  { summary with skippedFiles := summary.skippedFiles + more }

theorem IndexingSummary.add_skippingMore (first second : IndexingSummary) (more : Nat) :
    first + second.skippingMore more = (first + second).skippingMore more :=
  congrArg (fun skipped => { first + second with skippedFiles := skipped })
    (Nat.add_assoc _ _ _).symm

theorem IndexingSummary.ofVisits_unreadable_add (path : Text) (summary : IndexingSummary)
    (more : Nat) :
    ofVisits [.unreadable path] + summary.skippingMore more = summary.skippingMore (more + 1) := by
  obtain ⟨indexedFiles, skippedFiles, snippetsWritten, failedChunks⟩ := summary
  change IndexingSummary.mk (0 + indexedFiles) (1 + (skippedFiles + more)) (0 + snippetsWritten)
    (0 + failedChunks) = ⟨indexedFiles, skippedFiles + (more + 1), snippetsWritten, failedChunks⟩
  rw [Nat.zero_add, Nat.zero_add, Nat.zero_add, Nat.add_comm 1, Nat.add_assoc]

/-- A visit at a path leaves other paths as they were, read or unread. -/
theorem Visit.IsMadeAt.isIndexed_record {visit : Visit} {index : SnippetIndex} {path other : Text}
    (made : visit.IsMadeAt index path) (differ : other ≠ path) :
    (index.record visit).isIndexed other = index.isIndexed other := by
  cases visit with
  | known visited => rw [SnippetIndex.record_known]
  | ignored visited => rw [SnippetIndex.record_ignored]
  | unreadable visited => rw [SnippetIndex.record_unreadable]
  | indexed visited content attempts =>
      obtain ⟨rfl, _⟩ := made
      rw [Bool.eq_iff_iff, SnippetIndex.isIndexed_iff_mem, SnippetIndex.isIndexed_iff_mem]
      change other ∈ index.indexedPaths ++ [visited] ↔ _
      rw [List.mem_append, List.mem_singleton, or_iff_left differ]

namespace Indexer

variable {indexer : Indexer} {read : Text → Option Text}
  {reply : EmbeddingRequest → EmbeddingReply} {list : FolderCatalog → List Text}
  {index : SnippetIndex}

def Misses (indexer : Indexer) (read : Text → Option Text) (index : SnippetIndex) (path : Text) :
    Prop :=
  index.isIndexed path = false ∧ indexer.filter.ignores path = false ∧ read path = none

/-- A file that cannot be read is skipped, and the call goes on with the same index. -/
theorem visitAll_cons_of_misses {path : Text} (misses : indexer.Misses read index path)
    (clean : Path.hasNull path = false) (rest : List Text) :
    (indexer.visitAll (.fixed read reply list) index (path :: rest) ()).1 =
      (indexer.visitAll (.fixed read reply list) index rest ()).1.after (.unreadable path) := by
  obtain ⟨unknown, kept, missing⟩ := misses
  have visited : indexer.read (.fixed read reply list) index path () = (.unreadable path, ()) := by
    rw [Indexer.read]
    dsimp only [Surroundings.fixed]
    rw [missing]
  rw [visitAll_cons_of_read (Bool.eq_false_iff.mp unknown) (Bool.eq_false_iff.mp kept)
    (Bool.eq_false_iff.mp clean) _ rest visited, SnippetIndex.record_unreadable]

/-- Leaving out files that cannot be read changes the number of skipped files only. -/
theorem visitAll_filter_lost {lost : Set Text} [DecidablePred (· ∈ lost)]
    (misses : ∀ path ∈ lost, indexer.Misses read index path) {paths : List Text}
    (clean : ∀ path ∈ paths, Path.hasNull path = false) :
    let whole := (indexer.visitAll (.fixed read reply list) index paths ()).1
    let rest := (indexer.visitAll (.fixed read reply list) index
      (paths.filter (· ∉ lost)) ()).1
    whole.index = rest.index ∧
      whole.summary = rest.summary.skippingMore (paths.countP (· ∈ lost)) := by
  induction paths generalizing index with
  | nil => exact ⟨rfl, rfl⟩
  | cons path rest ih =>
      obtain ⟨clean, cleanRest⟩ := List.forall_mem_cons.mp clean
      by_cases isLost : path ∈ lost
      · obtain ⟨sameIndex, counts⟩ := ih misses cleanRest
        rw [List.filter_cons_of_neg (by simpa using isLost),
          List.countP_cons_of_pos (by simpa using isLost),
          visitAll_cons_of_misses (misses path isLost) clean rest]
        refine ⟨sameIndex, ?_⟩
        rw [IndexingRun.summary_after, counts, IndexingSummary.ofVisits_unreadable_add]
      · obtain ⟨visit, between, made, first⟩ := indexer.exists_first_visit
          (.fixed read reply list) index path () (.inr (.inr clean))
        -- Whatever is read here, it is none of the lost files, so they stay unread.
        have stillMisses : ∀ other ∈ lost, indexer.Misses read (index.record visit) other := by
          intro other otherLost
          have differ : other ≠ path := fun same => isLost (same ▸ otherLost)
          obtain ⟨unknown, kept, missing⟩ := misses other otherLost
          exact ⟨(made.isIndexed_record differ).trans unknown, kept, missing⟩
        obtain ⟨sameIndex, counts⟩ := ih stillMisses cleanRest
        rw [List.filter_cons_of_pos (by simpa using isLost),
          List.countP_cons_of_neg (by simpa using isLost), first, first]
        refine ⟨sameIndex, ?_⟩
        rw [IndexingRun.summary_after, IndexingRun.summary_after, counts,
          IndexingSummary.add_skippingMore]

/-- A call without the files that it cannot read leaves the same index. -/
theorem run_filter_lost {lost : Set Text} [DecidablePred (· ∈ lost)]
    (misses : ∀ path ∈ lost, indexer.Misses read index path) {paths : List Text}
    (clean : ∀ path ∈ paths, Path.hasNull path = false) :
    let whole := (indexer.run (.fixed read reply list) index paths ()).1
    let rest := (indexer.run (.fixed read reply list) index (paths.filter (· ∉ lost)) ()).1
    whole.index = rest.index ∧
      (indexer.provider.available = true →
        whole.summary = rest.summary.skippingMore (paths.countP (· ∈ lost))) := by
  by_cases available : indexer.provider.available = true
  · simp only [run, if_pos available]
    obtain ⟨sameIndex, counts⟩ := visitAll_filter_lost misses clean
    exact ⟨sameIndex, fun _ => counts⟩
  · simp only [run, if_neg available]
    exact ⟨trivial, fun given => absurd given available⟩

/-- A call for paths without null characters comes to its end. -/
theorem run_not_interrupted (indexer : Indexer) (around : Surroundings σ) {paths : List Text}
    (clean : ∀ path ∈ paths, Path.hasNull path = false) (index : SnippetIndex) (state : σ) :
    (indexer.run around index paths state).1.interrupted = false := by
  rw [Indexer.run]
  split
  · exact indexer.visitAll_not_interrupted around clean index state
  · rfl

end Indexer

/--
Failures do not affect their siblings.  From an index that any operations have led to,
while files and replies stay as they are:

* if requests for some texts fail and all others are answered as before, a call reads and
  skips the same files, and stores in the same order and with the same vectors the snippets
  that it would have stored, without those texts;
* if some files cannot be read, neither known nor ignored, a call leaves the index that it
  leaves without their paths, and with a service it counts the same, apart from one
  skipped file for each of their places.
-/
theorem failures_spare_siblings (indexer : Indexer) (around : Surroundings σ) (state : σ)
    (operations : List (IndexOperation σ)) (read : Text → Option Text)
    (reply : EmbeddingRequest → EmbeddingReply) (list : FolderCatalog → List Text)
    {paths : List Text} (clean : ∀ path ∈ paths, Path.hasNull path = false) :
    let reached := (operations.foldl (indexer.perform around) (.empty, state)).1
    let call (reply : EmbeddingRequest → EmbeddingReply) (paths : List Text) : IndexingRun :=
      (indexer.run (.fixed read reply list) reached paths ()).1
    (∀ (refused : Set Text) [DecidablePred (· ∈ refused)]
      (failing : EmbeddingRequest → EmbeddingReply), indexer.FailsOn refused reply failing →
      let whole := call reply paths
      let less := call failing paths
      whole.interrupted = false ∧ less.interrupted = false ∧
      less.index.indexedPaths = whole.index.indexedPaths ∧
      less.summary.indexedFiles = whole.summary.indexedFiles ∧
      less.summary.skippedFiles = whole.summary.skippedFiles ∧
      ∃ stored, whole.index.snippets = reached.snippets ++ stored ∧
        less.index.snippets =
          reached.snippets ++ stored.filter fun snippet => snippet.content ∉ refused) ∧
    ∀ (lost : Set Text) [DecidablePred (· ∈ lost)],
      (∀ path ∈ lost, indexer.Misses read reached path) →
      let whole := call reply paths
      let rest := call reply (paths.filter (· ∉ lost))
      whole.interrupted = false ∧ rest.interrupted = false ∧
      whole.index = rest.index ∧
      (indexer.provider.available = true →
        whole.summary = rest.summary.skippingMore (paths.countP (· ∈ lost))) := by
  intro reached call
  have sound : reached.HoldsIndexedOnly :=
    indexer.holdsIndexedOnly_of_operations around state operations
  constructor
  · intro refused _ failing fails whole less
    exact ⟨indexer.run_not_interrupted _ clean reached (),
      indexer.run_not_interrupted _ clean reached (), fails.run sound paths⟩
  · intro lost _ misses whole rest
    have cleanRest : ∀ path ∈ paths.filter (· ∉ lost), Path.hasNull path = false :=
      fun path member => clean path (List.mem_of_mem_filter member)
    exact ⟨indexer.run_not_interrupted _ clean reached (),
      indexer.run_not_interrupted _ cleanRest reached (), Indexer.run_filter_lost misses clean⟩

/-- The first of the ranges of lines that are stored for the namespace with two classes. -/
def firstClassText : Text :=
  "namespace N\nclass A \x7b \x7d".toList

def readTwoClasses (path : Text) : Option Text :=
  if path = "n.cs".toList then some twoClassText else none

/-- Answers as the constant service, but refuses the first range. -/
def refusingReply (request : EmbeddingRequest) : EmbeddingReply :=
  if request.text = .ofText firstClassText then .failure "quota".toList
  else constantService.reply request

set_option maxRecDepth 20000 in
/--
The refused range is missing from the two that would be stored, and the two places of the
file that cannot be read are counted and do no more.
-/
theorem failures_spare_siblings_twoClasses :
    let call (reply : EmbeddingRequest → EmbeddingReply) (paths : List Text) : IndexingRun :=
      (standardIndexer.run (.fixed readTwoClasses reply fun _ => []) .empty paths ()).1
    let lost := "lost.cs".toList
    let paths := [lost, "n.cs".toList, lost]
    (call constantService.reply paths).summary = ⟨1, 2, 2, 0⟩ ∧
      (call refusingReply paths).index.indexedPaths = ["n.cs".toList] ∧
      (call refusingReply paths).index.size = 1 := by
  intro call lost paths
  have clean : ∀ path ∈ paths, Path.hasNull path = false := by decide
  obtain ⟨spared, skipped⟩ := failures_spare_siblings standardIndexer
    (.fixed readTwoClasses constantService.reply fun _ => []) () [] readTwoClasses
    constantService.reply (fun _ => []) clean
  have refuses : standardIndexer.FailsOn {text | text = firstClassText} constantService.reply
      refusingReply := by
    constructor
    · rintro _ rfl
      exact ⟨_, congrArg EmbeddingReply.vector (if_pos rfl)⟩
    · intro text other
      exact if_neg fun same => other (LooseText.ofText_injective same)
  have misses : ∀ path ∈ {path | path = lost},
      standardIndexer.Misses readTwoClasses .empty path := by
    rintro _ rfl
    exact ⟨rfl, by decide +kernel, by decide⟩
  obtain ⟨_, _, sameFiles, _, _, stored, whole_eq, less_eq⟩ := spared _ refusingReply refuses
  obtain ⟨_, _, _, counts⟩ := skipped _ misses
  have stored_eq : stored = (call constantService.reply paths).index.snippets :=
    (whole_eq.trans (List.nil_append stored)).symm
  refine ⟨(counts rfl).trans ?_, sameFiles.trans ?_, ?_⟩
  · decide +kernel
  · decide +kernel
  · refine (congrArg List.length less_eq).trans ?_
    rw [stored_eq]
    decide +kernel

end SnippetSearch
