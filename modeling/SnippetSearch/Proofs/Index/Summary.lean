import Mathlib.Data.Finset.Card
import SnippetSearch.Proofs.Engine.Journal
import SnippetSearch.Proofs.Index.Batches

/-!
# What a call reports

The counts of a call say by how much the index has grown, how many vectors were
asked for, and what became of each path of the list.  That the numbers of stored
snippets and of read files are those of different keys and different paths is an
invariant of every index: nothing is stored twice.
-/

namespace SnippetSearch

variable {σ τ : Type}

open Inquiry

/-! ## Nothing is stored twice -/

def SnippetIndex.keys (index : SnippetIndex) : List SnippetKey :=
  index.snippets.map Snippet.key

/-- An index that names each of its files and each of its keys once. -/
structure SnippetIndex.StoresOnce (index : SnippetIndex) : Prop where
  paths_nodup : index.indexedPaths.Nodup
  keys_nodup : index.keys.Nodup

theorem Indexer.map_chunk_attemptAll (indexer : Indexer) (around : Surroundings σ)
    (chunks : List Chunk) (state : σ) :
    (indexer.attemptAll around chunks state).1.map Attempt.chunk = chunks := by
  induction chunks generalizing state with
  | nil => rfl
  | cons chunk rest ih => exact congrArg (List.cons chunk) (ih _)

/-- The keys of what attempts yield are some of the keys of their chunks, in their order. -/
theorem Attempt.keys_sublist (path : Text) (attempts : List Attempt) :
    ((attempts.filterMap (Attempt.snippet? path)).map Snippet.key).Sublist
      ((attempts.map Attempt.chunk).map (Chunk.key path)) := by
  induction attempts with
  | nil => exact .slnil
  | cons attempt rest ih =>
      obtain ⟨chunk, outcome⟩ := attempt
      cases outcome with
      | error _ => exact ih.cons _
      | ok _ => exact ih.cons_cons _

namespace SnippetIndex.StoresOnce

variable {index : SnippetIndex}

theorem empty : SnippetIndex.empty.StoresOnce :=
  ⟨.nil, .nil⟩

theorem record_indexed (once : index.StoresOnce) {path content : Text} {attempts : List Attempt}
    (unknown : path ∉ index.indexedPaths)
    (distinct : ((attempts.map Attempt.chunk).map (Chunk.key path)).Nodup)
    (fresh : ∀ attempt ∈ attempts, index.holds (attempt.chunk.key path) = false) :
    (index.record (.indexed path content attempts)).StoresOnce := by
  have keysSublist := Attempt.keys_sublist path attempts
  constructor
  · refine List.nodup_append.mpr ⟨once.paths_nodup, List.pairwise_singleton _ _, ?_⟩
    rintro other known _ isPath rfl
    rw [List.mem_singleton.mp isPath] at known
    exact unknown known
  · rw [keys, record, List.map_append]
    refine List.nodup_append.mpr ⟨once.keys_nodup, distinct.sublist keysSublist, ?_⟩
    rintro key old _ new rfl
    obtain ⟨snippet, stored, rfl⟩ := List.mem_map.mp old
    obtain ⟨chunk, isChunk, same⟩ := List.mem_map.mp (keysSublist.subset new)
    obtain ⟨attempt, made, rfl⟩ := List.mem_map.mp isChunk
    have held : index.holds (attempt.chunk.key path) = true :=
      List.any_eq_true.mpr ⟨snippet, stored, beq_iff_eq.mpr same.symm⟩
    rw [fresh attempt made] at held
    cases held

/-- Reading a new file stores nothing twice. -/
theorem read (once : index.StoresOnce) (indexer : Indexer) (around : Surroundings σ) {path : Text}
    (unknown : ¬ index.isIndexed path = true) (state : σ) :
    (index.record (indexer.read around index path state).1).StoresOnce := by
  rw [index.isIndexed_iff_mem] at unknown
  rcases indexer.read_cases around index path state with
    ⟨_, visited⟩ | ⟨content, attempts, after, _, attempted, visited⟩
  · rw [visited]
    dsimp only
    rw [record_unreadable]
    exact once
  · rw [visited]
    have chunks_eq := indexer.map_chunk_attemptAll around
      (index.candidates path (indexer.chunking.chunks content)) (around.read path state).2
    rw [attempted] at chunks_eq
    refine once.record_indexed unknown ?_ fun attempt made => ?_
    · rw [chunks_eq]
      exact index.nodup_key_candidates path _
    · have candidate : attempt.chunk ∈ index.candidates path (indexer.chunking.chunks content) :=
        chunks_eq ▸ List.mem_map_of_mem made
      simpa using (List.mem_filter.mp candidate).2

theorem visitAll (once : index.StoresOnce) (indexer : Indexer) (around : Surroundings σ)
    (paths : List Text) (state : σ) :
    (indexer.visitAll around index paths state).1.index.StoresOnce :=
  Indexer.visitAll_preserves (motive := fun later _ => later.StoresOnce)
    (fun _ _ between unknown _ sofar => sofar.read indexer around unknown between) once paths

/-- A call stores nothing twice. -/
theorem run (once : index.StoresOnce) (indexer : Indexer) (around : Surroundings σ)
    (paths : List Text) (state : σ) :
    (indexer.run around index paths state).1.index.StoresOnce := by
  rw [Indexer.run]
  split
  · exact once.visitAll indexer around paths state
  · exact once

/-- Whatever operations have led to an index, it stores nothing twice. -/
theorem of_operations (indexer : Indexer) (around : Surroundings σ) (state : σ)
    (operations : List (IndexOperation σ)) :
    (operations.foldl (indexer.perform around) (.empty, state)).1.StoresOnce := by
  refine List.foldlRecOn operations (indexer.perform around)
    (motive := fun reached : SnippetIndex × σ => reached.1.StoresOnce) empty ?_
  intro reached once operation _
  cases operation with
  | indexFiles paths => exact once.run indexer around paths reached.2
  | clear => exact empty
  | meanwhile change => exact once

end SnippetIndex.StoresOnce

/-! ## Requests and snippets -/

theorem Visit.length_attempts (visit : Visit) :
    visit.snippets.length + visit.attempts.countP Attempt.failed = visit.attempts.length := by
  cases visit with
  | indexed path content attempts =>
      dsimp only [snippets, Visit.attempts]
      induction attempts with
      | nil => rfl
      | cons attempt rest ih =>
          obtain ⟨chunk, outcome⟩ := attempt
          cases outcome with
          | error _ =>
              rw [List.filterMap_cons_none rfl, List.countP_cons_of_pos rfl, List.length_cons]
              omega
          | ok embedding =>
              have yields : Attempt.snippet? path ⟨chunk, .ok embedding⟩ =
                  some (.ofChunk path chunk embedding) := rfl
              rw [List.filterMap_cons_some yields, List.countP_cons_of_neg Bool.false_ne_true,
                List.length_cons, List.length_cons]
              omega
  | known path => rfl
  | ignored path => rfl
  | unreadable path => rfl

theorem IndexingRun.length_attempts (run : IndexingRun) :
    run.summary.snippetsWritten + run.summary.failedChunks = run.attempts.length := by
  rw [IndexingRun.attempts, summary, IndexingSummary.ofVisits]
  induction run.visits with
  | nil => rfl
  | cons visit rest ih =>
      have first := visit.length_attempts
      simp only [List.flatMap_cons, List.length_append, List.countP_append] at ih ⊢
      omega

theorem Indexer.length_requests {indexer : Indexer} (available : indexer.provider.available = true)
    (around : Surroundings σ) (index : SnippetIndex) (paths : List Text) (state : σ) :
    let done := indexer.visitAll around.recorded index paths (state, [])
    (done.2.2.filterMap exchange?).length = done.1.attempts.length := by
  obtain ⟨fresh, grows, asked⟩ :=
    indexer.visitAll_journal available around index paths (state, [])
  dsimp only
  rw [grows, List.nil_append]
  have counted := congrArg List.length asked
  rwa [outcomes, List.length_map, List.length_map] at counted

/-! ## Places of a list -/

/--
The number of places of a list at which a call comes upon a file that has been read by
then, before the call or at an earlier place.
-/
def Indexer.knownPlaces (indexer : Indexer) (around : Surroundings σ) (index : SnippetIndex)
    (paths : List Text) (state : σ) : Nat :=
  paths.zipIdx.countP fun (path, place) =>
    (indexer.run around index (paths.take place) state).1.index.isIndexed path

/-- A visit counts as one read file or one skipped file, unless the file was known. -/
theorem Visit.IsMadeAt.counted {visit : Visit} {index : SnippetIndex} {path : Text}
    (made : visit.IsMadeAt index path) :
    (IndexingSummary.ofVisits [visit]).indexedFiles +
      (IndexingSummary.ofVisits [visit]).skippedFiles + (index.isIndexed path).toNat = 1 := by
  cases visit with
  | known visited => rw [made.2]; rfl
  | ignored visited => rw [made.2]; rfl
  | unreadable visited => rw [made.2]; rfl
  | indexed visited content attempts => rw [made.2]; rfl

namespace Indexer

variable {indexer : Indexer}

/-- The first place counts if its file is known; the others count from the next index on. -/
theorem knownPlaces_cons (available : indexer.provider.available = true) {around : Surroundings σ}
    {index later : SnippetIndex} {visit : Visit} {path : Text} {state between : σ}
    (first : ∀ rest, indexer.visitAll around index (path :: rest) state =
      ((indexer.visitAll around later rest between).1.after visit,
        (indexer.visitAll around later rest between).2)) (rest : List Text) :
    indexer.knownPlaces around index (path :: rest) state =
      (index.isIndexed path).toNat + indexer.knownPlaces around later rest between := by
  simp only [knownPlaces, run, if_pos available]
  rw [List.zipIdx_cons, List.zipIdx_succ, List.countP_cons, List.countP_map, Nat.add_comm]
  congr 1
  · change (if index.isIndexed path = true then 1 else 0) = _
    cases index.isIndexed path <;> rfl
  · refine List.countP_congr fun entry _ => ?_
    dsimp only [Function.comp]
    rw [List.take_succ_cons, first]
    rfl

/-- In a call that is not interrupted each place is read, skipped or known. -/
theorem places_visitAll (available : indexer.provider.available = true)
    (around : Surroundings σ) {index : SnippetIndex} {paths : List Text} {state : σ}
    (complete : (indexer.visitAll around index paths state).1.interrupted = false) :
    let summary := (indexer.visitAll around index paths state).1.summary
    summary.indexedFiles + summary.skippedFiles +
      indexer.knownPlaces around index paths state = paths.length := by
  induction paths generalizing index state with
  | nil => rfl
  | cons path rest ih =>
      obtain ⟨visit, between, made, first⟩ :=
        indexer.exists_first_visit around index path state (goesOn_of_complete complete)
      rw [first] at complete
      have others := ih complete
      have one := made.counted
      dsimp only at others ⊢
      rw [first, IndexingRun.summary_after, knownPlaces_cons available first, List.length_cons]
      change (_ + _) + (_ + _) + _ = _
      omega

theorem growth_visitAll (indexer : Indexer) (around : Surroundings σ) (index : SnippetIndex)
    (paths : List Text) (state : σ) :
    let run := (indexer.visitAll around index paths state).1
    run.index.indexedPaths.length = index.indexedPaths.length + run.summary.indexedFiles ∧
      run.index.size = index.size + run.summary.snippetsWritten := by
  intro run
  have index_eq : run.index = run.visits.foldl SnippetIndex.record index :=
    indexer.visitAll_index around index paths state
  rw [index_eq, SnippetIndex.size, SnippetIndex.indexedPaths_foldl_record,
    SnippetIndex.snippets_foldl_record, List.length_append, List.length_append]
  exact ⟨rfl, rfl⟩

end Indexer

/--
The counts of a call are exact.  From an index that any operations have led to, with any
files and replies, a call with a service that comes to its end reports by how many paths
and by how many keys and snippets the index has grown; the written snippets and the failed
chunks are the requests that it made, and the read and the skipped files, with the places
at which a file was known already, are all places of the list.  Without a service all
counts are zero, nothing is asked and the index stays as it is.
-/
theorem indexing_summary_is_exact (earlier indexer : Indexer) (around : Surroundings σ)
    (state : σ) (operations : List (IndexOperation σ)) (present : Surroundings τ) (now : τ)
    (paths : List Text) :
    let reached := (operations.foldl (earlier.perform around) (.empty, state)).1
    let call := indexer.run present.recorded reached paths (now, [])
    let later := call.1.index
    let summary := call.1.summary
    let requests := call.2.2.filterMap exchange?
    (indexer.provider.available = true → call.1.interrupted = false →
      later.indexedPaths.toFinset.card =
        reached.indexedPaths.toFinset.card + summary.indexedFiles ∧
      later.keys.toFinset.card = reached.keys.toFinset.card + summary.snippetsWritten ∧
      later.size = reached.size + summary.snippetsWritten ∧
      summary.snippetsWritten + summary.failedChunks = requests.length ∧
      summary.indexedFiles + summary.skippedFiles +
        indexer.knownPlaces present.recorded reached paths (now, []) = paths.length) ∧
    (indexer.provider.available = false →
      summary = ⟨0, 0, 0, 0⟩ ∧ later = reached ∧ call.2 = (now, [])) := by
  intro reached call later summary requests
  have before : reached.StoresOnce := .of_operations earlier around state operations
  have after : later.StoresOnce := before.run indexer present.recorded paths (now, [])
  constructor
  · intro available complete
    have went : call = indexer.visitAll present.recorded reached paths (now, []) :=
      if_pos available
    obtain ⟨moreFiles, moreSnippets⟩ :=
      indexer.growth_visitAll present.recorded reached paths (now, [])
    rw [← went] at moreFiles moreSnippets
    refine ⟨?_, ?_, moreSnippets, ?_, ?_⟩
    · rw [List.toFinset_card_of_nodup after.paths_nodup,
        List.toFinset_card_of_nodup before.paths_nodup]
      exact moreFiles
    · rw [List.toFinset_card_of_nodup after.keys_nodup,
        List.toFinset_card_of_nodup before.keys_nodup, SnippetIndex.keys, SnippetIndex.keys,
        List.length_map, List.length_map]
      exact moreSnippets
    · have asked := Indexer.length_requests available present reached paths now
      rw [← went] at asked
      exact call.1.length_attempts.trans asked.symm
    · rw [went] at complete
      have counted := Indexer.places_visitAll available present.recorded complete
      rw [← went] at counted
      exact counted
  · intro unavailable
    have nothing : call = ({ visits := [], index := reached, interrupted := false }, (now, [])) :=
      if_neg (Bool.eq_false_iff.mp unavailable)
    exact ⟨congrArg (IndexingRun.summary ∘ Prod.fst) nothing,
      congrArg (IndexingRun.index ∘ Prod.fst) nothing, congrArg Prod.snd nothing⟩

end SnippetSearch
