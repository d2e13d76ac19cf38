import SnippetSearch.Index.Run

/-!
# One path after the other

What indexing does at the first of several paths: it passes over a file that is
known or ignored, ends at a null character, and reads any other file.
-/

namespace SnippetSearch

variable {σ : Type} {indexer : Indexer} {index : SnippetIndex} {path : Text}

@[simp] theorem SnippetIndex.record_unreadable (index : SnippetIndex) (path : Text) :
    index.record (.unreadable path) = index := by
  simp [record, Visit.snippets, Visit.indexedPath?]

@[simp] theorem SnippetIndex.record_known (index : SnippetIndex) (path : Text) :
    index.record (.known path) = index := by
  simp [record, Visit.snippets, Visit.indexedPath?]

@[simp] theorem SnippetIndex.record_ignored (index : SnippetIndex) (path : Text) :
    index.record (.ignored path) = index := by
  simp [record, Visit.snippets, Visit.indexedPath?]

theorem SnippetIndex.snippets_foldl_record (index : SnippetIndex) (visits : List Visit) :
    (visits.foldl record index).snippets = index.snippets ++ visits.flatMap Visit.snippets := by
  induction visits generalizing index with
  | nil => exact (List.append_nil _).symm
  | cons visit rest ih =>
      rw [List.foldl_cons, ih, List.flatMap_cons, ← List.append_assoc]
      rfl

theorem SnippetIndex.indexedPaths_foldl_record (index : SnippetIndex) (visits : List Visit) :
    (visits.foldl record index).indexedPaths =
      index.indexedPaths ++ visits.filterMap Visit.indexedPath? := by
  induction visits generalizing index with
  | nil => exact (List.append_nil _).symm
  | cons visit rest ih =>
      rw [List.foldl_cons, ih, record, List.append_assoc, List.filterMap_cons]
      cases visit.indexedPath? with
      | none => rfl
      | some path => rfl

theorem SnippetIndex.isIndexed_iff_mem (index : SnippetIndex) (path : Text) :
    index.isIndexed path = true ↔ path ∈ index.indexedPaths :=
  List.contains_iff_mem

theorem Visit.path_mem_of_mem_snippets {visit : Visit} {snippet : Snippet}
    (stored : snippet ∈ visit.snippets) : snippet.key.path ∈ visit.indexedPath? := by
  cases visit with
  | indexed path content attempts =>
      obtain ⟨attempt, _, yields⟩ := List.mem_filterMap.mp stored
      rw [Attempt.snippet?] at yields
      split at yields
      · obtain rfl := Option.some.inj yields
        rfl
      · cases yields
  | known path => cases stored
  | ignored path => cases stored
  | unreadable path => cases stored

/--
Whether a visit is one that an index makes at a path: it passes over the file as
known exactly if it has been read.
-/
def Visit.IsMadeAt (index : SnippetIndex) (path : Text) : Visit → Prop
  | .known visited => visited = path ∧ index.isIndexed path = true
  | .ignored visited | .unreadable visited | .indexed visited _ _ =>
      visited = path ∧ index.isIndexed path = false

namespace Indexer

theorem visitAll_cons_of_known (known : index.isIndexed path = true) (around : Surroundings σ)
    (rest : List Text) (state : σ) :
    indexer.visitAll around index (path :: rest) state =
      ((indexer.visitAll around index rest state).1.after (.known path),
        (indexer.visitAll around index rest state).2) := by
  rw [visitAll, if_pos known]

theorem visitAll_cons_of_ignored (unknown : ¬ index.isIndexed path = true)
    (ignored : indexer.filter.ignores path = true) (around : Surroundings σ) (rest : List Text)
    (state : σ) :
    indexer.visitAll around index (path :: rest) state =
      ((indexer.visitAll around index rest state).1.after (.ignored path),
        (indexer.visitAll around index rest state).2) := by
  rw [visitAll, if_neg unknown, if_pos ignored]

theorem visitAll_cons_of_null (unknown : ¬ index.isIndexed path = true)
    (kept : ¬ indexer.filter.ignores path = true) (null : Path.hasNull path = true)
    (around : Surroundings σ) (rest : List Text) (state : σ) :
    indexer.visitAll around index (path :: rest) state =
      ({ visits := [], index, interrupted := true }, state) := by
  rw [visitAll, if_neg unknown, if_neg kept, if_pos null]

theorem visitAll_cons_of_read (unknown : ¬ index.isIndexed path = true)
    (kept : ¬ indexer.filter.ignores path = true) (clean : ¬ Path.hasNull path = true)
    (around : Surroundings σ) (rest : List Text) {state between : σ} {visit : Visit}
    (read : indexer.read around index path state = (visit, between)) :
    indexer.visitAll around index (path :: rest) state =
      ((indexer.visitAll around (index.record visit) rest between).1.after visit,
        (indexer.visitAll around (index.record visit) rest between).2) := by
  rw [visitAll, if_neg unknown, if_neg kept, if_neg clean, read]

/--
What becomes of the first path: it is passed over without any effect, or ends the
call, or is read, and the rest of the paths comes after that.
-/
theorem visitAll_cons_cases (indexer : Indexer) (around : Surroundings σ) (index : SnippetIndex)
    (path : Text) (rest : List Text) (state : σ) :
    (∃ visit : Visit, visit.attempts = [] ∧ index.record visit = index ∧
        indexer.visitAll around index (path :: rest) state =
          ((indexer.visitAll around index rest state).1.after visit,
            (indexer.visitAll around index rest state).2)) ∨
      (Path.hasNull path = true ∧
        indexer.visitAll around index (path :: rest) state =
          ({ visits := [], index, interrupted := true }, state)) ∨
      (¬ index.isIndexed path = true ∧ ¬ indexer.filter.ignores path = true ∧
        ∃ visit between, indexer.read around index path state = (visit, between) ∧
          indexer.visitAll around index (path :: rest) state =
            ((indexer.visitAll around (index.record visit) rest between).1.after visit,
              (indexer.visitAll around (index.record visit) rest between).2)) := by
  by_cases known : index.isIndexed path = true
  · exact .inl ⟨.known path, rfl, index.record_known path,
      visitAll_cons_of_known known around rest state⟩
  by_cases ignored : indexer.filter.ignores path = true
  · exact .inl ⟨.ignored path, rfl, index.record_ignored path,
      visitAll_cons_of_ignored known ignored around rest state⟩
  by_cases null : Path.hasNull path = true
  · exact .inr (.inl ⟨null, visitAll_cons_of_null known ignored null around rest state⟩)
  · exact .inr (.inr ⟨known, ignored, _, _, rfl,
      visitAll_cons_of_read known ignored null around rest rfl⟩)

/-- A visit that reads a file says so, or that the file cannot be read. -/
theorem read_cases (indexer : Indexer) (around : Surroundings σ) (index : SnippetIndex)
    (path : Text) (state : σ) :
    ((around.read path state).1 = none ∧
        indexer.read around index path state = (.unreadable path, (around.read path state).2)) ∨
      ∃ content attempts after, (around.read path state).1 = some content ∧
        indexer.attemptAll around
            (index.candidates path (indexer.chunking.chunks content))
            (around.read path state).2 = (attempts, after) ∧
        indexer.read around index path state = (.indexed path content attempts, after) := by
  rw [Indexer.read]
  rcases around.read path state with ⟨_ | content, between⟩
  · exact .inl ⟨rfl, rfl⟩
  · exact .inr ⟨content, _, _, rfl, rfl, rfl⟩

/-- A path that does not end the call makes one visit, whatever paths come behind it. -/
theorem exists_first_visit (indexer : Indexer) (around : Surroundings σ) (index : SnippetIndex)
    (path : Text) (state : σ)
    (goesOn : index.isIndexed path = true ∨ indexer.filter.ignores path = true ∨
      Path.hasNull path = false) :
    ∃ (visit : Visit) (between : σ), visit.IsMadeAt index path ∧
      ∀ rest, indexer.visitAll around index (path :: rest) state =
        ((indexer.visitAll around (index.record visit) rest between).1.after visit,
          (indexer.visitAll around (index.record visit) rest between).2) := by
  by_cases known : index.isIndexed path = true
  · refine ⟨.known path, state, ⟨rfl, known⟩, fun rest => ?_⟩
    rw [visitAll_cons_of_known known, SnippetIndex.record_known]
  have unknown := Bool.eq_false_iff.mpr known
  by_cases ignored : indexer.filter.ignores path = true
  · refine ⟨.ignored path, state, ⟨rfl, unknown⟩, fun rest => ?_⟩
    rw [visitAll_cons_of_ignored known ignored, SnippetIndex.record_ignored]
  have clean : ¬ Path.hasNull path = true :=
    Bool.eq_false_iff.mp ((goesOn.resolve_left known).resolve_left ignored)
  rcases indexer.read_cases around index path state with
    ⟨_, visited⟩ | ⟨content, attempts, after, _, _, visited⟩
  · exact ⟨.unreadable path, _, ⟨rfl, unknown⟩,
      fun rest => visitAll_cons_of_read known ignored clean around rest visited⟩
  · exact ⟨.indexed path content attempts, after, ⟨rfl, unknown⟩,
      fun rest => visitAll_cons_of_read known ignored clean around rest visited⟩

theorem goesOn_of_complete {around : Surroundings σ} {rest : List Text} {state : σ}
    (complete : (indexer.visitAll around index (path :: rest) state).1.interrupted = false) :
    index.isIndexed path = true ∨ indexer.filter.ignores path = true ∨
      Path.hasNull path = false := by
  by_cases known : index.isIndexed path = true
  · exact .inl known
  by_cases ignored : indexer.filter.ignores path = true
  · exact .inr (.inl ignored)
  by_cases null : Path.hasNull path = true
  · rw [visitAll_cons_of_null known ignored null] at complete
    cases complete
  · exact .inr (.inr (Bool.eq_false_iff.mpr null))

theorem visitAll_preserves {around : Surroundings σ} {motive : SnippetIndex → σ → Prop}
    (step : ∀ index path state, ¬ index.isIndexed path = true →
      ¬ indexer.filter.ignores path = true → motive index state →
        motive (index.record (indexer.read around index path state).1)
          (indexer.read around index path state).2)
    {state : σ} (initially : motive index state) (paths : List Text) :
    motive (indexer.visitAll around index paths state).1.index
      (indexer.visitAll around index paths state).2 := by
  induction paths generalizing index state with
  | nil => exact initially
  | cons path rest ih =>
      rcases indexer.visitAll_cons_cases around index path rest state with
        ⟨visit, _, _, passed⟩ | ⟨_, ended⟩ | ⟨unknown, kept, visit, between, read, went⟩
      · rw [passed]
        exact ih initially
      · rw [ended]
        exact initially
      · have stepped := step index path state unknown kept initially
        rw [read] at stepped
        rw [went]
        exact ih stepped

theorem visitAll_index (indexer : Indexer) (around : Surroundings σ) (index : SnippetIndex)
    (paths : List Text) (state : σ) :
    let done := indexer.visitAll around index paths state
    done.1.index = done.1.visits.foldl SnippetIndex.record index := by
  induction paths generalizing index state with
  | nil => rfl
  | cons path rest ih =>
      rcases indexer.visitAll_cons_cases around index path rest state with
        ⟨visit, _, same, passed⟩ | ⟨_, ended⟩ | ⟨_, _, visit, between, _, went⟩
      · rw [passed]
        dsimp only [IndexingRun.after]
        rw [List.foldl_cons, same]
        exact ih index state
      · rw [ended]
        rfl
      · rw [went]
        exact ih (index.record visit) between

theorem indexedPaths_subset_visitAll (indexer : Indexer) (around : Surroundings σ)
    (index : SnippetIndex) (paths : List Text) (state : σ) :
    index.indexedPaths ⊆ (indexer.visitAll around index paths state).1.index.indexedPaths := by
  refine visitAll_preserves (motive := fun later _ => index.indexedPaths ⊆ later.indexedPaths) ?_
    (List.Subset.refl _) paths
  intro later path between _ _ subset
  exact fun _ member => List.mem_append_left _ (subset member)

end Indexer

end SnippetSearch
