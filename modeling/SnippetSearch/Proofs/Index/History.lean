import SnippetSearch.Proofs.Index.Readings

/-!
# Indexes and their history

An index is used in any order of calls and clearings, while files, replies and
all else may change at any time.  It always holds exactly what the journal kept
since it was last empty tells: the files that could be read, as they were read,
and of their chunks those that were given a vector.
-/

namespace SnippetSearch

variable {σ : Type}

open Inquiry

/-! ## What a journal says about an index -/

/-- An index holds what a journal tells, no more and no less. -/
structure SnippetIndex.Reflects (indexer : Indexer) (journal : List Inquiry)
    (index : SnippetIndex) : Prop where
  indexedPaths_eq : index.indexedPaths = (fileReadings journal).map FileReading.path
  indexedPaths_nodup : index.indexedPaths.Nodup
  snippets_eq :
    index.snippets = (fileReadings journal).flatMap (FileReading.snippets indexer.chunking)
  not_ignored : ∀ path text?, .read path text? ∈ journal → indexer.filter.ignores path = false
  asks_once : ∀ reading ∈ fileReadings journal, reading.AsksOncePerChunk indexer
  asks_nothing_else :
    journal.filterMap exchange? = (fileReadings journal).flatMap FileReading.exchanges

namespace SnippetIndex.Reflects

variable {indexer : Indexer} {journal : List Inquiry} {index : SnippetIndex}

theorem empty (indexer : Indexer) : SnippetIndex.empty.Reflects indexer [] :=
  ⟨rfl, .nil, rfl, by simp, by simp [fileReadings], rfl⟩

theorem holdsIndexedOnly (reflects : index.Reflects indexer journal) :
    index.HoldsIndexedOnly := by
  intro snippet stored
  rw [reflects.snippets_eq] at stored
  obtain ⟨reading, isReading, given⟩ := List.mem_flatMap.mp stored
  rw [reflects.indexedPaths_eq, FileReading.path_of_mem_snippets given]
  exact List.mem_map_of_mem isReading

theorem isIndexed_iff (reflects : index.Reflects indexer journal) (path : Text) :
    index.isIndexed path = true ↔
      indexer.filter.ignores path = false ∧ ∃ content, .read path (some content) ∈ journal := by
  rw [SnippetIndex.isIndexed, List.contains_iff_mem, reflects.indexedPaths_eq,
    mem_map_path_fileReadings]
  constructor
  · rintro ⟨content, wasRead⟩
    exact ⟨reflects.not_ignored path _ wasRead, content, wasRead⟩
  · rintro ⟨_, wasRead⟩
    exact wasRead

theorem unreadable (reflects : index.Reflects indexer journal) {path : Text}
    (kept : indexer.filter.ignores path = false) :
    index.Reflects indexer (journal ++ [.read path none]) := by
  have readings : fileReadings (journal ++ [.read path none]) = fileReadings journal := by
    rw [fileReadings_append journal rfl]
    exact List.append_nil _
  refine ⟨?_, reflects.indexedPaths_nodup, ?_, ?_, ?_, ?_⟩
  · rw [readings]
    exact reflects.indexedPaths_eq
  · rw [readings]
    exact reflects.snippets_eq
  · intro other text? asked
    rcases List.mem_append.mp asked with asked | asked
    · exact reflects.not_ignored other text? asked
    · cases List.mem_singleton.mp asked
      exact kept
  · rw [readings]
    exact reflects.asks_once
  · rw [readings, List.filterMap_append, reflects.asks_nothing_else]
    exact List.append_nil _

theorem indexed (reflects : index.Reflects indexer journal) {path content : Text}
    {answers : List (Chunk × EmbeddingReply)} (unknown : path ∉ index.indexedPaths)
    (kept : indexer.filter.ignores path = false)
    (asked : answers.map Prod.fst = indexer.chunking.wantedChunks content) :
    (index.record (.indexed path content (answers.map attemptOf))).Reflects indexer
      (journal ++ (indexer.reading path content answers).inquiries) := by
  have readings : fileReadings (journal ++ (indexer.reading path content answers).inquiries) =
      fileReadings journal ++ [indexer.reading path content answers] := by
    rw [fileReadings_append journal rfl, fileReadings_inquiries]
  constructor
  · rw [readings, List.map_append, ← reflects.indexedPaths_eq]
    rfl
  · change (index.indexedPaths ++ [path]).Nodup
    exact List.nodup_append.mpr ⟨reflects.indexedPaths_nodup, List.pairwise_singleton _ _,
      fun other known _ isPath same => unknown (List.mem_singleton.mp isPath ▸ same ▸ known)⟩
  · rw [readings, List.flatMap_append, ← reflects.snippets_eq, List.flatMap_singleton,
      indexer.snippets_reading asked]
    rfl
  · intro other text? wasRead
    rcases List.mem_append.mp wasRead with wasRead | wasRead
    · exact reflects.not_ignored other text? wasRead
    · rcases List.mem_cons.mp wasRead with same | wasRead
      · cases same
        exact kept
      · obtain ⟨_, _, impossible⟩ := List.mem_map.mp wasRead
        cases impossible
  · rw [readings]
    refine List.forall_mem_append.mpr ⟨reflects.asks_once, List.forall_mem_singleton.mpr ?_⟩
    exact indexer.asksOncePerChunk_reading asked
  · rw [readings, List.filterMap_append, reflects.asks_nothing_else, List.flatMap_append,
      List.flatMap_singleton, filterMap_exchange?_inquiries]

/--
Reading a new file keeps an index in step with the journal: either the file is
stored, or the journal goes on with a reading that failed.
-/
theorem read (reflects : index.Reflects indexer journal)
    (available : indexer.provider.available = true) (around : Surroundings σ) {path : Text}
    (unknown : ¬ index.isIndexed path = true) (kept : ¬ indexer.filter.ignores path = true)
    (state : σ) :
    let done := indexer.read around.recorded index path (state, journal)
    (index.record done.1).Reflects indexer done.2.2 ∧
      ∃ fresh, done.2.2 = journal ++ fresh ∧
        (path ∈ (index.record done.1).indexedPaths ∨ .read path none ∈ fresh) := by
  rw [index.isIndexed_iff_mem] at unknown
  have kept := Bool.eq_false_iff.mpr kept
  rcases indexer.read_recorded available around reflects.holdsIndexedOnly unknown
      (state, journal) with
    ⟨after, read_eq⟩ | ⟨content, answers, after, asked, read_eq⟩
  · rw [read_eq]
    dsimp only
    rw [SnippetIndex.record_unreadable]
    exact ⟨reflects.unreadable kept, _, rfl, .inr (List.mem_singleton_self _)⟩
  · rw [read_eq]
    exact ⟨reflects.indexed unknown kept asked, _, rfl,
      .inl (List.mem_append_right _ (List.mem_singleton_self path))⟩

/-- Visits keep an index in step with the journal, which only grows. -/
theorem visitAll (reflects : index.Reflects indexer journal)
    (available : indexer.provider.available = true) (around : Surroundings σ) (paths : List Text)
    (state : σ) :
    let done := indexer.visitAll around.recorded index paths (state, journal)
    done.1.index.Reflects indexer done.2.2 ∧ ∃ fresh, done.2.2 = journal ++ fresh := by
  refine Indexer.visitAll_preserves
    (motive := fun later (between : σ × List Inquiry) =>
      later.Reflects indexer between.2 ∧ ∃ fresh, between.2 = journal ++ fresh)
    ?_ ⟨reflects, [], (List.append_nil _).symm⟩ paths
  intro later path between unknown kept sofar
  obtain ⟨before, earlier, grown⟩ := sofar
  obtain ⟨after, fresh, grows, _⟩ := before.read available around unknown kept between.1
  refine ⟨after, earlier ++ fresh, ?_⟩
  rw [grows, grown, List.append_assoc]

/-- One call keeps an index in step with the journal, also if it is interrupted. -/
theorem run (reflects : index.Reflects indexer journal) (around : Surroundings σ)
    (paths : List Text) (state : σ) :
    let done := indexer.run around.recorded index paths (state, journal)
    done.1.index.Reflects indexer done.2.2 := by
  rw [Indexer.run]
  split
  · next available => exact (reflects.visitAll available around paths state).1
  · exact reflects

/--
Up to the first path with a null character no path is left out: each is ignored,
is stored in the end, or could not be read.
-/
theorem visitAll_reaches (reflects : index.Reflects indexer journal)
    (available : indexer.provider.available = true) (around : Surroundings σ)
    {paths : List Text}
    (clean : ∀ path ∈ paths, indexer.filter.ignores path = false → Path.hasNull path = false)
    (more : List Text) (state : σ) :
    let done := indexer.visitAll around.recorded index (paths ++ more) (state, journal)
    ∃ fresh, done.2.2 = journal ++ fresh ∧
      ∀ path ∈ paths, indexer.filter.ignores path = false →
        path ∈ done.1.index.indexedPaths ∨ .read path none ∈ fresh := by
  induction paths generalizing index journal state with
  | nil =>
      obtain ⟨fresh, grows⟩ := (reflects.visitAll available around more state).2
      exact ⟨fresh, grows, by simp⟩
  | cons path rest ih =>
      have cleanRest := fun other member => clean other (List.mem_cons_of_mem path member)
      by_cases known : index.isIndexed path = true
      · obtain ⟨fresh, grows, reached⟩ := ih reflects cleanRest state
        rw [List.cons_append, Indexer.visitAll_cons_of_known known]
        refine ⟨fresh, grows, List.forall_mem_cons.mpr ⟨fun _ => .inl ?_, reached⟩⟩
        exact indexer.indexedPaths_subset_visitAll _ _ _ _ ((index.isIndexed_iff_mem path).mp known)
      by_cases ignored : indexer.filter.ignores path = true
      · obtain ⟨fresh, grows, reached⟩ := ih reflects cleanRest state
        rw [List.cons_append, Indexer.visitAll_cons_of_ignored known ignored]
        refine ⟨fresh, grows, List.forall_mem_cons.mpr ⟨fun kept => ?_, reached⟩⟩
        rw [ignored] at kept
        cases kept
      have unbroken : ¬ Path.hasNull path = true := by
        rw [clean path List.mem_cons_self (Bool.eq_false_iff.mpr ignored)]
        exact Bool.false_ne_true
      rcases visited : indexer.read around.recorded index path (state, journal) with
        ⟨visit, between, later⟩
      obtain ⟨after, first, grows, stored⟩ := reflects.read available around known ignored state
      rw [visited] at after grows stored
      obtain ⟨fresh, growsOn, reached⟩ := ih after cleanRest between
      rw [List.cons_append, Indexer.visitAll_cons_of_read known ignored unbroken _ _ visited]
      refine ⟨first ++ fresh, ?_, List.forall_mem_cons.mpr ⟨fun _ => ?_, ?_⟩⟩
      · rw [← List.append_assoc, ← grows]
        exact growsOn
      · rcases stored with stored | failed
        · exact .inl (indexer.indexedPaths_subset_visitAll _ _ _ _ stored)
        · exact .inr (List.mem_append_left _ failed)
      · intro other member kept
        exact (reached other member kept).imp_right (List.mem_append_right _)

end SnippetIndex.Reflects

/-! ## Histories -/

/-- What happens to an index: calls, clearing, and changes of the surroundings in between. -/
inductive IndexOperation (σ : Type) where
  | indexFiles (paths : List Text)
  | clear
  | meanwhile (change : σ → σ)

def Indexer.perform (indexer : Indexer) (around : Surroundings σ) :
    SnippetIndex × σ → IndexOperation σ → SnippetIndex × σ
  | (index, state), .indexFiles paths =>
      let (run, after) := indexer.run around index paths state
      (run.index, after)
  | (_, state), .clear => (.empty, state)
  | (index, state), .meanwhile change => (index, change state)

/-- An index in its surroundings, with the journal kept since it was last empty. -/
structure IndexSession (σ : Type) where
  index : SnippetIndex
  state : σ
  journal : List Inquiry

namespace IndexSession

/-- The session with an empty index and nothing in the journal. -/
def start (state : σ) : IndexSession σ := ⟨.empty, state, []⟩

/-- The session after an operation; clearing the index starts a new journal. -/
def perform (indexer : Indexer) (around : Surroundings σ) (session : IndexSession σ) :
    IndexOperation σ → IndexSession σ
  | .indexFiles paths =>
      let (run, state, journal) :=
        indexer.run around.recorded session.index paths (session.state, session.journal)
      { index := run.index, state, journal }
  | .clear => start session.state
  | .meanwhile change => { session with state := change session.state }

def performAll (indexer : Indexer) (around : Surroundings σ) (session : IndexSession σ)
    (operations : List (IndexOperation σ)) : IndexSession σ :=
  operations.foldl (perform indexer around) session

/-- Keeping a journal changes nothing in what the operations do. -/
theorem performAll_index (indexer : Indexer) (around : Surroundings σ)
    (session : IndexSession σ) (operations : List (IndexOperation σ)) :
    ((session.performAll indexer around operations).index,
        (session.performAll indexer around operations).state) =
      operations.foldl (indexer.perform around) (session.index, session.state) := by
  induction operations generalizing session with
  | nil => rfl
  | cons operation rest ih =>
      rw [performAll, List.foldl_cons, ← performAll, ih, List.foldl_cons]
      congr 1
      cases operation with
      | indexFiles paths =>
          rw [Indexer.perform, ← indexer.run_forget around.recorded_details session.index paths
            (session.state, session.journal)]
          rfl
      | clear => rfl
      | meanwhile change => rfl

/-- Whatever happens to an index, it holds what the journal since it was last empty tells. -/
theorem performAll_reflects (indexer : Indexer) (around : Surroundings σ)
    {session : IndexSession σ} (reflects : session.index.Reflects indexer session.journal)
    (operations : List (IndexOperation σ)) :
    (session.performAll indexer around operations).index.Reflects indexer
      (session.performAll indexer around operations).journal := by
  induction operations generalizing session with
  | nil => exact reflects
  | cons operation rest ih =>
      have afterFirst : (session.perform indexer around operation).index.Reflects indexer
          (session.perform indexer around operation).journal := by
        cases operation with
        | indexFiles paths => exact reflects.run around paths session.state
        | clear => exact .empty indexer
        | meanwhile change => exact reflects
      exact ih afterFirst

/-- A call with a service leaves out no path up to the first one with a null character. -/
theorem perform_reaches {indexer : Indexer} (available : indexer.provider.available = true)
    (around : Surroundings σ) {session : IndexSession σ}
    (reflects : session.index.Reflects indexer session.journal) {paths : List Text}
    (clean : ∀ path ∈ paths, indexer.filter.ignores path = false → Path.hasNull path = false)
    (more : List Text) :
    let next := session.perform indexer around (.indexFiles (paths ++ more))
    ∃ fresh, next.journal = session.journal ++ fresh ∧
      ∀ path ∈ paths, indexer.filter.ignores path = false →
        next.index.isIndexed path = true ∨ .read path none ∈ fresh := by
  simp only [perform, Indexer.run, if_pos available, SnippetIndex.isIndexed_iff_mem]
  exact reflects.visitAll_reaches available around clean more session.state

end IndexSession

/-- An index that any operations have led to holds snippets of the files that it has read only. -/
theorem Indexer.holdsIndexedOnly_of_operations (indexer : Indexer) (around : Surroundings σ)
    (state : σ) (operations : List (IndexOperation σ)) :
    (operations.foldl (indexer.perform around) (.empty, state)).1.HoldsIndexedOnly := by
  let session := (IndexSession.start state).performAll indexer around operations
  have reflects : session.index.Reflects indexer session.journal :=
    IndexSession.performAll_reflects indexer around (.empty indexer) operations
  have same : (session.index, session.state) =
      operations.foldl (indexer.perform around) (.empty, state) :=
    IndexSession.performAll_index indexer around _ operations
  rw [← same]
  exact reflects.holdsIndexedOnly

/--
After any operations, with whatever answers in between, the read files are
those that the journal since the last clearing says could be read, none of them
ignored; and the snippets are those of these files in the order in which they
were read: of each the first chunk of each range, if it carries code and the
one request for it was answered with a vector, as file and service were then.
The next call leaves out no path before one with a null character: what is not
ignored is stored then, or its reading failed.
-/
theorem index_reflects_history (indexer : Indexer) (around : Surroundings σ) (state : σ)
    (operations : List (IndexOperation σ)) :
    let session := (IndexSession.start state).performAll indexer around operations
    let readings := fileReadings session.journal
    (session.index, session.state) = operations.foldl (indexer.perform around) (.empty, state) ∧
    (∀ path, session.index.isIndexed path = true ↔
      indexer.filter.ignores path = false ∧
        ∃ content, .read path (some content) ∈ session.journal) ∧
    (readings.map FileReading.path).Nodup ∧
    (∀ reading ∈ readings, reading.AsksOncePerChunk indexer) ∧
    session.journal.filterMap exchange? = readings.flatMap FileReading.exchanges ∧
    session.index.snippets = readings.flatMap (FileReading.snippets indexer.chunking) ∧
    (indexer.provider.available = true → ∀ paths more,
      (∀ path ∈ paths, indexer.filter.ignores path = false → Path.hasNull path = false) →
      let next := session.perform indexer around (.indexFiles (paths ++ more))
      ∃ fresh, next.journal = session.journal ++ fresh ∧
        ∀ path ∈ paths, indexer.filter.ignores path = false →
          next.index.isIndexed path = true ∨ .read path none ∈ fresh) := by
  intro session readings
  have reflects : session.index.Reflects indexer session.journal :=
    IndexSession.performAll_reflects indexer around (.empty indexer) operations
  refine ⟨IndexSession.performAll_index indexer around _ operations, reflects.isIndexed_iff, ?_,
    reflects.asks_once, reflects.asks_nothing_else, reflects.snippets_eq, ?_⟩
  · exact reflects.indexedPaths_eq ▸ reflects.indexedPaths_nodup
  · intro available paths more clean
    exact IndexSession.perform_reaches available around reflects clean more

end SnippetSearch
