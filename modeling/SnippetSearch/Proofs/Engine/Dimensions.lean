import SnippetSearch.Proofs.Engine.Sessions

/-!
# Lengths of stored vectors

The vectors of the stored snippets are exactly those that the service has given
for documents since the engine was last cleared.  Nothing compares their lengths
before a search ranks them: they agree exactly as long as those of the service do,
and a search fails exactly if one of them differs from the vector of its query.
-/

namespace SnippetSearch

variable {σ : Type}

open Inquiry

/-! ## Vectors given for documents -/

/-- The vector that a request for a document was answered with, if it was given one. -/
def documentVector? :
    EmbeddingRequest × Except EmbeddingError Embedding → Option Embedding
  | (request, .ok vector) => if request.task = .document then some vector else none
  | (_, .error _) => none

def Inquiry.documentVectors (journal : List Inquiry) : List Embedding :=
  (outcomes journal).filterMap documentVector?

theorem Inquiry.documentVectors_append (earlier later : List Inquiry) :
    documentVectors (earlier ++ later) = documentVectors earlier ++ documentVectors later := by
  rw [documentVectors, outcomes_append, List.filterMap_append]
  rfl

theorem documentVector?_asked (indexer : Indexer) (path : Text) (attempt : Attempt) :
    documentVector? (indexer.asked attempt) =
      (attempt.snippet? path).map Snippet.embedding := by
  rw [Indexer.asked, Attempt.snippet?]
  cases attempt.outcome with
  | error error => rfl
  | ok vector => rfl

theorem filterMap_documentVector?_asked (indexer : Indexer) (visit : Visit) :
    (visit.attempts.map indexer.asked).filterMap documentVector? =
      visit.snippets.map Snippet.embedding := by
  cases visit with
  | indexed path content attempts =>
      rw [Visit.snippets, List.map_filterMap, List.filterMap_map]
      exact List.filterMap_congr fun attempt _ => documentVector?_asked indexer path attempt
  | known path => rfl
  | ignored path => rfl
  | unreadable path => rfl

/--
After one journal another tells of a single request more, which was answered with
a vector of another length than some vector that had been given for a document.
-/
def Inquiry.AnsweredOddly (request : EmbeddingRequest) (before after : List Inquiry) : Prop :=
  ∃ reply vector,
    after.filterMap exchange? = before.filterMap exchange? ++ [(request, reply)] ∧
    reply.vector = .ok vector ∧
    ∃ other ∈ documentVectors before, other.length ≠ vector.length

theorem Inquiry.not_answeredOddly {request : EmbeddingRequest} {before after : List Inquiry}
    (silent : after.filterMap exchange? = before.filterMap exchange?) :
    ¬ AnsweredOddly request before after := by
  rintro ⟨reply, vector, asked, _⟩
  rw [silent, List.self_eq_append_right] at asked
  cases asked

theorem Inquiry.answeredOddly_iff {request : EmbeddingRequest} {before after : List Inquiry}
    {reply : EmbeddingReply}
    (asked : after.filterMap exchange? = before.filterMap exchange? ++ [(request, reply)]) :
    AnsweredOddly request before after ↔
      ∃ vector, reply.vector = .ok vector ∧
        ∃ other ∈ documentVectors before, other.length ≠ vector.length := by
  constructor
  · rintro ⟨other, vector, also, given, odd⟩
    rw [asked, List.append_cancel_left_eq] at also
    obtain rfl : reply = other := (Prod.mk.inj (List.cons.inj also).1).2
    exact ⟨vector, given, odd⟩
  · rintro ⟨vector, given, odd⟩
    exact ⟨reply, vector, asked, given, odd⟩

/-- An index stores the vectors given for documents, in the order in which they were given. -/
def SnippetIndex.StoresGiven (index : SnippetIndex) (journal : List Inquiry) : Prop :=
  index.snippets.map Snippet.embedding = documentVectors journal

namespace SnippetIndex.StoresGiven

variable {index : SnippetIndex} {journal : List Inquiry}

theorem append (stores : index.StoresGiven journal) {fresh : List Inquiry}
    (others : ∀ entry ∈ outcomes fresh, entry.1.task ≠ .document) :
    index.StoresGiven (journal ++ fresh) := by
  have nothing : documentVectors fresh = [] := by
    refine List.filterMap_eq_nil_iff.mpr fun entry member => ?_
    have other := others entry member
    rcases entry with ⟨request, _ | vector⟩
    · rfl
    · exact if_neg other
  rw [StoresGiven, documentVectors_append, nothing, List.append_nil]
  exact stores

theorem visitAll (stores : index.StoresGiven journal) {indexer : Indexer}
    (available : indexer.provider.available = true) (around : Surroundings σ) (paths : List Text)
    (state : σ) :
    let done := indexer.visitAll around.recorded index paths (state, journal)
    done.1.index.StoresGiven done.2.2 := by
  intro done
  obtain ⟨fresh, grows, asked⟩ :=
    indexer.visitAll_journal available around index paths (state, journal)
  have given : documentVectors fresh = (done.1.visits.flatMap Visit.snippets).map
      Snippet.embedding := by
    rw [documentVectors, asked, IndexingRun.attempts, List.map_flatMap, List.filterMap_flatMap,
      List.map_flatMap]
    exact congrArg (List.flatMap · done.1.visits)
      (funext fun visit => filterMap_documentVector?_asked indexer visit)
  have stored : done.1.index.snippets = index.snippets ++ done.1.visits.flatMap Visit.snippets := by
    rw [indexer.visitAll_index, snippets_foldl_record]
  rw [StoresGiven, stored, List.map_append, stores, ← given, ← documentVectors_append]
  exact congrArg documentVectors grows.symm

theorem run (stores : index.StoresGiven journal) (indexer : Indexer) (around : Surroundings σ)
    (paths : List Text) (state : σ) :
    let done := indexer.run around.recorded index paths (state, journal)
    done.1.index.StoresGiven done.2.2 := by
  rw [Indexer.run]
  split
  · next available => exact stores.visitAll available around paths state
  · exact stores

theorem exists_mismatch_iff (stores : index.StoresGiven journal) (vector : Embedding) :
    (∃ snippet ∈ index.snippets, snippet.embedding.length ≠ vector.length) ↔
      ∃ other ∈ documentVectors journal, other.length ≠ vector.length := by
  rw [← show _ = documentVectors journal from stores]
  simp only [List.mem_map, exists_exists_and_eq_and]

theorem lengths_agree_iff (stores : index.StoresGiven journal) :
    (∀ first ∈ index.snippets, ∀ second ∈ index.snippets,
        first.embedding.length = second.embedding.length) ↔
      ∀ first ∈ documentVectors journal, ∀ second ∈ documentVectors journal,
        first.length = second.length := by
  rw [← show _ = documentVectors journal from stores]
  simp only [List.forall_mem_map]

end SnippetIndex.StoresGiven

/-! ## Searches -/

namespace Engine

variable {engine : Engine} {state : σ × List Inquiry}

theorem storesGiven_indexCatalog (stores : engine.index.StoresGiven state.2)
    (around : Surroundings σ) :
    let done := engine.indexCatalog around.recorded state
    done.1.index.StoresGiven done.2.2 := by
  obtain ⟨listing, listed, unasked⟩ := paths_journal around engine.catalog state
  have before : engine.index.StoresGiven (around.recorded.paths engine.catalog state).2.2 := by
    rw [listed]
    exact stores.append (by simp [unasked])
  exact before.run engine.indexer around _ _

/-- Whatever a search comes to, the index still stores what was given for documents. -/
theorem storesGiven_search (stores : engine.index.StoresGiven state.2) (around : Surroundings σ)
    (query : LooseText) (limit : Int) :
    let done := engine.search around.recorded query limit state
    done.1.index.StoresGiven done.2.2 := by
  intro done
  by_cases negative : limit < 0
  · have refused : done = (.ended (.error .negativeLimit) engine.index, state) :=
      engine.search_of_negative negative around.recorded query state
    rw [refused]
    exact stores
  by_cases available : engine.isAvailable = true
  · have answered : done = engine.answer around.recorded
        (engine.indexCatalog around.recorded state).1 query limit
        (engine.indexCatalog around.recorded state).2 :=
      engine.search_of_available negative available around.recorded query state
    obtain ⟨fresh, grows, asked⟩ := answer_asks_query available around
      (engine.indexCatalog around.recorded state).1 query limit
      (engine.indexCatalog around.recorded state).2
    rw [answered, answer_index, grows]
    refine (storesGiven_indexCatalog stores around).append fun entry member => ?_
    rw [asked entry member]
    exact EmbeddingTask.noConfusion
  · have missing : done = (.ended (.ok [.unavailable]) engine.index, state) :=
      engine.search_of_unavailable negative available around.recorded query state
    rw [missing]
    exact stores

/-- Over paths without null characters a search with a possible limit has a list or no vector. -/
theorem search_cases (engine : Engine) (around : Surroundings σ) (query : LooseText) {limit : Int}
    (possible : 0 ≤ limit) {state : σ}
    (clean : ∀ path ∈ (around.paths engine.catalog state).1, Path.hasNull path = false) :
    let outcome := (engine.search around query limit state).1.outcome
    (∃ results, outcome = .ok results) ∨ (∃ error, outcome = .error (.query error)) ∨
      ∃ mismatch, outcome = .error (.dimensions mismatch) := by
  have refused : ¬ limit < 0 := Int.not_lt.mpr possible
  by_cases available : engine.isAvailable = true
  · have complete := indexCatalog_not_interrupted available clean
    rw [engine.search_of_available refused available]
    by_cases nothing : limit = 0 ∨ (engine.indexCatalog around state).1.index.snippets = []
    · rw [engine.answer_of_nothing complete nothing]
      exact .inl ⟨[], rfl⟩
    · obtain ⟨wanted, stored⟩ := not_or.mp nothing
      rw [engine.answer_of_something complete wanted stored]
      rcases around.embed engine.indexer.provider .query query _ with ⟨error | vector, between⟩
      · exact .inr (.inl ⟨error, rfl⟩)
      · dsimp only [SearchRun.asked]
        rw [rank]
        cases Ranking.top Snippet.embedding _ vector limit with
        | error mismatch => exact .inr (.inr ⟨mismatch, rfl⟩)
        | ok ranked => exact .inl ⟨_, rfl⟩
  · rw [engine.search_of_unavailable refused available]
    exact .inl ⟨_, rfl⟩

/--
A search fails for the lengths of vectors exactly if the service gave its query,
in the only request after those of the indexing, a vector of another length than
a vector that is stored.
-/
theorem dimensions_iff (stores : engine.index.StoresGiven state.2) (around : Surroundings σ)
    (query : LooseText) {limit : Int} (possible : 0 ≤ limit)
    (clean : ∀ path ∈ (around.recorded.paths engine.catalog state).1, Path.hasNull path = false) :
    let indexing := engine.indexCatalog around.recorded state
    let found := engine.search around.recorded query limit state
    (∃ mismatch, found.1.outcome = .error (.dimensions mismatch)) ↔
      AnsweredOddly (engine.indexer.provider.request .query query) indexing.2.2 found.2.2 := by
  intro indexing found
  have refused : ¬ limit < 0 := Int.not_lt.mpr possible
  have indexed : indexing.1.index.StoresGiven indexing.2.2 :=
    storesGiven_indexCatalog stores around
  by_cases available : engine.isAvailable = true
  · have found_eq : found = engine.answer around.recorded indexing.1 query limit indexing.2 :=
      engine.search_of_available refused available around.recorded query state
    have complete : indexing.1.interrupted = false := indexCatalog_not_interrupted available clean
    by_cases nothing : limit = 0 ∨ indexing.1.index.snippets = []
    · rw [found_eq, answer_of_nothing engine complete nothing]
      refine iff_of_false ?_ (not_answeredOddly rfl)
      rintro ⟨mismatch, ⟨⟩⟩
    obtain ⟨wanted, stored⟩ := not_or.mp nothing
    obtain ⟨reply, asked, failed, given⟩ := answer_journal available complete
      (Int.lt_iff_le_and_ne.mpr ⟨possible, Ne.symm wanted⟩) stored around query indexing.2
    rw [← found_eq] at asked failed given
    rw [answeredOddly_iff asked]
    rcases replied : reply.vector with error | vector
    · rw [failed error replied]
      refine iff_of_false ?_ ?_
      · rintro ⟨mismatch, ⟨⟩⟩
      · rintro ⟨vector, ⟨⟩, _⟩
    · rw [(given vector replied).1, indexed.exists_mismatch_iff]
      simp only [Except.ok.injEq, exists_eq_left']
  · obtain ⟨listing, listed, unasked⟩ := paths_journal around engine.catalog state
    have found_eq : found = (.ended (.ok [.unavailable]) engine.index, state) :=
      engine.search_of_unavailable refused available around.recorded query state
    rw [found_eq]
    refine iff_of_false ?_ (not_answeredOddly ?_)
    · rintro ⟨mismatch, ⟨⟩⟩
    · have indexing_eq := engine.indexCatalog_of_unavailable available around.recorded state
      rw [show indexing = _ from indexing_eq, listed, filterMap_exchange?_append _ unasked]

end Engine

/-! ## Sessions -/

namespace EngineSession

/-- Each action keeps the stored vectors those that were given since the last clearing. -/
theorem storesGiven_perform {session : EngineSession σ}
    (stores : session.engine.index.StoresGiven session.journal) (around : Surroundings σ)
    (action : EngineAction σ) :
    (session.perform around action).engine.index.StoresGiven
      (session.perform around action).journal := by
  cases action with
  | indexFiles paths => exact stores.run session.engine.indexer around paths session.state
  | search query limit =>
      have before : session.engine.index.StoresGiven (session.state, session.journal).2 := stores
      exact Engine.storesGiven_search before around query limit
  | clear => rfl
  | meanwhile change => exact stores

/-- Whatever is done with an engine, it stores what the service gave since it was cleared. -/
theorem storesGiven_performAll (engine : Engine) (around : Surroundings σ) (state : σ)
    (actions : List (EngineAction σ)) :
    let session := (start engine state).performAll around actions
    session.engine.index.StoresGiven session.journal := by
  induction actions using List.reverseRecOn with
  | nil => rfl
  | append_singleton earlier action ih =>
      rw [performAll, List.foldl_concat, ← performAll]
      exact storesGiven_perform ih around action

/--
Lengths of vectors after any session with an engine that starts with nothing
indexed.  The engine stores the vectors that the service has given for documents
since it was last cleared, so these have one length exactly if the service kept to
one length.  A search over paths without null characters has a list, no vector for
its query, or a mismatch of lengths, and the last exactly if the service gave its
query a vector of another length than some document.
-/
theorem stored_lengths_follow_service (engine : Engine) (around : Surroundings σ) (state : σ)
    (actions : List (EngineAction σ)) :
    let session := (start engine state).performAll around actions
    let snippets := session.engine.index.snippets
    let given := documentVectors session.journal
    (session.engine, session.state) =
      actions.foldl (Engine.perform around) (engine.cleared, state) ∧
    snippets.map Snippet.embedding = given ∧
    ((∀ first ∈ snippets, ∀ second ∈ snippets,
        first.embedding.length = second.embedding.length) ↔
      ∀ first ∈ given, ∀ second ∈ given, first.length = second.length) ∧
    ∀ (query : LooseText) (limit : Int), 0 ≤ limit →
      (∀ path ∈ (around.paths session.engine.catalog session.state).1,
        Path.hasNull path = false) →
      let before := (session.state, session.journal)
      let indexing := session.engine.indexCatalog around.recorded before
      let found := session.engine.search around.recorded query limit before
      ((∃ results, found.1.outcome = .ok results) ∨
        (∃ error, found.1.outcome = .error (.query error)) ∨
        ∃ mismatch, found.1.outcome = .error (.dimensions mismatch)) ∧
      ((∃ mismatch, found.1.outcome = .error (.dimensions mismatch)) ↔
        AnsweredOddly (session.engine.indexer.provider.request .query query)
          indexing.2.2 found.2.2) := by
  intro session snippets given
  have stores : session.engine.index.StoresGiven session.journal :=
    storesGiven_performAll engine around state actions
  refine ⟨performAll_engine around (start engine state) actions, stores,
    stores.lengths_agree_iff, ?_⟩
  intro query limit possible clean before
  have listed : (around.recorded.paths session.engine.catalog before).1 =
      (around.paths session.engine.catalog session.state).1 :=
    congrArg Prod.fst (around.recorded_details.paths session.engine.catalog before)
  rw [← listed] at clean
  exact ⟨session.engine.search_cases around.recorded query possible clean,
    Engine.dimensions_iff stores around query possible clean⟩

/-! ### A service that gives vectors of two lengths -/

def twoClasses (path : Text) : Option Text :=
  if path = "a.cs".toList then some "class A { }".toList
  else if path = "b.cs".toList then some "class B { }".toList
  else none

def twoLengths (request : EmbeddingRequest) : EmbeddingReply :=
  if request.text = .ofText "class A { }".toList then .values [1] else .values [1, 1]

def twoClassEngine : Engine where
  indexer :=
    { provider :=
        { model := Provider.defaultModel, dimension := 2, available := true
          dimension_pos := Nat.zero_lt_two }
      chunking := .standard
      filter := .withStandard [] }
  catalog := .fixed ["a.cs".toList, "b.cs".toList]
  index := .empty

set_option maxRecDepth 10000 in
/--
One search is enough for snippets with vectors of two lengths to be stored, though
one length is asked for; that search fails, and so does the next one.
-/
theorem stored_lengths_differ :
    let around := Surroundings.fixed twoClasses twoLengths fun _ => []
    let query := LooseText.ofText "q".toList
    let session := (start twoClassEngine ()).performAll around [.search query 5]
    session.engine.index.snippets.map (fun snippet => snippet.embedding.length) = [1, 2] ∧
      (twoClassEngine.search around query 5 ()).1.outcome = .error (.dimensions ⟨2, 1⟩) ∧
      (session.engine.search around query 5 ()).1.outcome = .error (.dimensions ⟨2, 1⟩) := by
  refine ⟨?_, ?_, ?_⟩
  · decide +kernel
  · rfl
  · rfl

end EngineSession

end SnippetSearch
