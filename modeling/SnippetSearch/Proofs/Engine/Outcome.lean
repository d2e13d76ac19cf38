import SnippetSearch.Proofs.Engine.Exits
import SnippetSearch.Proofs.Engine.Journal
import SnippetSearch.Proofs.Ranking.Scores

/-!
# What a search comes to and what it leaves behind

A search that is refused or has no service does nothing at all.  Any other
search indexes the catalog, whatever its query and its limit are, and leaves
the index in that state; the service then gets one request for the query if
there is something to rank, and none otherwise.
-/

namespace SnippetSearch

variable {σ : Type}

open Inquiry

namespace Engine

/-! ## The indexing -/

theorem paths_journal (around : Surroundings σ) (catalog : Catalog) (state : σ × List Inquiry) :
    ∃ fresh, (around.recorded.paths catalog state).2.2 = state.2 ++ fresh ∧
      outcomes fresh = [] := by
  cases catalog with
  | fixed paths => exact ⟨[], (List.append_nil _).symm, rfl⟩
  | folder folder => exact ⟨_, rfl, rfl⟩

/-- The indexing of the catalog asks for its attempts and for nothing else. -/
theorem indexCatalog_journal {engine : Engine} (available : engine.isAvailable = true)
    (around : Surroundings σ) (state : σ × List Inquiry) :
    let done := engine.indexCatalog around.recorded state
    ∃ fresh, done.2.2 = state.2 ++ fresh ∧
      outcomes fresh = done.1.attempts.map engine.indexer.asked := by
  obtain ⟨listing, listed, unasked⟩ := paths_journal around engine.catalog state
  obtain ⟨fresh, grows, asked⟩ := engine.indexer.visitAll_journal available around engine.index
    (around.recorded.paths engine.catalog state).1 (around.recorded.paths engine.catalog state).2
  rw [indexCatalog_of_available available]
  refine ⟨listing ++ fresh, ?_, ?_⟩
  · rw [← List.append_assoc, ← listed]
    exact grows
  · rw [outcomes_append, unasked]
    exact asked

theorem indexCatalog_not_interrupted {engine : Engine} (available : engine.isAvailable = true)
    {around : Surroundings σ} {state : σ}
    (clean : ∀ path ∈ (around.paths engine.catalog state).1, Path.hasNull path = false) :
    (engine.indexCatalog around state).1.interrupted = false := by
  rw [indexCatalog_of_available available]
  exact engine.indexer.visitAll_not_interrupted around clean _ _

/-- The requests of an indexing are those of its run, all of them for documents. -/
theorem exists_documents {engine : Engine} (available : engine.isAvailable = true)
    (around : Surroundings σ) (state : σ × List Inquiry) :
    let done := engine.indexCatalog around.recorded state
    ∃ documents, done.2.2.filterMap exchange? = state.2.filterMap exchange? ++ documents ∧
      documents.map Prod.fst = done.1.requests engine.indexer.provider := by
  obtain ⟨fresh, grows, asked⟩ := indexCatalog_journal available around state
  refine ⟨fresh.filterMap exchange?, ?_, ?_⟩
  · rw [grows, List.filterMap_append]
  · have requests_eq := congrArg (List.map Prod.fst) asked
    rw [outcomes, List.map_map, List.map_map] at requests_eq
    exact requests_eq

/-! ## The answer -/

/-- Ranking reads files only, and yields results unless a vector has the wrong length. -/
theorem rank_journal (around : Surroundings σ) (index : SnippetIndex) (vector : Embedding)
    (limit : Int) (state : σ × List Inquiry) :
    ∃ fresh, (rank around.recorded index vector limit state).2.2 = state.2 ++ fresh ∧
      outcomes fresh = [] := by
  rw [rank]
  cases Ranking.top Snippet.embedding index.snippets vector limit with
  | error mismatch => exact ⟨[], (List.append_nil _).symm, rfl⟩
  | ok ranked => exact (results_journal around ranked state).2

theorem rank_of_no_mismatch (around : Surroundings σ) {index : SnippetIndex} {vector : Embedding}
    (agree : ∀ snippet ∈ index.snippets, snippet.embedding.length = vector.length) (limit : Int)
    (state : σ × List Inquiry) :
    ∃ results, (rank around.recorded index vector limit state).1 = .ok results ∧
      results.length = min limit.toNat index.snippets.length := by
  obtain ⟨ranked, top_eq, counted⟩ := Ranking.top_of_no_mismatch agree limit
  rw [rank, top_eq]
  exact ⟨_, rfl, (results_journal around ranked state).1.trans counted⟩

theorem rank_eq_dimensions_iff (around : Surroundings σ) {index : SnippetIndex}
    {vector : Embedding} {limit : Int} (positive : 0 < limit) (state : σ × List Inquiry) :
    (∃ mismatch, (rank around.recorded index vector limit state).1 =
        .error (.dimensions mismatch)) ↔
      ∃ snippet ∈ index.snippets, snippet.embedding.length ≠ vector.length := by
  constructor
  · rintro ⟨mismatch, failed⟩
    by_contra agree
    push Not at agree
    obtain ⟨results, ranked, _⟩ := rank_of_no_mismatch around agree limit state
    rw [ranked] at failed
    cases failed
  · rintro ⟨snippet, stored, differ⟩
    have found : (index.snippets.find? (Ranking.mismatches Snippet.embedding vector)).isSome := by
      refine List.find?_isSome.mpr ⟨snippet, stored, ?_⟩
      exact decide_eq_true differ.symm
    obtain ⟨first, first_eq⟩ := Option.isSome_iff_exists.mp found
    rw [rank, Ranking.top_of_mismatch positive first_eq]
    exact ⟨_, rfl⟩

theorem answer_asks_query {engine : Engine} (available : engine.isAvailable = true)
    (around : Surroundings σ) (run : IndexingRun) (query : LooseText) (limit : Int)
    (state : σ × List Inquiry) :
    ∃ fresh, (engine.answer around.recorded run query limit state).2.2 = state.2 ++ fresh ∧
      ∀ entry ∈ outcomes fresh, entry.1 = engine.indexer.provider.request .query query := by
  by_cases interrupted : run.interrupted = true
  · rw [answer_of_interrupted engine interrupted]
    exact ⟨[], (List.append_nil _).symm, by simp [outcomes]⟩
  have complete := Bool.eq_false_iff.mpr interrupted
  by_cases nothing : limit = 0 ∨ run.index.snippets = []
  · rw [answer_of_nothing engine complete nothing]
    exact ⟨[], (List.append_nil _).symm, by simp [outcomes]⟩
  obtain ⟨wanted, stored⟩ := not_or.mp nothing
  obtain ⟨reply, after, embedded⟩ := around.recorded_embed available .query query state
  rw [answer_of_something engine complete wanted stored, embedded]
  let asked := Inquiry.embed (engine.indexer.provider.request .query query) reply
  rcases reply.vector with error | vector
  · exact ⟨[asked], rfl, List.forall_mem_singleton.mpr rfl⟩
  · obtain ⟨fresh, grows, unasked⟩ := rank_journal around run.index vector limit
      (after, state.2 ++ [asked])
    refine ⟨asked :: fresh, grows.trans (List.append_assoc _ _ _), ?_⟩
    rw [← List.singleton_append, outcomes_append, unasked, List.append_nil]
    exact List.forall_mem_singleton.mpr rfl

/--
With something to rank, the service gets one more request, the one for the query.
If that fails so does the search; otherwise the search fails only if the vector
of some snippet has another length, and else yields as many results as it may.
-/
theorem answer_journal {engine : Engine} (available : engine.isAvailable = true)
    {run : IndexingRun} (complete : run.interrupted = false) {limit : Int} (positive : 0 < limit)
    (stored : run.index.snippets ≠ []) (around : Surroundings σ) (query : LooseText)
    (state : σ × List Inquiry) :
    let done := engine.answer around.recorded run query limit state
    ∃ reply,
      done.2.2.filterMap exchange? = state.2.filterMap exchange? ++
        [(engine.indexer.provider.request .query query, reply)] ∧
      (∀ error, reply.vector = .error error → done.1.outcome = .error (.query error)) ∧
      ∀ vector, reply.vector = .ok vector →
        ((∃ mismatch, done.1.outcome = .error (.dimensions mismatch)) ↔
          ∃ snippet ∈ run.index.snippets, snippet.embedding.length ≠ vector.length) ∧
        ((∀ snippet ∈ run.index.snippets, snippet.embedding.length = vector.length) →
          ∃ results, done.1.outcome = .ok results ∧
            results.length = min limit.toNat run.index.snippets.length) := by
  obtain ⟨reply, after, embedded⟩ := around.recorded_embed available .query query state
  rw [answer_of_something engine complete (Int.ne_of_gt positive) stored, embedded]
  refine ⟨reply, ?_⟩
  rcases given : reply.vector with error | vector
  · refine ⟨?_, ?_, ?_⟩
    · rw [List.filterMap_append]
      rfl
    · rintro _ ⟨rfl⟩
      rfl
    · intro vector impossible
      cases impossible
  · refine ⟨?_, ?_, ?_⟩
    · obtain ⟨fresh, grows, unasked⟩ := rank_journal around run.index vector limit
        (after, state.2 ++ [.embed (engine.indexer.provider.request .query query) reply])
      dsimp only
      rw [grows, filterMap_exchange?_append _ unasked, List.filterMap_append]
      rfl
    · intro error impossible
      cases impossible
    · rintro _ ⟨rfl⟩
      exact ⟨rank_eq_dimensions_iff around positive _,
        fun agree => rank_of_no_mismatch around agree limit _⟩

/--
What a search comes to, what it leaves indexed and what it asks the service.  With
a negative limit it fails, and without a service it has a single result; both leave
everything as it was.  Otherwise it leaves the index that indexing the catalog
leaves, and after the requests of that indexing there is one for the query exactly
if results are wanted and snippets are stored.
-/
theorem search_outcome_and_effects (engine : Engine) (around : Surroundings σ)
    (query : LooseText) (limit : Int) (state : σ × List Inquiry) :
    let listing := around.recorded.paths engine.catalog state
    let indexing := engine.indexer.run around.recorded engine.index listing.1 listing.2
    let snippets := indexing.1.index.snippets
    let found := engine.search around.recorded query limit state
    Prod.map id Prod.fst found = engine.search around query limit state.1 ∧
    (limit < 0 → found = (.ended (.error .negativeLimit) engine.index, state)) ∧
    (0 ≤ limit → engine.isAvailable = false →
      found = (.ended (.ok [.unavailable]) engine.index, state)) ∧
    (0 ≤ limit → engine.isAvailable = true →
      (∀ path ∈ listing.1, Path.hasNull path = false) →
      found.1.index = indexing.1.index ∧
      (∃ documents,
        indexing.2.2.filterMap exchange? = state.2.filterMap exchange? ++ documents ∧
        documents.map Prod.fst = indexing.1.requests engine.indexer.provider) ∧
      (limit = 0 ∨ snippets = [] →
        found.1.outcome = .ok [] ∧
        found.2.2.filterMap exchange? = indexing.2.2.filterMap exchange?) ∧
      (0 < limit → snippets ≠ [] → ∃ reply,
        found.2.2.filterMap exchange? = indexing.2.2.filterMap exchange? ++
          [(engine.indexer.provider.request .query query, reply)] ∧
        (∀ error, reply.vector = .error error → found.1.outcome = .error (.query error)) ∧
        ∀ vector, reply.vector = .ok vector →
          ((∃ mismatch, found.1.outcome = .error (.dimensions mismatch)) ↔
            ∃ snippet ∈ snippets, snippet.embedding.length ≠ vector.length) ∧
          ((∀ snippet ∈ snippets, snippet.embedding.length = vector.length) →
            ∃ results, found.1.outcome = .ok results ∧
              results.length = min limit.toNat snippets.length))) := by
  intro listing indexing snippets found
  refine ⟨search_forget around.recorded_details engine query limit state, ?_, ?_, ?_⟩
  · intro negative
    exact engine.search_of_negative negative around.recorded query state
  · intro possible missing
    exact engine.search_of_unavailable (Int.not_lt.mpr possible) (Bool.eq_false_iff.mp missing)
      around.recorded query state
  · intro possible available clean
    have found_eq : found = engine.answer around.recorded indexing.1 query limit indexing.2 :=
      engine.search_of_available (Int.not_lt.mpr possible) available around.recorded query state
    have complete : indexing.1.interrupted = false := indexCatalog_not_interrupted available clean
    refine ⟨?_, exists_documents available around state, ?_, ?_⟩
    · rw [found_eq, answer_index]
    · intro nothing
      rw [found_eq, answer_of_nothing engine complete nothing]
      exact ⟨rfl, rfl⟩
    · intro positive stored
      rw [found_eq]
      exact answer_journal available complete positive stored around query indexing.2

end Engine

end SnippetSearch
