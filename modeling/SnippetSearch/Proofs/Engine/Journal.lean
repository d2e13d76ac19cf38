import SnippetSearch.Engine.Search
import SnippetSearch.Proofs.Index.Readings

/-!
# Journals of searches

A search goes the same way in surroundings that keep a journal.  What the
journal gains is the listing of the catalog, one request for each attempt of
the indexing, at most one request for the query, and readings of files for
the scopes of the results.
-/

namespace SnippetSearch

variable {σ τ : Type}

open Inquiry

/-! ## Searching without the journal -/

section Forget

variable {detailed : Surroundings τ} {around : Surroundings σ} {forget : τ → σ}

theorem Surroundings.Details.paths (details : detailed.Details around forget)
    (catalog : Catalog) (state : τ) :
    Prod.map id forget (detailed.paths catalog state) = around.paths catalog (forget state) := by
  cases catalog with
  | fixed paths => rfl
  | folder folder => exact details.list folder state

namespace Engine

theorem results_forget (details : detailed.Details around forget)
    (ranked : List (Snippet × Float)) (state : τ) :
    Prod.map id forget (results detailed ranked state) = results around ranked (forget state) := by
  induction ranked generalizing state with
  | nil => rfl
  | cons entry rest ih =>
      simp only [results, ← details.read, Prod.map, ← ih, id]

theorem rank_forget (details : detailed.Details around forget) (index : SnippetIndex)
    (query : Embedding) (limit : Int) (state : τ) :
    Prod.map id forget (rank detailed index query limit state) =
      rank around index query limit (forget state) := by
  rw [rank, rank]
  cases Ranking.top Snippet.embedding index.snippets query limit with
  | error mismatch => rfl
  | ok ranked =>
      dsimp only
      rw [← results_forget details]
      rfl

theorem answer_forget (details : detailed.Details around forget) (engine : Engine)
    (run : IndexingRun) (query : LooseText) (limit : Int) (state : τ) :
    Prod.map id forget (engine.answer detailed run query limit state) =
      engine.answer around run query limit (forget state) := by
  rw [answer, answer]
  split
  · rfl
  split
  · rfl
  · rw [← details.embed]
    rcases detailed.embed engine.indexer.provider .query query state with ⟨_ | vector, between⟩
    · rfl
    · simp only [Prod.map, id, ← rank_forget details]

theorem search_forget (details : detailed.Details around forget) (engine : Engine)
    (query : LooseText) (limit : Int) (state : τ) :
    Prod.map id forget (engine.search detailed query limit state) =
      engine.search around query limit (forget state) := by
  rw [search, search]
  split
  · rfl
  split
  · rw [← details.paths]
    dsimp only [Prod.map, id]
    rw [← engine.indexer.run_forget details]
    dsimp only [Prod.map, id]
    exact answer_forget details engine _ query limit _
  · rfl

end Engine

end Forget

/-! ## Requests of the indexing -/

def Inquiry.outcomes (journal : List Inquiry) :
    List (EmbeddingRequest × Except EmbeddingError Embedding) :=
  (journal.filterMap exchange?).map (Prod.map id EmbeddingReply.vector)

theorem Inquiry.outcomes_append (earlier later : List Inquiry) :
    outcomes (earlier ++ later) = outcomes earlier ++ outcomes later := by
  rw [outcomes, List.filterMap_append, List.map_append]
  rfl

theorem Inquiry.filterMap_exchange?_append (journal : List Inquiry) {fresh : List Inquiry}
    (unasked : outcomes fresh = []) :
    (journal ++ fresh).filterMap exchange? = journal.filterMap exchange? := by
  rw [outcomes, List.map_eq_nil_iff] at unasked
  rw [List.filterMap_append, unasked, List.append_nil]

def Indexer.asked (indexer : Indexer) (attempt : Attempt) :
    EmbeddingRequest × Except EmbeddingError Embedding :=
  (indexer.provider.request .document (.ofText attempt.chunk.text), attempt.outcome)

def IndexingRun.attempts (run : IndexingRun) : List Attempt :=
  run.visits.flatMap Visit.attempts

theorem IndexingRun.attempts_after (run : IndexingRun) (visit : Visit) :
    (run.after visit).attempts = visit.attempts ++ run.attempts := rfl

namespace Indexer

variable {indexer : Indexer}

theorem outcomes_exchanges (indexer : Indexer) (answers : List (Chunk × EmbeddingReply)) :
    outcomes ((indexer.exchanges answers).map fun exchange => .embed exchange.1 exchange.2) =
      (answers.map attemptOf).map indexer.asked := by
  have written : ((indexer.exchanges answers).map fun exchange =>
      Inquiry.embed exchange.1 exchange.2).filterMap exchange? = indexer.exchanges answers := by
    rw [List.filterMap_map]
    exact List.filterMap_some
  rw [outcomes, written, exchanges, List.map_map, List.map_map]
  rfl

theorem read_journal (available : indexer.provider.available = true) (around : Surroundings σ)
    (index : SnippetIndex) (path : Text) (state : σ × List Inquiry) :
    let done := indexer.read around.recorded index path state
    ∃ fresh, done.2.2 = state.2 ++ fresh ∧ outcomes fresh = done.1.attempts.map indexer.asked := by
  rw [Indexer.read, around.recorded_read]
  rcases around.read path state.1 with ⟨_ | content, between⟩
  · exact ⟨_, rfl, rfl⟩
  · obtain ⟨answers, after, _, run_eq⟩ := indexer.attemptAll_recorded available around
      (index.candidates path (indexer.chunking.chunks content))
      (between, state.2 ++ [.read path (some content)])
    simp only [run_eq]
    refine ⟨_, List.append_assoc _ _ _, ?_⟩
    rw [outcomes_append, outcomes_exchanges]
    rfl

/-- Indexing adds to the journal what was asked for the chunks, and no other requests. -/
theorem visitAll_journal (available : indexer.provider.available = true)
    (around : Surroundings σ) (index : SnippetIndex) (paths : List Text)
    (state : σ × List Inquiry) :
    let done := indexer.visitAll around.recorded index paths state
    ∃ fresh, done.2.2 = state.2 ++ fresh ∧ outcomes fresh = done.1.attempts.map indexer.asked := by
  induction paths generalizing index state with
  | nil => exact ⟨[], (List.append_nil _).symm, rfl⟩
  | cons path rest ih =>
      rcases indexer.visitAll_cons_cases around.recorded index path rest state with
        ⟨visit, nothing, _, passed⟩ | ⟨_, ended⟩ | ⟨_, _, visit, between, read, went⟩
      · obtain ⟨fresh, grows, asked⟩ := ih index state
        rw [passed]
        refine ⟨fresh, grows, ?_⟩
        rw [IndexingRun.attempts_after, nothing]
        exact asked
      · rw [ended]
        exact ⟨[], (List.append_nil _).symm, rfl⟩
      · obtain ⟨first, firstGrows, firstAsked⟩ :=
          indexer.read_journal available around index path state
        rw [read] at firstGrows firstAsked
        obtain ⟨fresh, grows, asked⟩ := ih (index.record visit) between
        rw [went]
        refine ⟨first ++ fresh, ?_, ?_⟩
        · rw [← List.append_assoc, ← firstGrows]
          exact grows
        · rw [outcomes_append, firstAsked, asked, ← List.map_append]
          rfl

/-- A path with a null character is the only thing that interrupts a call. -/
theorem visitAll_not_interrupted (indexer : Indexer) (around : Surroundings σ)
    {paths : List Text} (clean : ∀ path ∈ paths, Path.hasNull path = false)
    (index : SnippetIndex) (state : σ) :
    (indexer.visitAll around index paths state).1.interrupted = false := by
  induction paths generalizing index state with
  | nil => rfl
  | cons path rest ih =>
      obtain ⟨clean, cleanRest⟩ := List.forall_mem_cons.mp clean
      rcases indexer.visitAll_cons_cases around index path rest state with
        ⟨visit, _, _, passed⟩ | ⟨null, _⟩ | ⟨_, _, visit, between, _, went⟩
      · rw [passed]
        exact ih cleanRest index state
      · exact absurd null (Bool.eq_false_iff.mp clean)
      · rw [went]
        exact ih cleanRest (index.record visit) between

end Indexer

/-! ## Readings for the results -/

namespace Engine

/-- There is one result for each ranked snippet, and for their scopes files are read only. -/
theorem results_journal (around : Surroundings σ) (ranked : List (Snippet × Float))
    (state : σ × List Inquiry) :
    let done := results around.recorded ranked state
    done.1.length = ranked.length ∧ ∃ fresh, done.2.2 = state.2 ++ fresh ∧ outcomes fresh = [] := by
  induction ranked generalizing state with
  | nil => exact ⟨rfl, [], (List.append_nil _).symm, rfl⟩
  | cons entry rest ih =>
      obtain ⟨snippet, score⟩ := entry
      let inquiry := Inquiry.read snippet.key.path (around.read snippet.key.path state.1).1
      obtain ⟨counted, fresh, grows, asked⟩ :=
        ih ((around.read snippet.key.path state.1).2, state.2 ++ [inquiry])
      refine ⟨congrArg Nat.succ counted, inquiry :: fresh, ?_, asked⟩
      exact grows.trans (List.append_assoc _ _ _)

end Engine

end SnippetSearch
