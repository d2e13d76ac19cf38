import SnippetSearch.Engine.Search

/-!
# How a search ends

A search is refused, or has no service, or indexes the catalog first.  After
that it is interrupted, has nothing to rank, or asks for the vector of the
query, and ranks if it is given one.  Each way has its own equation.
-/

namespace SnippetSearch

/-- A search that asked for nothing beyond what the indexing asked. -/
def SearchRun.unasked (provider : Provider) (run : IndexingRun)
    (outcome : Except SearchError (List SearchResult)) : SearchRun :=
  { outcome
    visits := run.visits
    requests := run.requests provider
    index := run.index }

def SearchRun.asked (provider : Provider) (run : IndexingRun) (query : LooseText)
    (outcome : Except SearchError (List SearchResult)) : SearchRun :=
  { outcome
    visits := run.visits
    requests := run.requests provider ++ [provider.request .query query]
    index := run.index }

namespace Engine

variable {σ : Type}

def indexCatalog (engine : Engine) (around : Surroundings σ) (state : σ) : IndexingRun × σ :=
  engine.indexer.run around engine.index (around.paths engine.catalog state).1
    (around.paths engine.catalog state).2

theorem indexCatalog_of_available {engine : Engine} (available : engine.isAvailable = true)
    (around : Surroundings σ) (state : σ) :
    engine.indexCatalog around state =
      engine.indexer.visitAll around engine.index (around.paths engine.catalog state).1
        (around.paths engine.catalog state).2 := by
  exact if_pos available

/-- Without a service the catalog is listed and nothing else happens. -/
theorem indexCatalog_of_unavailable {engine : Engine} (missing : ¬ engine.isAvailable = true)
    (around : Surroundings σ) (state : σ) :
    engine.indexCatalog around state =
      ({ visits := [], index := engine.index, interrupted := false },
        (around.paths engine.catalog state).2) := by
  exact if_neg missing

section Search

variable {limit : Int}

theorem search_of_negative (engine : Engine) (negative : limit < 0)
    (around : Surroundings σ) (query : LooseText) (state : σ) :
    engine.search around query limit state =
      (.ended (.error .negativeLimit) engine.index, state) := by
  rw [search, if_pos negative]

theorem search_of_unavailable (engine : Engine) (possible : ¬ limit < 0)
    (missing : ¬ engine.isAvailable = true) (around : Surroundings σ) (query : LooseText)
    (state : σ) :
    engine.search around query limit state =
      (.ended (.ok [.unavailable]) engine.index, state) := by
  rw [search, if_neg possible, if_neg missing]

/-- A search with a service and a possible limit answers from the indexing it begins with. -/
theorem search_of_available (engine : Engine) (possible : ¬ limit < 0)
    (available : engine.isAvailable = true) (around : Surroundings σ) (query : LooseText)
    (state : σ) :
    engine.search around query limit state =
      engine.answer around (engine.indexCatalog around state).1 query limit
        (engine.indexCatalog around state).2 := by
  rw [search, if_neg possible, if_pos available]
  rfl

end Search

section Answer

variable {run : IndexingRun} {limit : Int}

theorem answer_of_interrupted (engine : Engine) (interrupted : run.interrupted = true)
    (around : Surroundings σ) (query : LooseText) (state : σ) :
    engine.answer around run query limit state =
      (.unasked engine.indexer.provider run (.error .nullByte), state) := by
  rw [answer, if_pos interrupted]
  rfl

/-- Without snippets, or with none wanted, nobody is asked for the vector of the query. -/
theorem answer_of_nothing (engine : Engine) (complete : run.interrupted = false)
    (nothing : limit = 0 ∨ run.index.snippets = []) (around : Surroundings σ)
    (query : LooseText) (state : σ) :
    engine.answer around run query limit state =
      (.unasked engine.indexer.provider run (.ok []), state) := by
  have idle : (run.index.snippets.isEmpty || limit == 0) = true := by
    rcases nothing with unwanted | empty
    · rw [unwanted, Bool.or_eq_true]
      exact .inr rfl
    · rw [empty, Bool.or_eq_true]
      exact .inl rfl
  rw [answer, complete, if_neg Bool.false_ne_true, if_pos idle]
  rfl

/-- Otherwise the query is embedded, and what comes of that decides. -/
theorem answer_of_something (engine : Engine) (complete : run.interrupted = false)
    (wanted : limit ≠ 0) (stored : run.index.snippets ≠ []) (around : Surroundings σ)
    (query : LooseText) (state : σ) :
    engine.answer around run query limit state =
      match around.embed engine.indexer.provider .query query state with
      | (.error error, after) =>
          (.asked engine.indexer.provider run query (.error (.query error)), after)
      | (.ok vector, between) =>
          (.asked engine.indexer.provider run query
              (rank around run.index vector limit between).1,
            (rank around run.index vector limit between).2) := by
  have busy : ¬ (run.index.snippets.isEmpty || limit == 0) = true := by
    simp [wanted, stored]
  rw [answer, complete, if_neg Bool.false_ne_true, if_neg busy]
  rcases around.embed engine.indexer.provider .query query state with ⟨_ | vector, between⟩
  · rfl
  · rfl

/-- Whatever a search comes to, it leaves the index that its indexing left. -/
theorem answer_index (engine : Engine) (around : Surroundings σ) (run : IndexingRun)
    (query : LooseText) (limit : Int) (state : σ) :
    (engine.answer around run query limit state).1.index = run.index := by
  simp only [answer]
  split
  · rfl
  split
  · rfl
  · rfl

theorem answer_visits (engine : Engine) (around : Surroundings σ) (run : IndexingRun)
    (query : LooseText) (limit : Int) (state : σ) :
    (engine.answer around run query limit state).1.visits = run.visits := by
  simp only [answer]
  split
  · rfl
  split
  · rfl
  · rfl

end Answer

end Engine

end SnippetSearch
