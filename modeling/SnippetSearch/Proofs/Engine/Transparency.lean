import SnippetSearch.Proofs.Engine.Exits
import SnippetSearch.Proofs.Index.Repetition

/-!
# Searching with what is indexed already

While files and replies stay as they are, an engine that has been used before
answers like a new one: what it has indexed saves work and shows nowhere else.
-/

namespace SnippetSearch

inductive EngineOperation where
  | search (query : LooseText) (limit : Int)
  | clear

namespace Engine

variable {σ : Type}

/-- The answers to the searches among operations, each on the engine that the last one left. -/
def answers (engine : Engine) (around : Surroundings σ) :
    List EngineOperation → σ → List (Except SearchError (List SearchResult))
  | [], _ => []
  | .search query limit :: rest, state =>
      let (run, after) := engine.search around query limit state
      run.outcome :: (engine.withIndex run.index).answers around rest after
  | .clear :: rest, state => engine.cleared.answers around rest state

/-- The answer to an operation that is the only one, if it is a search. -/
def answer? (engine : Engine) (around : Surroundings σ) (state : σ) :
    EngineOperation → Option (Except SearchError (List SearchResult))
  | .search query limit => some (engine.search around query limit state).1.outcome
  | .clear => none

def catalogRun (engine : Engine) (around : Surroundings Unit) : IndexingRun :=
  (engine.indexer.run around engine.index (around.paths engine.catalog ()).1 ()).1

/-- Whether an engine holds nothing, or what a new engine holds after a search. -/
def IsSettled (engine : Engine) (around : Surroundings Unit) : Prop :=
  engine.index = .empty ∨ engine.index = (engine.cleared.catalogRun around).index

theorem settled_cleared (engine : Engine) (around : Surroundings Unit) :
    engine.cleared.IsSettled around :=
  .inl rfl

section Answer

variable {around : Surroundings Unit} {engine : Engine} {run other : IndexingRun}

/-- What is answered depends on what the indexing left and how it ended, not on its visits. -/
theorem answer_outcome_congr (same : run.EndsLike other) (query : LooseText) (limit : Int) :
    (engine.answer around run query limit ()).1.outcome =
      (engine.answer around other query limit ()).1.outcome := by
  obtain ⟨sameIndex, sameEnd⟩ := same
  simp only [answer, sameIndex, sameEnd]
  split
  · rfl
  split
  · rfl
  · rfl

end Answer

section Session

variable {read : Text → Option Text} {reply : EmbeddingRequest → EmbeddingReply}
  {list : FolderCatalog → List Text} {engine : Engine} {limit : Int}

/-- From a settled index the catalog is indexed to the same end as from an empty one. -/
theorem IsSettled.catalogRun_endsLike (settled : engine.IsSettled (.fixed read reply list)) :
    (engine.catalogRun (.fixed read reply list)).EndsLike
      (engine.cleared.catalogRun (.fixed read reply list)) := by
  rcases settled with empty | indexed
  · rw [catalogRun, empty]
    exact ⟨rfl, rfl⟩
  · rw [catalogRun, indexed]
    exact engine.indexer.run_again read reply list .empty _

/-- What an engine holds matters to a search only through how the indexing ends. -/
theorem outcome_search_congr {left right : SnippetIndex}
    (ends : ((engine.withIndex left).catalogRun (.fixed read reply list)).EndsLike
      ((engine.withIndex right).catalogRun (.fixed read reply list)))
    (query : LooseText) (limit : Int) :
    ((engine.withIndex left).search (.fixed read reply list) query limit ()).1.outcome =
      ((engine.withIndex right).search (.fixed read reply list) query limit ()).1.outcome := by
  by_cases negative : limit < 0
  · rw [search_of_negative _ negative, search_of_negative _ negative]
    rfl
  by_cases available : engine.isAvailable = true
  · rw [(engine.withIndex left).search_of_available negative available,
      (engine.withIndex right).search_of_available negative available]
    exact answer_outcome_congr ends query limit
  · rw [(engine.withIndex left).search_of_unavailable negative available,
      (engine.withIndex right).search_of_unavailable negative available]
    rfl

theorem IsSettled.outcome_search (settled : engine.IsSettled (.fixed read reply list))
    (query : LooseText) (limit : Int) :
    (engine.search (.fixed read reply list) query limit ()).1.outcome =
      (engine.cleared.search (.fixed read reply list) query limit ()).1.outcome :=
  outcome_search_congr settled.catalogRun_endsLike query limit

/-- A search leaves an index as it was, or as the indexing with which it begins leaves it. -/
theorem search_index_cases (engine : Engine) (around : Surroundings Unit) (query : LooseText)
    (limit : Int) :
    (engine.search around query limit ()).1.index = engine.index ∨
      (engine.search around query limit ()).1.index = (engine.catalogRun around).index := by
  by_cases negative : limit < 0
  · rw [engine.search_of_negative negative]
    exact .inl rfl
  by_cases available : engine.isAvailable = true
  · rw [engine.search_of_available negative available, answer_index]
    exact .inr rfl
  · rw [engine.search_of_unavailable negative available]
    exact .inl rfl

/-- Whatever a search comes to, it leaves a settled engine settled. -/
theorem IsSettled.after_search (settled : engine.IsSettled (.fixed read reply list))
    (query : LooseText) (limit : Int) :
    (engine.withIndex
      (engine.search (.fixed read reply list) query limit ()).1.index).IsSettled
        (.fixed read reply list) := by
  rcases engine.search_index_cases (.fixed read reply list) query limit with
    untouched | indexed
  · rw [untouched]
    exact settled
  · rw [indexed]
    exact .inr settled.catalogRun_endsLike.1

/-- A session on a settled engine answers each search as a new engine answers it alone. -/
theorem IsSettled.answers (settled : engine.IsSettled (.fixed read reply list))
    (operations : List EngineOperation) :
    engine.answers (.fixed read reply list) operations () =
      operations.filterMap (engine.cleared.answer? (.fixed read reply list) ()) := by
  induction operations generalizing engine with
  | nil => rfl
  | cons operation rest ih =>
      cases operation with
      | search query limit =>
          have alone : engine.cleared.answer? (.fixed read reply list) () (.search query limit) =
              some (engine.search (.fixed read reply list) query limit ()).1.outcome :=
            congrArg some (settled.outcome_search query limit).symm
          have remaining := ih (settled.after_search query limit)
          rw [List.filterMap_cons_some alone]
          exact congrArg (List.cons _) remaining
      | clear =>
          have remaining := ih (settled_cleared engine (.fixed read reply list))
          rw [List.filterMap_cons_none rfl]
          exact remaining

end Session

/--
In surroundings that stay as they are, every search of a session on an engine
with nothing indexed is answered as a new engine answers it alone.
-/
theorem answers_eq_alone (engine : Engine) (read : Text → Option Text)
    (reply : EmbeddingRequest → EmbeddingReply) (list : FolderCatalog → List Text)
    (operations : List EngineOperation) :
    engine.cleared.answers (.fixed read reply list) operations () =
      operations.filterMap (engine.cleared.answer? (.fixed read reply list) ()) :=
  (settled_cleared engine (.fixed read reply list)).answers operations

end Engine

end SnippetSearch
