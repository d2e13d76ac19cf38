import SnippetSearch.Proofs.Chunk.Coverage
import SnippetSearch.Proofs.Engine.Requests
import SnippetSearch.Proofs.Index.Summary

/-!
# Where stored snippets come from

What an engine has indexed is what its visits since it was last cleared have
stored.  Each snippet holds a range of the lines of its file, as the visit that
read this file found them, and no two snippets are stored under the same key.
-/

namespace SnippetSearch

variable {σ : Type}

def Snippet.IsRangeOf (lines : List Text) (snippet : Snippet) : Prop :=
  Chunk.IsRangeOf lines ⟨snippet.content, snippet.key.startLine, snippet.key.endLine⟩

/-! ## What visits store -/

theorem Visit.keys_sublist (provider : Provider) (visit : Visit) :
    (visit.snippets.map Snippet.key).Sublist ((visit.orders provider).map Prod.fst) := by
  cases visit with
  | indexed path content attempts =>
      have asked : (orders provider (.indexed path content attempts)).map Prod.fst =
          (attempts.map Attempt.chunk).map (Chunk.key path) := by
        rw [orders, List.map_map, List.map_map]
        rfl
      rw [asked]
      exact Attempt.keys_sublist path attempts
  | known path => exact .slnil
  | ignored path => exact .slnil
  | unreadable path => exact .slnil

theorem Visit.keys_sublist_flatMap (provider : Provider) (visits : List Visit) :
    ((visits.flatMap Visit.snippets).map Snippet.key).Sublist
      ((visits.flatMap (Visit.orders provider)).map Prod.fst) := by
  induction visits with
  | nil => exact .slnil
  | cons visit rest ih =>
      rw [List.flatMap_cons, List.flatMap_cons, List.map_append, List.map_append]
      exact (visit.keys_sublist provider).append ih

theorem Visit.IsBorneOut.exists_range {chunking : Chunking} {journal : List Inquiry}
    {visit : Visit} (borneOut : visit.IsBorneOut chunking journal) {snippet : Snippet}
    (stored : snippet ∈ visit.snippets) :
    ∃ content attempts, visit = .indexed snippet.key.path content attempts ∧
      snippet.IsRangeOf content.lines := by
  cases visit with
  | indexed path content attempts =>
      obtain ⟨attempt, made, yields⟩ := List.mem_filterMap.mp stored
      have range : attempt.chunk.IsRangeOf content.lines :=
        (chunking.chunksOfLines_isSequence content.lines).ranges _ (borneOut.2 attempt made)
      rw [Attempt.snippet?] at yields
      split at yields
      · obtain rfl := Option.some.inj yields
        exact ⟨content, attempts, rfl, range⟩
      · cases yields
  | known path => cases stored
  | ignored path => cases stored
  | unreadable path => cases stored

namespace SnippetIndex

variable {indexer : Indexer} {index : SnippetIndex} {journal : List Inquiry} {visits : List Visit}

def IsStoredBy (visits : List Visit) (index : SnippetIndex) : Prop :=
  index = visits.foldl record .empty

theorem IsStoredBy.append (stored : index.IsStoredBy visits) {later : SnippetIndex}
    {more : List Visit} (added : later = more.foldl record index) :
    later.IsStoredBy (visits ++ more) := by
  rw [IsStoredBy, List.foldl_append, ← show index = _ from stored]
  exact added

theorem IsStoredBy.snippets_eq (stored : index.IsStoredBy visits) :
    index.snippets = visits.flatMap Visit.snippets := by
  rw [show index = _ from stored, snippets_foldl_record]
  rfl

/-- Among visits that account for an index, the one that read the file has stored a snippet. -/
theorem IsStoredBy.exists_reading (stored : index.IsStoredBy visits)
    (accounts : indexer.Accounts index journal visits) {snippet : Snippet}
    (member : snippet ∈ index.snippets) :
    ∃ content attempts, .indexed snippet.key.path content attempts ∈ visits ∧
      snippet.IsRangeOf content.lines := by
  rw [stored.snippets_eq] at member
  obtain ⟨visit, made, given⟩ := List.mem_flatMap.mp member
  obtain ⟨content, attempts, rfl, range⟩ := (accounts.borne_out visit made).exists_range given
  exact ⟨content, attempts, made, range⟩

/-- No key is stored twice, since none is asked for twice. -/
theorem IsStoredBy.keys_nodup (stored : index.IsStoredBy visits)
    (accounts : indexer.Accounts index journal visits) : index.keys.Nodup := by
  rw [keys, stored.snippets_eq]
  exact accounts.nodup_map_fst_orders.sublist (Visit.keys_sublist_flatMap indexer.provider visits)

end SnippetIndex

/-! ## Calls, searches and sessions -/

theorem Indexer.run_index (indexer : Indexer) (around : Surroundings σ) (index : SnippetIndex)
    (paths : List Text) (state : σ) :
    let done := indexer.run around index paths state
    done.1.index = done.1.visits.foldl SnippetIndex.record index := by
  rw [Indexer.run]
  split
  · exact indexer.visitAll_index around index paths state
  · rfl

theorem Engine.search_index (engine : Engine) (around : Surroundings σ) (query : LooseText)
    (limit : Int) (state : σ) :
    let done := engine.search around query limit state
    done.1.index = done.1.visits.foldl SnippetIndex.record engine.index := by
  by_cases negative : limit < 0
  · rw [engine.search_of_negative negative]
    rfl
  by_cases available : engine.isAvailable = true
  · rw [engine.search_of_available negative available]
    dsimp only
    rw [answer_index, answer_visits]
    exact engine.indexer.run_index around engine.index _ _
  · rw [engine.search_of_unavailable negative available]
    rfl

theorem Engine.exists_accounts_search {engine : Engine} {journal : List Inquiry}
    {visits : List Visit}
    (accounts : engine.indexer.Accounts engine.index journal visits) (around : Surroundings σ)
    (query : LooseText) (limit : Int) (state : σ) :
    let done := engine.search around query limit state
    ∃ later, engine.indexer.Accounts done.1.index later (visits ++ done.1.visits) := by
  have same := congrArg Prod.fst
    (engine.search_forget around.recorded_details query limit (state, journal))
  refine ⟨(engine.search around.recorded query limit (state, journal)).2.2, ?_⟩
  rw [← show _ = (engine.search around query limit state).1 from same]
  exact accounts_search accounts around query limit

namespace EngineSession

variable {session : EngineSession σ} {visits : List Visit}

theorem isStoredBy_perform (stored : session.engine.index.IsStoredBy visits)
    (around : Surroundings σ) (action : EngineAction σ) :
    (session.perform around action).engine.index.IsStoredBy
      (session.visitsAfter around visits action) := by
  cases action with
  | indexFiles paths =>
      exact stored.append (session.engine.indexer.run_index around.recorded session.engine.index
        paths (session.state, session.journal))
  | search query limit =>
      exact stored.append (session.engine.search_index around.recorded query limit
        (session.state, session.journal))
  | clear => rfl
  | meanwhile change => exact stored.append rfl

/-- Whatever is done with an engine, its visits since it was last cleared stored what it holds. -/
theorem isStoredBy_performAll (stored : session.engine.index.IsStoredBy visits)
    (around : Surroundings σ) (actions : List (EngineAction σ)) :
    (session.performAll around actions).engine.index.IsStoredBy
      (session.visitsAfterAll around visits actions) := by
  induction actions generalizing session visits with
  | nil => exact stored
  | cons action rest ih => exact ih (isStoredBy_perform stored around action)

/-- Sessions that start with nothing indexed have an account of their visits. -/
theorem accounts_of_start (engine : Engine) (around : Surroundings σ) (state : σ)
    (actions : List (EngineAction σ)) :
    let session := (start engine state).performAll around actions
    session.engine.indexer.Accounts session.engine.index session.journal
      ((start engine state).visitsAfterAll around [] actions) := by
  have unused : (start engine state).engine.indexer.Accounts (start engine state).engine.index
      (start engine state).journal [] := .empty engine.indexer
  exact accounts_performAll unused around actions

theorem isStoredBy_of_start (engine : Engine) (around : Surroundings σ) (state : σ)
    (actions : List (EngineAction σ)) :
    ((start engine state).performAll around actions).engine.index.IsStoredBy
      ((start engine state).visitsAfterAll around [] actions) := by
  have unstored : (start engine state).engine.index.IsStoredBy [] := rfl
  exact isStoredBy_performAll unstored around actions

end EngineSession

end SnippetSearch
