import Mathlib.Data.List.Nodup
import SnippetSearch.Proofs.Engine.Sessions

/-!
# Requests for ranges of lines

Every request for a document is made for one range of lines of one file.  An
engine that is not cleared makes no second request for the same range: a file
is read once, and of its chunks each range is asked for once, whether a vector
is given or not.
-/

namespace SnippetSearch

variable {σ : Type}

open Inquiry

/-! ## What was asked for -/

def Inquiry.documentRequests (journal : List Inquiry) : List EmbeddingRequest :=
  ((journal.filterMap exchange?).map Prod.fst).filter fun request => request.task == .document

/-- The requests that are made during a visit, each after the range of lines that it is for. -/
def Visit.orders (provider : Provider) : Visit → List (SnippetKey × EmbeddingRequest)
  | .indexed path _ attempts =>
      attempts.map fun attempt =>
        (attempt.chunk.key path, provider.request .document (.ofText attempt.chunk.text))
  | .known _ | .ignored _ | .unreadable _ => []

/-- Whether a visit that read a file did so with a content and chunks that a journal bears out. -/
def Visit.IsBorneOut (chunking : Chunking) (journal : List Inquiry) : Visit → Prop
  | .indexed path content attempts =>
      .read path (some content) ∈ journal ∧
        ∀ attempt ∈ attempts, attempt.chunk ∈ chunking.chunks content
  | .known _ | .ignored _ | .unreadable _ => True

namespace Inquiry

theorem documentRequests_append (earlier later : List Inquiry) :
    documentRequests (earlier ++ later) = documentRequests earlier ++ documentRequests later := by
  simp only [documentRequests, List.filterMap_append, List.map_append, List.filter_append]

theorem documentRequests_eq_filter_outcomes (journal : List Inquiry) :
    documentRequests journal =
      ((outcomes journal).map Prod.fst).filter fun request => request.task == .document := by
  rw [documentRequests, outcomes, List.map_map]
  rfl

/-- A journal without requests for documents has none. -/
theorem documentRequests_eq_nil {journal : List Inquiry}
    (others : ∀ entry ∈ outcomes journal, entry.1.task ≠ .document) :
    documentRequests journal = [] := by
  rw [documentRequests_eq_filter_outcomes, List.filter_eq_nil_iff]
  intro request member
  obtain ⟨entry, asked, rfl⟩ := List.mem_map.mp member
  simpa using others entry asked

end Inquiry

namespace Visit

variable {provider : Provider} {visit : Visit}

/-- A visit that reads no file asks for nothing, and there is nothing to bear out. -/
theorem orders_of_idle (idle : visit.indexedPath? = none) : visit.orders provider = [] := by
  cases visit with
  | indexed path content attempts => cases idle
  | known path => rfl
  | ignored path => rfl
  | unreadable path => rfl

theorem IsBorneOut.of_idle (idle : visit.indexedPath? = none) (chunking : Chunking)
    (journal : List Inquiry) : visit.IsBorneOut chunking journal := by
  cases visit with
  | indexed path content attempts => cases idle
  | known path => trivial
  | ignored path => trivial
  | unreadable path => trivial

/-- Each request of a visit that is borne out is for a chunk of the file as it was read. -/
theorem IsBorneOut.exists_chunk {chunking : Chunking} {journal : List Inquiry}
    (borneOut : visit.IsBorneOut chunking journal) {order : SnippetKey × EmbeddingRequest}
    (member : order ∈ visit.orders provider) :
    ∃ content, .read order.1.path (some content) ∈ journal ∧
      ∃ chunk ∈ chunking.chunks content,
        order = (chunk.key order.1.path,
          provider.request .document (.ofText chunk.text)) := by
  cases visit with
  | indexed path content attempts =>
      obtain ⟨attempt, made, rfl⟩ := List.mem_map.mp member
      exact ⟨content, borneOut.1, attempt.chunk, borneOut.2 attempt made, rfl⟩
  | known path => cases member
  | ignored path => cases member
  | unreadable path => cases member

theorem record_of_idle (idle : visit.indexedPath? = none) (index : SnippetIndex) :
    index.record visit = index := by
  cases visit with
  | indexed path content attempts => cases idle
  | known path => exact index.record_known path
  | ignored path => exact index.record_ignored path
  | unreadable path => exact index.record_unreadable path

theorem idle_of_record_eq {index : SnippetIndex} (same : index.record visit = index) :
    visit.indexedPath? = none := by
  have paths_eq := congrArg SnippetIndex.indexedPaths same
  exact Option.toList_eq_nil_iff.mp (List.append_right_eq_self.mp paths_eq)

theorem indexedPath?_of_mem_orders {order : SnippetKey × EmbeddingRequest}
    (member : order ∈ visit.orders provider) : visit.indexedPath? = some order.1.path := by
  cases visit with
  | indexed path content attempts =>
      obtain ⟨attempt, _, rfl⟩ := List.mem_map.mp member
      rfl
  | known path => cases member
  | ignored path => cases member
  | unreadable path => cases member

theorem IsBorneOut.mono {chunking : Chunking} {journal later : List Inquiry}
    (borneOut : visit.IsBorneOut chunking journal) (grows : journal ⊆ later) :
    visit.IsBorneOut chunking later := by
  cases visit with
  | indexed path content attempts => exact ⟨grows borneOut.1, borneOut.2⟩
  | known path => trivial
  | ignored path => trivial
  | unreadable path => trivial

end Visit

/-! ## Visits that account for an index and a journal -/

/--
The visits made since an index was empty account for the files that it has
read, and for the requests for documents that a journal kept since then tells.
-/
structure Indexer.Accounts (indexer : Indexer) (index : SnippetIndex) (journal : List Inquiry)
    (visits : List Visit) : Prop where
  indexedPaths_eq : index.indexedPaths = visits.filterMap Visit.indexedPath?
  indexedPaths_nodup : index.indexedPaths.Nodup
  keys_nodup : ∀ visit ∈ visits, ((visit.orders indexer.provider).map Prod.fst).Nodup
  requests_eq :
    (visits.flatMap (Visit.orders indexer.provider)).map Prod.snd = documentRequests journal
  borne_out : ∀ visit ∈ visits, visit.IsBorneOut indexer.chunking journal

namespace Indexer

variable {answers : List (Chunk × EmbeddingReply)}

theorem map_fst_orders (provider : Provider) (path content : Text)
    (answers : List (Chunk × EmbeddingReply)) :
    ((Visit.indexed path content (answers.map attemptOf)).orders provider).map Prod.fst =
      (answers.map Prod.fst).map (Chunk.key path) := by
  rw [Visit.orders, List.map_map, List.map_map, List.map_map]
  rfl

/-- What is asked for chunks are the requests of a visit, all of them for documents. -/
theorem map_snd_orders (indexer : Indexer) (path content : Text)
    (answers : List (Chunk × EmbeddingReply)) :
    ((Visit.indexed path content (answers.map attemptOf)).orders indexer.provider).map Prod.snd =
      documentRequests
        ((indexer.exchanges answers).map fun exchange => .embed exchange.1 exchange.2) := by
  rw [documentRequests_eq_filter_outcomes, indexer.outcomes_exchanges, List.filter_eq_self.mpr]
  · rw [Visit.orders, List.map_map, List.map_map, List.map_map, List.map_map]
    rfl
  · intro request member
    obtain ⟨_, isAsked, rfl⟩ := List.mem_map.mp member
    obtain ⟨attempt, _, rfl⟩ := List.mem_map.mp isAsked
    rfl

namespace Accounts

variable {indexer : Indexer} {index : SnippetIndex} {journal : List Inquiry} {visits : List Visit}

theorem empty (indexer : Indexer) : indexer.Accounts .empty [] [] :=
  ⟨rfl, .nil, by simp, rfl, by simp⟩

theorem nodup_map_fst_orders (accounts : indexer.Accounts index journal visits) :
    ((visits.flatMap (Visit.orders indexer.provider)).map Prod.fst).Nodup := by
  rw [List.map_flatMap, List.nodup_flatMap]
  refine ⟨accounts.keys_nodup, ?_⟩
  have apart := accounts.indexedPaths_eq ▸ accounts.indexedPaths_nodup
  refine (List.pairwise_filterMap.mp apart).imp ?_
  -- Two visits read different files, so their ranges lie in different files.
  intro first second differ key inFirst inSecond
  obtain ⟨order, isFirst, rfl⟩ := List.mem_map.mp inFirst
  obtain ⟨other, isSecond, same⟩ := List.mem_map.mp inSecond
  refine differ _ (Visit.indexedPath?_of_mem_orders isFirst) _
    (Visit.indexedPath?_of_mem_orders isSecond) ?_
  rw [same]

/-- One more visit, with what it adds to the index and to the journal. -/
theorem concat (accounts : indexer.Accounts index journal visits) {visit : Visit}
    {fresh : List Inquiry} (new : ∀ path ∈ visit.indexedPath?, path ∉ index.indexedPaths)
    (distinct : ((visit.orders indexer.provider).map Prod.fst).Nodup)
    (asked : (visit.orders indexer.provider).map Prod.snd = documentRequests fresh)
    (borneOut : visit.IsBorneOut indexer.chunking fresh) :
    indexer.Accounts (index.record visit) (journal ++ fresh) (visits ++ [visit]) where
  indexedPaths_eq := by
    rw [SnippetIndex.record, accounts.indexedPaths_eq, List.filterMap_append, List.filterMap_cons]
    cases visit.indexedPath? with
    | none => rfl
    | some path => rfl
  indexedPaths_nodup := by
    refine List.nodup_append.mpr ⟨accounts.indexedPaths_nodup, ?_, ?_⟩
    · cases visit.indexedPath? with
      | none => exact .nil
      | some path => exact List.pairwise_singleton _ _
    · rintro path known _ isNew rfl
      exact new path (Option.mem_toList.mp isNew) known
  keys_nodup := List.forall_mem_append.mpr
    ⟨accounts.keys_nodup, List.forall_mem_singleton.mpr distinct⟩
  requests_eq := by
    rw [List.flatMap_append, List.flatMap_singleton, List.map_append, accounts.requests_eq, asked,
      documentRequests_append]
  borne_out := List.forall_mem_append.mpr
    ⟨fun earlier member =>
        (accounts.borne_out earlier member).mono (List.subset_append_left _ _),
      List.forall_mem_singleton.mpr (borneOut.mono (List.subset_append_right _ _))⟩

theorem append (accounts : indexer.Accounts index journal visits) {fresh : List Inquiry}
    (others : ∀ entry ∈ outcomes fresh, entry.1.task ≠ .document) :
    indexer.Accounts index (journal ++ fresh) visits where
  indexedPaths_eq := accounts.indexedPaths_eq
  indexedPaths_nodup := accounts.indexedPaths_nodup
  keys_nodup := accounts.keys_nodup
  requests_eq := by
    rw [documentRequests_append, documentRequests_eq_nil others, List.append_nil,
      accounts.requests_eq]
  borne_out := fun visit member =>
    (accounts.borne_out visit member).mono (List.subset_append_left _ _)

/-- A visit that reads no file changes nothing but the visits and what else is asked. -/
theorem concat_of_idle (accounts : indexer.Accounts index journal visits) {visit : Visit}
    (idle : visit.indexedPath? = none) {fresh : List Inquiry} (unasked : outcomes fresh = []) :
    indexer.Accounts index (journal ++ fresh) (visits ++ [visit]) := by
  have asksNothing : visit.orders indexer.provider = [] := visit.orders_of_idle idle
  have recorded :
      indexer.Accounts (index.record visit) (journal ++ fresh) (visits ++ [visit]) := by
    refine accounts.concat (by simp [idle]) (by simp [asksNothing]) ?_ (.of_idle idle _ _)
    rw [asksNothing, documentRequests_eq_nil (by simp [unasked])]
    rfl
  rw [Visit.record_of_idle idle] at recorded
  exact recorded

/-- Reading a file that is not known asks once for each range of its chunks that carry code. -/
theorem read (accounts : indexer.Accounts index journal visits)
    (available : indexer.provider.available = true) (around : Surroundings σ) {path : Text}
    (unknown : ¬ index.isIndexed path = true) (state : σ) :
    let done := indexer.read around.recorded index path (state, journal)
    indexer.Accounts (index.record done.1) done.2.2 (visits ++ [done.1]) := by
  rw [SnippetIndex.isIndexed_iff_mem] at unknown
  rw [Indexer.read, around.recorded_read]
  rcases around.read path state with ⟨_ | content, between⟩
  · have missing : indexer.Accounts index (journal ++ [.read path none])
        (visits ++ [.unreadable path]) :=
      accounts.concat_of_idle rfl rfl
    rw [← index.record_unreadable path] at missing
    exact missing
  · obtain ⟨answers, after, asked, run_eq⟩ := indexer.attemptAll_recorded available around
      (index.candidates path (indexer.chunking.chunks content))
      (between, journal ++ [.read path (some content)])
    simp only [run_eq]
    rw [List.append_assoc]
    refine accounts.concat ?_ ?_ ?_ ⟨List.mem_cons_self, ?_⟩
    · rintro _ ⟨⟩
      exact unknown
    · rw [map_fst_orders, asked]
      exact index.nodup_key_candidates path _
    · rw [indexer.map_snd_orders]
      rfl
    · intro attempt member
      obtain ⟨answer, given, rfl⟩ := List.mem_map.mp member
      refine index.candidates_subset path _ ?_
      rw [← asked]
      exact List.mem_map_of_mem given

/-- Going through paths keeps the account, with the visits that are made. -/
theorem visitAll (accounts : indexer.Accounts index journal visits)
    (available : indexer.provider.available = true) (around : Surroundings σ) (paths : List Text)
    (state : σ) :
    let done := indexer.visitAll around.recorded index paths (state, journal)
    indexer.Accounts done.1.index done.2.2 (visits ++ done.1.visits) := by
  induction paths generalizing index journal visits state with
  | nil =>
      rw [← visits.append_nil] at accounts
      exact accounts
  | cons path rest ih =>
      rcases indexer.visitAll_cons_cases around.recorded index path rest (state, journal) with
        ⟨visit, _, same, passed⟩ | ⟨_, ended⟩ | ⟨unknown, _, visit, between, read, went⟩
      · have passedOver : indexer.Accounts index (journal ++ []) (visits ++ [visit]) :=
          accounts.concat_of_idle (Visit.idle_of_record_eq same) rfl
        rw [List.append_nil] at passedOver
        rw [passed]
        dsimp only [IndexingRun.after]
        rw [List.append_cons]
        exact ih passedOver state
      · rw [ended]
        rw [← visits.append_nil] at accounts
        exact accounts
      · have afterFirst := accounts.read available around unknown state
        rw [read] at afterFirst
        rw [went]
        dsimp only [IndexingRun.after]
        rw [List.append_cons]
        exact ih afterFirst between.1

theorem run (accounts : indexer.Accounts index journal visits) (around : Surroundings σ)
    (paths : List Text) (state : σ) :
    let done := indexer.run around.recorded index paths (state, journal)
    indexer.Accounts done.1.index done.2.2 (visits ++ done.1.visits) := by
  rw [Indexer.run]
  split
  · next available => exact accounts.visitAll available around paths state
  · rw [← visits.append_nil] at accounts
    exact accounts

end Accounts

end Indexer

/-! ## Sessions -/

namespace Engine

variable {engine : Engine} {visits : List Visit}

/-- A search keeps the account: after its indexing it asks for the vector of the query alone. -/
theorem accounts_search {state : σ} {journal : List Inquiry}
    (accounts : engine.indexer.Accounts engine.index journal visits) (around : Surroundings σ)
    (query : LooseText) (limit : Int) :
    let done := engine.search around.recorded query limit (state, journal)
    engine.indexer.Accounts done.1.index done.2.2 (visits ++ done.1.visits) := by
  have idle := accounts
  rw [← visits.append_nil] at idle
  by_cases negative : limit < 0
  · rw [engine.search_of_negative negative]
    exact idle
  by_cases available : engine.isAvailable = true
  · obtain ⟨listing, listed, unasked⟩ :=
      paths_journal around engine.catalog (state, journal)
    have listedOnly : engine.indexer.Accounts engine.index (journal ++ listing) visits :=
      accounts.append (by simp [unasked])
    have indexed := listedOnly.run around
      (around.recorded.paths engine.catalog (state, journal)).1
      (around.recorded.paths engine.catalog (state, journal)).2.1
    rw [← listed] at indexed
    rw [engine.search_of_available negative available]
    obtain ⟨fresh, grows, asked⟩ := answer_asks_query available around
      (engine.indexCatalog around.recorded (state, journal)).1 query limit
      (engine.indexCatalog around.recorded (state, journal)).2
    dsimp only
    rw [answer_index, answer_visits, grows]
    refine indexed.append fun entry member => ?_
    rw [asked entry member]
    exact EmbeddingTask.noConfusion
  · rw [engine.search_of_unavailable negative available]
    exact idle

end Engine

namespace EngineSession

def visits (around : Surroundings σ) (session : EngineSession σ) : EngineAction σ → List Visit
  | .indexFiles paths =>
      (session.engine.indexer.run around.recorded session.engine.index paths
        (session.state, session.journal)).1.visits
  | .search query limit =>
      (session.engine.search around.recorded query limit
        (session.state, session.journal)).1.visits
  | .clear | .meanwhile _ => []

def visitsAfter (around : Surroundings σ) (session : EngineSession σ) (earlier : List Visit)
    (action : EngineAction σ) : List Visit :=
  match action with
  | .clear => []
  | .indexFiles _ | .search .. | .meanwhile _ => earlier ++ session.visits around action

/-- The visits since an engine was last cleared, after any number of actions. -/
def visitsAfterAll (around : Surroundings σ) :
    EngineSession σ → List Visit → List (EngineAction σ) → List Visit
  | _, earlier, [] => earlier
  | session, earlier, action :: rest =>
      visitsAfterAll around (session.perform around action)
        (session.visitsAfter around earlier action) rest

theorem accounts_perform {session : EngineSession σ} {visits : List Visit}
    (accounts : session.engine.indexer.Accounts session.engine.index session.journal visits)
    (around : Surroundings σ) (action : EngineAction σ) :
    let next := session.perform around action
    next.engine.indexer.Accounts next.engine.index next.journal
      (session.visitsAfter around visits action) := by
  cases action with
  | indexFiles paths => exact accounts.run around paths session.state
  | search query limit => exact Engine.accounts_search accounts around query limit
  | clear => exact .empty session.engine.indexer
  | meanwhile change =>
      rw [← visits.append_nil] at accounts
      exact accounts

theorem accounts_performAll {session : EngineSession σ} {visits : List Visit}
    (accounts : session.engine.indexer.Accounts session.engine.index session.journal visits)
    (around : Surroundings σ) (actions : List (EngineAction σ)) :
    let last := session.performAll around actions
    last.engine.indexer.Accounts last.engine.index last.journal
      (session.visitsAfterAll around visits actions) := by
  induction actions generalizing session visits with
  | nil => exact accounts
  | cons action rest ih => exact ih (accounts_perform accounts around action)

theorem indexer_performAll (session : EngineSession σ) (around : Surroundings σ)
    (actions : List (EngineAction σ)) :
    (session.performAll around actions).engine.indexer = session.engine.indexer := by
  induction actions generalizing session with
  | nil => rfl
  | cons action rest ih =>
      refine (ih (session.perform around action)).trans ?_
      cases action <;> rfl

/--
No range of lines is asked for twice.  Whatever is done with an engine that starts
with nothing indexed, and whatever changes meanwhile, the requests for documents
since it was last cleared are those of its visits since then, in their order: each
is for a chunk of a file as it was read, with the text of the chunk, and no two are
for the same lines of the same file, be they answered with a vector or not.
-/
theorem no_range_requested_twice (engine : Engine) (around : Surroundings σ) (state : σ)
    (actions : List (EngineAction σ)) :
    let session := (start engine state).performAll around actions
    let visits := (start engine state).visitsAfterAll around [] actions
    let orders := visits.flatMap (Visit.orders engine.indexer.provider)
    (session.engine, session.state) =
      actions.foldl (Engine.perform around) (engine.cleared, state) ∧
    orders.map Prod.snd = documentRequests session.journal ∧
    (∀ order ∈ orders, ∃ content, .read order.1.path (some content) ∈ session.journal ∧
      ∃ chunk ∈ engine.indexer.chunking.chunks content,
        order = (chunk.key order.1.path,
          engine.indexer.provider.request .document (.ofText chunk.text))) ∧
    (orders.map Prod.fst).Nodup := by
  intro session visits orders
  have accounts : session.engine.indexer.Accounts session.engine.index session.journal visits :=
    accounts_performAll (.empty engine.indexer) around actions
  have same : session.engine.indexer = engine.indexer :=
    indexer_performAll (start engine state) around actions
  rw [same] at accounts
  refine ⟨performAll_engine around (start engine state) actions, accounts.requests_eq, ?_,
    accounts.nodup_map_fst_orders⟩
  intro order isOrder
  obtain ⟨visit, made, ordered⟩ := List.mem_flatMap.mp isOrder
  exact (accounts.borne_out visit made).exists_chunk ordered

end EngineSession

end SnippetSearch
