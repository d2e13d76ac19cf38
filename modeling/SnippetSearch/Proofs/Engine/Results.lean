import SnippetSearch.Proofs.Engine.Provenance
import SnippetSearch.Proofs.Engine.Transparency
import SnippetSearch.Proofs.Index.Failures
import SnippetSearch.Proofs.Ranking.Selection

/-!
# Results of searches

While files and replies stay as they are, all searches for one query show the
beginning of one list, in which every stored snippet has its place.  So a lower
limit cuts the list short and changes nothing else.  Each result is the range of
lines that it names, and its scope is read off the lines above this range.
-/

namespace SnippetSearch

variable {σ : Type}

/-! ## What a result shows -/

def SearchResult.place (result : SearchResult) : Text × Int × Int :=
  (result.filePath, result.startLine, result.endLine)

def SnippetKey.place (key : SnippetKey) : Text × Int × Int :=
  (key.path, key.startLine, key.endLine)

theorem SnippetKey.place_injective : Function.Injective SnippetKey.place := by
  rintro ⟨path, first, last⟩ ⟨otherPath, otherFirst, otherLast⟩ same
  simp only [place, Prod.mk.injEq, Int.natCast_inj] at same
  obtain ⟨rfl, rfl, rfl⟩ := same
  rfl

/-- A result shows a snippet: it names its place and has its content. -/
structure SearchResult.Shows (result : SearchResult) (snippet : Snippet) : Prop where
  filePath_eq : result.filePath = snippet.key.path
  startLine_eq : result.startLine = snippet.key.startLine
  endLine_eq : result.endLine = snippet.key.endLine
  content_eq : result.content = snippet.content

/--
A result is cut from lines: its content are those from its first to its last line, and
the lines above its first line, from which a scope is read, end right before them.
-/
structure SearchResult.IsCutFrom (lines : List Text) (result : SearchResult) : Prop where
  one_le_startLine : 1 ≤ result.startLine
  startLine_le_endLine : result.startLine ≤ result.endLine
  endLine_le : result.endLine ≤ lines.length
  content_eq : result.content =
    Text.joinLines (lineRange lines result.startLine.toNat result.endLine.toNat)
  lines_eq : lines = Scope.linesAbove lines result.startLine ++
    lineRange lines result.startLine.toNat result.endLine.toNat ++
    lines.drop result.endLine.toNat

theorem SearchResult.Shows.isCutFrom {result : SearchResult} {snippet : Snippet}
    (shows : result.Shows snippet) {lines : List Text} (range : snippet.IsRangeOf lines) :
    result.IsCutFrom lines := by
  obtain ⟨filePath, startLine, endLine, content, score, parentScope⟩ := result
  obtain ⟨rfl, rfl, rfl, rfl⟩ := shows
  have above : Scope.linesAbove lines snippet.key.startLine =
      lines.take (snippet.key.startLine - 1) := by
    rw [Scope.linesAbove]
    congr 1
    omega
  constructor
  · exact Int.ofNat_le.mpr range.one_le_startLine
  · exact Int.ofNat_le.mpr range.startLine_le_endLine
  · exact Int.ofNat_le.mpr range.endLine_le
  · exact range.text_eq
  · rw [above]
    exact range.lines_eq

/-! ## One list for all limits -/

/-- The result for a snippet with its score, if files are read as told. -/
def SearchResult.ofRanked (read : Text → Option Text) (entry : Snippet × Float) : SearchResult :=
  { filePath := entry.1.key.path
    startLine := entry.1.key.startLine
    endLine := entry.1.key.endLine
    content := entry.1.content
    score := entry.2
    parentScope := Scope.ofFile (read entry.1.key.path) entry.1.key.startLine }

namespace Engine

/-- All that an index holds as results for a query, in the order in which searches show it. -/
def allResults (engine : Engine) (read : Text → Option Text)
    (reply : EmbeddingRequest → EmbeddingReply) (index : SnippetIndex) (query : LooseText) :
    List SearchResult :=
  match (reply (engine.indexer.provider.request .query query)).vector with
  | .error _ => []
  | .ok vector =>
      (Ranking.sort (Ranking.scored Snippet.embedding vector index.snippets)).map
        (SearchResult.ofRanked read)

section Fixed

variable {engine : Engine} {read : Text → Option Text} {reply : EmbeddingRequest → EmbeddingReply}
  {list : FolderCatalog → List Text} {index : SnippetIndex} {query : LooseText} {limit : Int}

theorem results_fixed (ranked : List (Snippet × Float)) :
    results (.fixed read reply list) ranked () =
      (ranked.map (SearchResult.ofRanked read), ()) := by
  induction ranked with
  | nil => rfl
  | cons entry rest ih =>
      dsimp only [results, Surroundings.fixed] at ih ⊢
      rw [ih]
      rfl

/-- Where vectors can be ranked, the results are the beginning of the ranking. -/
theorem eq_take_of_rank_eq {vector : Embedding} (positive : 0 < limit)
    (stored : index.snippets ≠ []) {shown : List SearchResult}
    (ranks : (rank (.fixed read reply list) index vector limit ()).1 = .ok shown) :
    shown = ((Ranking.sort (Ranking.scored Snippet.embedding vector index.snippets)).map
      (SearchResult.ofRanked read)).take limit.toNat := by
  rw [rank] at ranks
  cases top_eq : Ranking.top Snippet.embedding index.snippets vector limit with
  | error mismatch =>
      rw [top_eq] at ranks
      cases ranks
  | ok ranked =>
      rw [top_eq] at ranks
      dsimp only at ranks
      rw [results_fixed] at ranks
      rw [← Except.ok.inj ranks, Ranking.eq_take_of_top_eq positive stored top_eq, List.map_take]

theorem allResults_of_vector {vector : Embedding}
    (given : (reply (engine.indexer.provider.request .query query)).vector = .ok vector) :
    engine.allResults read reply index query =
      (Ranking.sort (Ranking.scored Snippet.embedding vector index.snippets)).map
        (SearchResult.ofRanked read) := by
  rw [allResults, given]

/-- There is nothing to show, or all that is stored, in some order. -/
theorem allResults_cases (engine : Engine) (read : Text → Option Text)
    (reply : EmbeddingRequest → EmbeddingReply) (index : SnippetIndex) (query : LooseText) :
    engine.allResults read reply index query = [] ∨
      ∃ ranked : List (Snippet × Float), (ranked.map Prod.fst).Perm index.snippets ∧
        engine.allResults read reply index query = ranked.map (SearchResult.ofRanked read) := by
  rcases given : (reply (engine.indexer.provider.request .query query)).vector with
    error | vector
  · left
    rw [allResults, given]
  · right
    exact ⟨_, Ranking.perm_map_fst_sort_scored Snippet.embedding vector index.snippets,
      allResults_of_vector given⟩

theorem allResults_of_empty (empty : index.snippets = []) :
    engine.allResults read reply index query = [] := by
  rcases engine.allResults_cases read reply index query with none | ⟨ranked, perm, all_eq⟩
  · exact none
  · rw [empty, List.perm_nil, List.map_eq_nil_iff] at perm
    rw [all_eq, perm, List.map_nil]

/-- No two results name the same place, as no two snippets are stored under the same key. -/
theorem nodup_places_allResults (distinct : index.keys.Nodup) :
    ((engine.allResults read reply index query).map SearchResult.place).Nodup := by
  rcases engine.allResults_cases read reply index query with none | ⟨ranked, perm, all_eq⟩
  · rw [none]
    exact .nil
  · have places_eq : (engine.allResults read reply index query).map SearchResult.place =
        ((ranked.map Prod.fst).map Snippet.key).map SnippetKey.place := by
      rw [all_eq, List.map_map, List.map_map, List.map_map]
      rfl
    rw [places_eq]
    exact ((perm.map Snippet.key).nodup_iff.mpr distinct).map SnippetKey.place_injective

/-- Each result shows a stored snippet, with the scope of its first line. -/
theorem exists_snippet_of_mem_allResults {result : SearchResult}
    (member : result ∈ engine.allResults read reply index query) :
    ∃ snippet ∈ index.snippets, result.Shows snippet ∧
      result.parentScope = Scope.ofFile (read result.filePath) result.startLine := by
  rcases engine.allResults_cases read reply index query with none | ⟨ranked, perm, all_eq⟩
  · rw [none] at member
    cases member
  · rw [all_eq] at member
    obtain ⟨entry, isRanked, rfl⟩ := List.mem_map.mp member
    exact ⟨entry.1, perm.subset (List.mem_map_of_mem isRanked), ⟨rfl, rfl, rfl, rfl⟩, rfl⟩

/-- An answer that has results shows the first of all, as many as are wanted and stored. -/
theorem answer_fixed (available : engine.isAvailable = true) (possible : 0 ≤ limit)
    {run : IndexingRun} {shown : List SearchResult}
    (returns : (engine.answer (.fixed read reply list) run query limit ()).1.outcome = .ok shown) :
    shown = (engine.allResults read reply run.index query).take limit.toNat ∧
      shown.length = min limit.toNat run.index.size := by
  by_cases interrupted : run.interrupted = true
  · rw [answer_of_interrupted engine interrupted] at returns
    cases returns
  have complete := Bool.eq_false_iff.mpr interrupted
  by_cases nothing : limit = 0 ∨ run.index.snippets = []
  · rw [answer_of_nothing engine complete nothing] at returns
    cases returns
    rcases nothing with rfl | empty
    · exact ⟨rfl, (Nat.zero_min _).symm⟩
    · rw [allResults_of_empty empty, List.take_nil, SnippetIndex.size, empty]
      exact ⟨rfl, (Nat.min_zero _).symm⟩
  obtain ⟨wanted, stored⟩ := not_or.mp nothing
  have embedded : (Surroundings.fixed read reply list).embed engine.indexer.provider .query query
      () = ((reply (engine.indexer.provider.request .query query)).vector, ()) :=
    if_pos available
  rw [answer_of_something engine complete wanted stored, embedded] at returns
  rcases given : (reply (engine.indexer.provider.request .query query)).vector with
    error | vector
  · rw [given] at returns
    cases returns
  · rw [given] at returns
    have shown_eq := eq_take_of_rank_eq (Int.lt_iff_le_and_ne.mpr ⟨possible, Ne.symm wanted⟩) stored
      returns
    rw [← allResults_of_vector given] at shown_eq
    refine ⟨shown_eq, ?_⟩
    have counted := (Ranking.perm_map_fst_sort_scored Snippet.embedding vector
      run.index.snippets).length_eq
    rw [shown_eq, allResults_of_vector given, List.length_take, List.length_map, SnippetIndex.size,
      ← counted, List.length_map]

/-- A search that has results shows the first of all, as many as are wanted and stored. -/
theorem search_fixed (available : engine.isAvailable = true) {shown : List SearchResult}
    (returns : (engine.search (.fixed read reply list) query limit ()).1.outcome = .ok shown) :
    let indexed := (engine.indexCatalog (.fixed read reply list) ()).1.index
    (engine.search (.fixed read reply list) query limit ()).1.index = indexed ∧
      shown = (engine.allResults read reply indexed query).take limit.toNat ∧
      shown.length = min limit.toNat indexed.size := by
  intro indexed
  by_cases negative : limit < 0
  · rw [engine.search_of_negative negative] at returns
    cases returns
  rw [engine.search_of_available negative available] at returns ⊢
  exact ⟨answer_index engine _ _ query limit _,
    answer_fixed available (Int.not_lt.mp negative) returns⟩

/-- A search with a lower limit shows the beginning of what one with a higher limit shows. -/
theorem results_nest (available : engine.isAvailable = true) {wider : Int}
    (ordered : limit ≤ wider) {few many : List SearchResult}
    (lower : (engine.search (.fixed read reply list) query limit ()).1.outcome = .ok few)
    (higher : (engine.search (.fixed read reply list) query wider ()).1.outcome = .ok many) :
    few = many.take few.length := by
  obtain ⟨_, few_eq, _⟩ := search_fixed available lower
  obtain ⟨_, many_eq, _⟩ := search_fixed available higher
  refine List.prefix_iff_eq_take.mp ?_
  rw [few_eq, many_eq]
  exact List.take_prefix_take_left (Int.toNat_le_toNat ordered)

/-- What has been searched for before makes no difference to the outcome of a search. -/
theorem outcome_search_again (engine : Engine) (read : Text → Option Text)
    (reply : EmbeddingRequest → EmbeddingReply) (list : FolderCatalog → List Text)
    (earlier query : LooseText) (earlierLimit limit : Int) :
    let now := Surroundings.fixed read reply list
    let left := (engine.search now earlier earlierLimit ()).1.index
    ((engine.withIndex left).search now query limit ()).1.outcome =
      (engine.search now query limit ()).1.outcome := by
  intro now left
  have ends : ((engine.withIndex left).catalogRun now).EndsLike (engine.catalogRun now) := by
    rcases engine.search_index_cases now earlier earlierLimit with untouched | indexed
    · rw [show left = engine.index from untouched]
      exact ⟨rfl, rfl⟩
    · rw [show left = (engine.catalogRun now).index from indexed]
      exact engine.indexer.run_again read reply list engine.index _
  exact outcome_search_congr ends query limit

end Fixed

end Engine

/-! ## Searches after a session -/

namespace EngineSession

/--
Searches with a service, after any session with an engine that starts with nothing
indexed, while files and replies stay as they are.  With a lower limit a search shows
the beginning of what it shows with a higher one, as many results as are wanted and
stored, whatever has been searched for in between.  No two results name the same
place, and each is a stored snippet.  Its content are the lines that it names of the
file as the only visit that read it found it, and while the file still reads so, its
scope is that of the lines that end right above its content.
-/
theorem results_nest_and_are_genuine (engine : Engine) (available : engine.isAvailable = true)
    (around : Surroundings σ) (state : σ) (actions : List (EngineAction σ))
    (read : Text → Option Text) (reply : EmbeddingRequest → EmbeddingReply)
    (list : FolderCatalog → List Text) (query : LooseText) :
    let session := (start engine state).performAll around actions
    let now := Surroundings.fixed read reply list
    let found (limit : Int) := (session.engine.search now query limit ()).1
    (session.engine, session.state) =
      actions.foldl (Engine.perform around) (engine.cleared, state) ∧
    (∀ limit wider few many, 0 ≤ limit → limit ≤ wider →
      (found limit).outcome = .ok few → (found wider).outcome = .ok many →
      let count := min limit.toNat (found limit).index.size
      few.length = count ∧ few = many.take count) ∧
    (∀ earlier earlierLimit limit,
      let left := (session.engine.search now earlier earlierLimit ()).1.index
      ((session.engine.withIndex left).search now query limit ()).1.outcome =
        (found limit).outcome) ∧
    ∀ limit shown, (found limit).outcome = .ok shown →
      let visits := (start engine state).visitsAfterAll around [] actions ++ (found limit).visits
      (visits.filterMap Visit.indexedPath?).Nodup ∧
      (shown.map SearchResult.place).Nodup ∧
      ∀ result ∈ shown,
        (∃ snippet ∈ (found limit).index.snippets, result.Shows snippet) ∧
        ∃ content attempts, .indexed result.filePath content attempts ∈ visits ∧
          result.IsCutFrom content.lines ∧
          (read result.filePath = some content →
            result.parentScope = Scope.ofLines content.lines result.startLine) := by
  intro session now found
  have indexer_eq : session.engine.indexer = engine.indexer :=
    indexer_performAll (start engine state) around actions
  have served : session.engine.isAvailable = true := by
    rw [Engine.isAvailable, indexer_eq]
    exact available
  refine ⟨performAll_engine around (start engine state) actions, ?_, ?_, ?_⟩
  · intro limit wider few many _ ordered lower higher count
    obtain ⟨index_eq, _, counted⟩ := Engine.search_fixed served lower
    have count_eq : few.length = count := by
      rw [counted, ← index_eq]
    exact ⟨count_eq, count_eq ▸ Engine.results_nest served ordered lower higher⟩
  · intro earlier earlierLimit limit
    exact session.engine.outcome_search_again read reply list earlier query earlierLimit limit
  · intro limit shown returns visits
    obtain ⟨index_eq, shown_eq, _⟩ := Engine.search_fixed served returns
    have stored : (found limit).index.IsStoredBy visits :=
      (isStoredBy_of_start engine around state actions).append
        (session.engine.search_index now query limit ())
    obtain ⟨journal, accounts⟩ := Engine.exists_accounts_search
      (accounts_of_start engine around state actions) now query limit ()
    rw [← index_eq] at shown_eq
    refine ⟨accounts.indexedPaths_eq ▸ accounts.indexedPaths_nodup, ?_, ?_⟩
    · rw [shown_eq, List.map_take]
      exact (Engine.nodup_places_allResults (stored.keys_nodup accounts)).sublist
        (List.take_sublist _ _)
    · intro result member
      rw [shown_eq] at member
      obtain ⟨snippet, holds, shows, scope⟩ :=
        Engine.exists_snippet_of_mem_allResults (List.mem_of_mem_take member)
      obtain ⟨content, attempts, made, range⟩ := stored.exists_reading accounts holds
      refine ⟨⟨snippet, holds, shows⟩, content, attempts, ?_, shows.isCutFrom range, ?_⟩
      · rw [shows.filePath_eq]
        exact made
      · intro unchanged
        rw [scope, unchanged]
        rfl

/-! ### Two classes without overlap -/

/-- An engine over one file, of which no line lies in two chunks. -/
def separateEngine : Engine where
  indexer := { standardIndexer with chunking := ⟨200, 0, by decide⟩ }
  catalog := .fixed ["n.cs".toList]
  index := .empty

/-- Gives the first class a direction of its own, and the same one to all else. -/
def secondClassFirst (request : EmbeddingRequest) : EmbeddingReply :=
  if request.text = .ofText "class A \x7b \x7d".toList then .values [1, 0] else .values [0, 1]

set_option maxRecDepth 20000 in
/--
Two results are wanted and the second class comes first, with the scope that the lines
above it make; one result is wanted, and it is this one.
-/
theorem results_nest_and_are_genuine_twoClasses :
    let now := Surroundings.fixed readTwoClasses secondClassFirst fun _ => []
    let session := (start separateEngine ()).performAll now [.indexFiles ["n.cs".toList]]
    let found (limit : Int) := (session.engine.search now (.ofText "q".toList) limit ()).1
    ∃ few many, (found 1).outcome = .ok few ∧ (found 2).outcome = .ok many ∧
      few = many.take 1 ∧ (many.map SearchResult.place).Nodup ∧
      many.map (fun result => (result.place, result.parentScope)) =
        [(("n.cs".toList, 3, 3), "N.A".toList), (("n.cs".toList, 2, 2), "N".toList)] := by
  intro now session found
  obtain ⟨_, nest, _, genuine⟩ := results_nest_and_are_genuine separateEngine rfl now ()
    [.indexFiles ["n.cs".toList]] readTwoClasses secondClassFirst (fun _ => [])
    (.ofText "q".toList)
  obtain ⟨few, lower⟩ : ∃ few, (found 1).outcome = .ok few := ⟨_, rfl⟩
  obtain ⟨many, higher⟩ : ∃ many, (found 2).outcome = .ok many := ⟨_, rfl⟩
  have nested := (nest 1 2 few many (by decide) (by decide) lower higher).2
  have counted : min (1 : Int).toNat (found 1).index.size = 1 := by decide +kernel
  refine ⟨few, many, lower, higher, nested.trans (congrArg many.take counted),
    (genuine 2 many higher).2.1, ?_⟩
  have shown : (found 2).outcome.map
      (List.map fun result => (result.place, result.parentScope)) =
        .ok [(("n.cs".toList, 3, 3), "N.A".toList), (("n.cs".toList, 2, 2), "N".toList)] := by
    decide +kernel
  rw [higher] at shown
  exact Except.ok.inj shown

end EngineSession

end SnippetSearch
