import SnippetSearch.Proofs.Engine.Outcome

/-!
# Sessions with an engine

An engine is used in any order of indexing calls, searches and clearings,
while everything around it may change.  The journal of a session starts anew
whenever the engine is cleared.
-/

namespace SnippetSearch

variable {σ : Type}

/-- What happens to an engine: calls of its indexer, searches, clearing, and changes in between. -/
inductive EngineAction (σ : Type) where
  | indexFiles (paths : List Text)
  | search (query : LooseText) (limit : Int)
  | clear
  | meanwhile (change : σ → σ)

def Engine.perform (around : Surroundings σ) : Engine × σ → EngineAction σ → Engine × σ
  | (engine, state), .indexFiles paths =>
      let (run, after) := engine.indexer.run around engine.index paths state
      (engine.withIndex run.index, after)
  | (engine, state), .search query limit =>
      let (run, after) := engine.search around query limit state
      (engine.withIndex run.index, after)
  | (engine, state), .clear => (engine.cleared, state)
  | (engine, state), .meanwhile change => (engine, change state)

/-- An engine in its surroundings, with the journal kept since it was last cleared. -/
structure EngineSession (σ : Type) where
  engine : Engine
  state : σ
  journal : List Inquiry

namespace EngineSession

def start (engine : Engine) (state : σ) : EngineSession σ :=
  ⟨engine.cleared, state, []⟩

/-- The session after an action; clearing the engine starts a new journal. -/
def perform (around : Surroundings σ) (session : EngineSession σ) :
    EngineAction σ → EngineSession σ
  | .indexFiles paths =>
      let (run, state, journal) := session.engine.indexer.run around.recorded session.engine.index
        paths (session.state, session.journal)
      { engine := session.engine.withIndex run.index, state, journal }
  | .search query limit =>
      let (run, state, journal) := session.engine.search around.recorded query limit
        (session.state, session.journal)
      { engine := session.engine.withIndex run.index, state, journal }
  | .clear => start session.engine session.state
  | .meanwhile change => { session with state := change session.state }

def performAll (around : Surroundings σ) (session : EngineSession σ)
    (actions : List (EngineAction σ)) : EngineSession σ :=
  actions.foldl (perform around) session

/-- Keeping a journal changes nothing in what an action does. -/
theorem perform_engine (around : Surroundings σ) (session : EngineSession σ)
    (action : EngineAction σ) :
    ((session.perform around action).engine, (session.perform around action).state) =
      Engine.perform around (session.engine, session.state) action := by
  cases action with
  | indexFiles paths =>
      rw [Engine.perform, ← session.engine.indexer.run_forget around.recorded_details
        session.engine.index paths (session.state, session.journal)]
      rfl
  | search query limit =>
      rw [Engine.perform, ← Engine.search_forget around.recorded_details session.engine
        query limit (session.state, session.journal)]
      rfl
  | clear => rfl
  | meanwhile change => rfl

theorem performAll_engine (around : Surroundings σ) (session : EngineSession σ)
    (actions : List (EngineAction σ)) :
    ((session.performAll around actions).engine, (session.performAll around actions).state) =
      actions.foldl (Engine.perform around) (session.engine, session.state) :=
  (List.foldl_hom (fun session : EngineSession σ => (session.engine, session.state))
    fun session action => (session.perform_engine around action).symm).symm

end EngineSession

end SnippetSearch
