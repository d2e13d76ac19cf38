import SnippetSearch.Proofs.Engine.Sessions
import SnippetSearch.Server.Basic

/-!
# Single exchanges with the server

Only well-formed searches and requests for the status need the engine of the
server.  Such a request is answered as if the engine had been there before, or
fails and leaves the server as it is.  Every other request is answered without
asking anything, and so is every one that is refused for its body.
-/

namespace SnippetSearch

variable {σ : Type}

/-! ## What a request asks for -/

namespace Request

variable {router : Router} {request : Request}

/-- The order that a request makes, if it is a well-formed search. -/
def order? (router : Router) (request : Request) : Option SearchOrder :=
  match router.lead request with
  | .search => (SearchOrder.ofBody request.body).toOption
  | .status | .elsewhere _ => none

def asksStatus (router : Router) (request : Request) : Bool :=
  match router.lead request with
  | .status => true
  | .search | .elsewhere _ => false

def needsEngine (router : Router) (request : Request) : Bool :=
  (request.order? router).isSome || request.asksStatus router

def action? (router : Router) (request : Request) : Option (EngineAction σ) :=
  (request.order? router).map fun order => .search order.query order.limit

theorem order?_eq_none (elsewhere : router.lead request ≠ .search) :
    request.order? router = none := by
  unfold order?
  split
  · next isSearch => exact absurd isSearch elsewhere
  · rfl
  · rfl

theorem order?_eq_some_iff {order : SearchOrder} :
    request.order? router = some order ↔
      router.lead request = .search ∧ SearchOrder.ofBody request.body = .ok order := by
  unfold order?
  cases isLead : router.lead request with
  | search =>
      cases SearchOrder.ofBody request.body with
      | error reason => exact iff_of_false nofun nofun
      | ok made => simp [Except.toOption]
  | status => exact iff_of_false nofun nofun
  | elsewhere response => exact iff_of_false nofun nofun

theorem asksStatus_iff : request.asksStatus router = true ↔ router.lead request = .status := by
  unfold asksStatus
  cases router.lead request with
  | search => exact iff_of_false nofun nofun
  | status => exact iff_of_true rfl rfl
  | elsewhere response => exact iff_of_false nofun nofun

theorem asksStatus_of_needsEngine (needs : request.needsEngine router = true)
    (noOrder : request.order? router = none) : request.asksStatus router = true := by
  rw [needsEngine, noOrder, Option.isSome_none, Bool.false_or] at needs
  exact needs

end Request

namespace Server

variable {server : Server} {router : Router} {machine : Machine} {serviceStarts : Bool}
  {around : Surroundings σ} {request : Request} {state : σ}

/-! ## Requests that need the engine -/

theorem handle_of_order {order : SearchOrder} (isOrder : request.order? router = some order) :
    server.handle router machine serviceStarts around request state =
      match server.engine machine serviceStarts with
      | .error error => (server.answerWith (.ofSetupError error), state)
      | .ok engine =>
          let (run, after) := engine.search around order.query order.limit state
          ({ response := .ofOutcome run.outcome
             server := ⟨some (engine.withIndex run.index)⟩
             search? := some run }, after) := by
  obtain ⟨isSearch, isBody⟩ := Request.order?_eq_some_iff.mp isOrder
  rw [handle, isSearch]
  dsimp only
  rw [handleSearch]
  exact isBody ▸ rfl

theorem handle_of_asksStatus (asks : request.asksStatus router = true) :
    server.handle router machine serviceStarts around request state =
      (server.handleStatus machine serviceStarts, state) := by
  rw [handle, Request.asksStatus_iff.mp asks]

/-- A request that does not need the engine is answered, and nothing else happens. -/
theorem handle_of_not_needsEngine (idle : request.needsEngine router = false) :
    ∃ response, ∀ (server : Server) (machine : Machine) (serviceStarts : Bool)
      (around : Surroundings σ) (state : σ),
      server.handle router machine serviceStarts around request state =
        (server.answerWith response, state) := by
  obtain ⟨noOrder, noStatus⟩ := Bool.or_eq_false_iff.mp idle
  unfold handle
  cases isLead : router.lead request with
  | search =>
      cases made : SearchOrder.ofBody request.body with
      | error reason =>
          refine ⟨.ofBodyError reason, fun _ _ _ _ _ => ?_⟩
          dsimp only
          rw [handleSearch, made]
      | ok order =>
          rw [Request.order?_eq_some_iff.mpr ⟨isLead, made⟩] at noOrder
          cases noOrder
  | status =>
      rw [Request.asksStatus_iff.mpr isLead] at noStatus
      cases noStatus
  | elsewhere response => exact ⟨response, fun _ _ _ _ _ => rfl⟩

/-- A request that needs the engine fails if none can be built, and else finds it installed. -/
theorem handle_of_needsEngine (needs : request.needsEngine router = true) :
    server.handle router machine serviceStarts around request state =
      match server.engine machine serviceStarts with
      | .error error => (server.answerWith (.ofSetupError error), state)
      | .ok engine =>
          (install (some engine)).handle router machine serviceStarts around request state := by
  cases isOrder : request.order? router with
  | some order =>
      simp only [handle_of_order isOrder]
      cases server.engine machine serviceStarts with
      | error error => rfl
      | ok engine => rfl
  | none =>
      have asks := Request.asksStatus_of_needsEngine needs isOrder
      simp only [handle_of_asksStatus asks, handleStatus]
      cases server.engine machine serviceStarts with
      | error error => rfl
      | ok engine => rfl

/-! ## Requests to a server with an engine -/

theorem engine_install (engine : Engine) (machine : Machine) (serviceStarts : Bool) :
    (install (some engine)).engine machine serviceStarts = .ok engine := rfl

/-- A server that has an engine takes nothing from the machine any more. -/
theorem handle_install (engine : Engine) (machine other : Machine)
    (serviceStarts otherStarts : Bool) (around : Surroundings σ) (request : Request) (state : σ) :
    (install (some engine)).handle router machine serviceStarts around request state =
      (install (some engine)).handle router other otherStarts around request state := by
  cases needs : request.needsEngine router with
  | false =>
      obtain ⟨response, answered⟩ := handle_of_not_needsEngine needs
      rw [answered, answered]
  | true =>
      cases isOrder : request.order? router with
      | some order => simp only [handle_of_order isOrder, engine_install]
      | none =>
          have asks := Request.asksStatus_of_needsEngine needs isOrder
          simp only [handle_of_asksStatus asks, handleStatus, engine_install]

/-- A request does to the engine what it asks it to do, and keeps it. -/
theorem handle_install_effects (router : Router) (engine : Engine) (machine : Machine)
    (serviceStarts : Bool) (around : Surroundings σ) (request : Request) (state : σ) :
    ∃ after, (request.action? router).toList.foldl (Engine.perform around) (engine, state) = after ∧
      ((install (some engine)).handle router machine serviceStarts around request state).1.server =
        install (some after.1) ∧
      ((install (some engine)).handle router machine serviceStarts around request state).2 =
        after.2 := by
  refine ⟨_, rfl, ?_⟩
  unfold Request.action?
  cases isOrder : request.order? router with
  | some order =>
      rw [handle_of_order isOrder]
      exact ⟨rfl, rfl⟩
  | none =>
      cases needs : request.needsEngine router with
      | false =>
          obtain ⟨response, answered⟩ := handle_of_not_needsEngine needs
          rw [answered]
          exact ⟨rfl, rfl⟩
      | true =>
          rw [handle_of_asksStatus (Request.asksStatus_of_needsEngine needs isOrder)]
          exact ⟨rfl, rfl⟩

/-! ## Requests that ask nobody -/

theorem code_ofSetupError (error : SetupError) : (Response.ofSetupError error).code = 500 := by
  cases error <;> rfl

theorem code_ofOutcome_ne (outcome : Except SearchError (List SearchResult)) :
    (Response.ofOutcome outcome).code ≠ 422 := by
  unfold Response.ofOutcome
  split
  · split
    · exact nofun
    · exact nofun
  all_goals exact nofun

variable {exchange : Exchange} {after : σ}
  (answered : server.handle router machine serviceStarts around request state = (exchange, after))

include answered

theorem order?_eq_none_of_code (refused : exchange.response.code = 422) :
    request.order? router = none := by
  cases isOrder : request.order? router with
  | none => rfl
  | some order =>
      exfalso
      rw [handle_of_order isOrder] at answered
      split at answered
      · next error _ =>
          obtain ⟨rfl, -⟩ := Prod.mk.inj answered
          rw [answerWith, code_ofSetupError] at refused
          cases refused
      · obtain ⟨rfl, -⟩ := Prod.mk.inj answered
        exact code_ofOutcome_ne _ refused

/--
What the server owns after a request that is no well-formed search: the engine
that it had, or else perhaps one that was just built.
-/
theorem handle_of_no_order (noOrder : request.order? router = none) :
    after = state ∧
      (exchange.server = server ∨
        server.engine? = none ∧
          ∃ engine, Engine.fromEnvironment machine serviceStarts = .ok engine ∧
            exchange.server = install (some engine)) := by
  cases needs : request.needsEngine router with
  | false =>
      obtain ⟨response, isAnswer⟩ := handle_of_not_needsEngine needs
      rw [isAnswer] at answered
      obtain ⟨rfl, rfl⟩ := Prod.mk.inj answered
      exact ⟨rfl, .inl rfl⟩
  | true =>
      rw [handle_of_asksStatus (Request.asksStatus_of_needsEngine needs noOrder)] at answered
      obtain ⟨rfl, rfl⟩ := Prod.mk.inj answered
      refine ⟨rfl, ?_⟩
      rw [handleStatus]
      obtain ⟨engine?⟩ := server
      cases engine? with
      | some engine => exact .inl rfl
      | none =>
          rw [engine]
          dsimp only
          cases Engine.fromEnvironment machine serviceStarts with
          | error reason => exact .inl rfl
          | ok engine => exact .inr ⟨rfl, engine, rfl, rfl⟩

end Server

end SnippetSearch
