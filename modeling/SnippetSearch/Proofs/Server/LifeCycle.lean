import SnippetSearch.Proofs.Engine.Setup
import SnippetSearch.Proofs.Server.Exchanges

/-!
# The life of the engine of a server

A server runs on a host whose files and environment may change at any time.
Requests, changes, shutdowns and the removal of the engine follow each other in
any order.  The engine is at every moment the one that was built at the first
request that could build one since an engine was last removed, with what later
searches and shutdowns have made of its index.
-/

namespace SnippetSearch

variable {σ : Type}

/-! ## Hosts and what happens to a server -/

/--
What a server runs on: the framework that leads requests to it, the machine that
a state stands for, whether the service for embeddings starts in it, and the
surroundings of an engine.
-/
structure Host (σ : Type) where
  router : Router
  machine : σ → Machine
  serviceStarts : σ → Bool
  around : Surroundings σ

/-- What happens to a server: requests, the removal of its engine, shutdowns, and changes. -/
inductive ServerEvent (σ : Type) where
  | request (asked : Request)
  | removal
  | shutdown
  | change (made : σ → σ)

structure ServerSession (σ : Type) where
  server : Server
  state : σ

namespace Host

variable {host : Host σ} {start : σ} {engine : Engine}

def action? (host : Host σ) : ServerEvent σ → Option (EngineAction σ)
  | .request asked => asked.action? host.router
  | .removal => none
  | .shutdown => some .clear
  | .change made => some (.meanwhile made)

def build (host : Host σ) (state : σ) : Except SetupError Engine :=
  Engine.fromEnvironment (host.machine state) (host.serviceStarts state)

def answer (host : Host σ) (session : ServerSession σ) (request : Request) : Exchange × σ :=
  session.server.handle host.router (host.machine session.state) (host.serviceStarts session.state)
    host.around request session.state

def perform (host : Host σ) (session : ServerSession σ) : ServerEvent σ → ServerSession σ
  | .request asked => ⟨(host.answer session asked).1.server, (host.answer session asked).2⟩
  | .removal => ⟨.install none, session.state⟩
  | .shutdown => ⟨session.server.shutDown, session.state⟩
  | .change made => ⟨session.server, made session.state⟩

def after (host : Host σ) (start : σ) (events : List (ServerEvent σ)) : ServerSession σ :=
  events.foldl host.perform ⟨.fresh, start⟩

theorem after_concat (host : Host σ) (start : σ) (events : List (ServerEvent σ))
    (event : ServerEvent σ) :
    host.after start (events ++ [event]) = host.perform (host.after start events) event :=
  List.foldl_concat _ _ _ _

/-! ## Requests that could build an engine -/

/-- Whether no engine could be built at any request that needed one since the last removal. -/
def NoneBuilt (host : Host σ) (start : σ) (events : List (ServerEvent σ)) : Prop :=
  ∀ before request later, events = before ++ .request request :: later → .removal ∉ later →
    request.needsEngine host.router = true →
      ∃ error, host.build (host.after start before).state = .error error

/--
Whether a request, with some events before it and some after it, is the first
one that could build an engine since the last removal, and which engine it built.
-/
structure Founds (host : Host σ) (start : σ) (before : List (ServerEvent σ)) (request : Request)
    (later : List (ServerEvent σ)) (founder : Engine) : Prop where
  noneBefore : host.NoneBuilt start before
  needs : request.needsEngine host.router = true
  builds : host.build (host.after start before).state = .ok founder
  kept : .removal ∉ later

theorem noneBuilt_nil (host : Host σ) (start : σ) : host.NoneBuilt start [] := by
  intro before request later same
  cases List.nil_eq_append_iff.mp same with
  | intro _ isNil => cases isNil

/-- A removal forgets all requests; another event matters only if it is a request. -/
theorem noneBuilt_concat_iff {events : List (ServerEvent σ)} {event : ServerEvent σ} :
    host.NoneBuilt start (events ++ [event]) ↔
      event = .removal ∨ host.NoneBuilt start events ∧
        ∀ request, event = .request request → request.needsEngine host.router = true →
          ∃ error, host.build (host.after start events).state = .error error := by
  constructor
  · intro noneBuilt
    by_cases removed : event = .removal
    · exact .inl removed
    refine .inr ⟨?earlier, ?last⟩
    case earlier =>
      rintro before request later rfl kept needs
      refine noneBuilt before request (later ++ [event]) (by simp) ?_ needs
      rw [List.mem_append, List.mem_singleton, not_or]
      exact ⟨kept, fun isRemoval => removed isRemoval.symm⟩
    case last =>
      rintro request rfl needs
      exact noneBuilt events request [] rfl List.not_mem_nil needs
  · rintro settled before request later same kept needs
    rcases List.eq_nil_or_concat later with rfl | ⟨others, last, rfl⟩
    · obtain ⟨rfl, isLast⟩ := List.append_inj' same rfl
      obtain rfl := List.head_eq_of_cons_eq isLast
      rcases settled with isRemoval | ⟨-, fails⟩
      · cases isRemoval
      · exact fails request rfl needs
    · rw [List.concat_eq_append] at same kept
      have same : events ++ [event] = (before ++ .request request :: others) ++ [last] := by
        rw [same, List.append_assoc, List.cons_append]
      obtain ⟨rfl, isLast⟩ := List.append_inj' same rfl
      obtain rfl := List.head_eq_of_cons_eq isLast
      rw [List.mem_append, List.mem_singleton, not_or] at kept
      rcases settled with isRemoval | ⟨noneBuilt, -⟩
      · exact absurd isRemoval.symm kept.2
      · exact noneBuilt before request others rfl kept.1 needs

/-! ## Events while the server has an engine -/

def owning (engineAndState : Engine × σ) : ServerSession σ :=
  ⟨.install (some engineAndState.1), engineAndState.2⟩

/-- Unless it removes the engine, an event makes it do its action. -/
theorem perform_owning (host : Host σ) (engineAndState : Engine × σ) {event : ServerEvent σ}
    (kept : event ≠ .removal) :
    host.perform (owning engineAndState) event =
      owning ((host.action? event).toList.foldl (Engine.perform host.around) engineAndState) := by
  obtain ⟨engine, state⟩ := engineAndState
  cases event with
  | request asked =>
      obtain ⟨after, isAfter, isServer, isState⟩ := Server.handle_install_effects host.router engine
        (host.machine state) (host.serviceStarts state) host.around asked state
      rw [action?, isAfter, perform, answer, owning, owning]
      dsimp only
      rw [isServer, isState]
  | removal => exact absurd rfl kept
  | shutdown => rfl
  | change made => rfl

/-- As long as the engine is not removed, it does one action after the other. -/
theorem foldl_perform_owning (host : Host σ) (engineAndState : Engine × σ)
    {events : List (ServerEvent σ)} (kept : .removal ∉ events) :
    events.foldl host.perform (owning engineAndState) =
      owning ((events.filterMap host.action?).foldl (Engine.perform host.around)
        engineAndState) := by
  induction events generalizing engineAndState with
  | nil => rfl
  | cons event rest ih =>
      obtain ⟨keptFirst, keptRest⟩ := not_or.mp (mt List.mem_cons.mpr kept)
      rw [List.foldl_cons, perform_owning host engineAndState (Ne.symm keptFirst), ih _ keptRest,
        List.filterMap_cons]
      cases host.action? event with
      | none => rfl
      | some action => rfl

/-- What an engine does changes nothing but its index. -/
theorem foldl_perform_keeps (around : Surroundings σ) (actions : List (EngineAction σ))
    (engineAndState : Engine × σ) :
    (actions.foldl (Engine.perform around) engineAndState).1.indexer = engineAndState.1.indexer ∧
      (actions.foldl (Engine.perform around) engineAndState).1.catalog =
        engineAndState.1.catalog := by
  induction actions generalizing engineAndState with
  | nil => exact ⟨rfl, rfl⟩
  | cons action rest ih =>
      rw [List.foldl_cons]
      obtain ⟨sameIndexer, sameCatalog⟩ := ih (Engine.perform around engineAndState action)
      obtain ⟨engine, state⟩ := engineAndState
      rw [sameIndexer, sameCatalog]
      cases action <;> exact ⟨rfl, rfl⟩

theorem action?_congr {other : Host σ} (sameRouter : other.router = host.router) :
    other.action? = host.action? := by
  funext event
  cases event with
  | request asked => rw [action?, action?, sameRouter]
  | removal => rfl
  | shutdown => rfl
  | change made => rfl

/-! ## Requests to a server without engine -/

section

variable {session : ServerSession σ} {request : Request}

theorem perform_of_not_needsEngine (host : Host σ) (session : ServerSession σ)
    (idle : request.needsEngine host.router = false) :
    host.perform session (.request request) = session := by
  obtain ⟨response, answered⟩ := Server.handle_of_not_needsEngine idle
  rw [perform, answer, answered]
  rfl

variable (missing : session.server.engine? = none) (needs : request.needsEngine host.router = true)

include missing needs

theorem answer_of_build_error {error : SetupError}
    (fails : host.build session.state = .error error) :
    host.answer session request =
      (session.server.answerWith (.ofSetupError error), session.state) := by
  have noEngine : session.server.engine (host.machine session.state)
      (host.serviceStarts session.state) = .error error := by
    rw [Server.engine, missing]
    exact fails
  rw [answer, Server.handle_of_needsEngine needs, noEngine]

/-- A request that cannot get the engine that it needs changes nothing. -/
theorem perform_of_build_error {error : SetupError}
    (fails : host.build session.state = .error error) :
    host.perform session (.request request) = session := by
  rw [perform, answer_of_build_error missing needs fails]
  rfl

theorem answer_of_build_ok (builds : host.build session.state = .ok engine) :
    host.answer session request = host.answer (owning (engine, session.state)) request := by
  have hasEngine : session.server.engine (host.machine session.state)
      (host.serviceStarts session.state) = .ok engine := by
    rw [Server.engine, missing]
    exact builds
  rw [answer, Server.handle_of_needsEngine needs, hasEngine]
  rfl

theorem perform_of_build_ok (builds : host.build session.state = .ok engine) :
    host.perform session (.request request) =
      owning ((host.action? (.request request)).toList.foldl (Engine.perform host.around)
        (engine, session.state)) := by
  have kept : ServerEvent.request request ≠ (.removal : ServerEvent σ) := nofun
  rw [perform, answer_of_build_ok missing needs builds, ← perform,
    perform_owning host (engine, session.state) kept]

end

/--
Unless an engine is removed, a server without one stays so, and no request could
build one; or the event is a request that builds one and makes it do its action.
-/
theorem perform_of_missing {session : ServerSession σ} (missing : session.server.engine? = none)
    {event : ServerEvent σ} (kept : event ≠ .removal) :
    ((host.perform session event).server.engine? = none ∧
      ∀ request, event = .request request → request.needsEngine host.router = true →
        ∃ error, host.build session.state = .error error) ∨
    ∃ request engine, event = .request request ∧ request.needsEngine host.router = true ∧
      host.build session.state = .ok engine ∧
      host.perform session event =
        owning ((host.action? event).toList.foldl (Engine.perform host.around)
          (engine, session.state)) := by
  cases event with
  | removal => exact absurd rfl kept
  | shutdown => exact .inl ⟨congrArg (Option.map Engine.cleared) missing, nofun⟩
  | change made => exact .inl ⟨missing, nofun⟩
  | request asked =>
      cases needs : asked.needsEngine host.router with
      | false =>
          refine .inl ⟨?_, ?_⟩
          · rw [perform_of_not_needsEngine host session needs]
            exact missing
          · rintro _ ⟨⟩ needed
            exact absurd needed (Bool.eq_false_iff.mp needs)
      | true =>
          cases builds : host.build session.state with
          | error error =>
              refine .inl ⟨?_, fun _ _ _ => ⟨error, rfl⟩⟩
              rw [perform_of_build_error missing needs builds]
              exact missing
          | ok engine =>
              exact .inr ⟨asked, engine, rfl, needs, rfl, perform_of_build_ok missing needs builds⟩

/-! ## Where the engine comes from -/

/--
Whether an engine was built at one of the events, and what happened from there
on has made of it what it is, and of the state what it is.
-/
def IsFounded (host : Host σ) (start : σ) (events : List (ServerEvent σ))
    (engineAndState : Engine × σ) : Prop :=
  ∃ before request later founder, events = before ++ .request request :: later ∧
    host.Founds start before request later founder ∧
    ((.request request :: later).filterMap host.action?).foldl (Engine.perform host.around)
      (founder, (host.after start before).state) = engineAndState

theorem foldl_filterMap_concat (host : Host σ) (events : List (ServerEvent σ))
    (event : ServerEvent σ) (engineAndState : Engine × σ) :
    ((events ++ [event]).filterMap host.action?).foldl
        (Engine.perform host.around) engineAndState =
      (host.action? event).toList.foldl (Engine.perform host.around)
        ((events.filterMap host.action?).foldl (Engine.perform host.around)
          engineAndState) := by
  rw [List.filterMap_append, List.foldl_append, List.filterMap_cons]
  cases host.action? event with
  | none => rfl
  | some action => rfl

/-- An engine that was built stays the one that it is, as long as it is not removed. -/
theorem IsFounded.concat {events : List (ServerEvent σ)} {engineAndState : Engine × σ}
    (founded : host.IsFounded start events engineAndState) {event : ServerEvent σ}
    (kept : event ≠ .removal) :
    host.IsFounded start (events ++ [event])
      ((host.action? event).toList.foldl (Engine.perform host.around) engineAndState) := by
  obtain ⟨before, request, later, founder, rfl, founds, rfl⟩ := founded
  refine ⟨before, request, later ++ [event], founder, List.append_assoc _ _ _,
    ⟨founds.noneBefore, founds.needs, founds.builds, ?_⟩, ?_⟩
  · rw [List.mem_append, List.mem_singleton, not_or]
    exact ⟨founds.kept, Ne.symm kept⟩
  · rw [← List.cons_append, foldl_filterMap_concat]

theorem isFounded_of_builds {events : List (ServerEvent σ)} {request : Request}
    (noneBuilt : host.NoneBuilt start events) (needs : request.needsEngine host.router = true)
    (builds : host.build (host.after start events).state = .ok engine) :
    host.IsFounded start (events ++ [.request request])
      ((host.action? (.request request)).toList.foldl (Engine.perform host.around)
        (engine, (host.after start events).state)) :=
  ⟨events, request, [], engine, rfl, ⟨noneBuilt, needs, builds, List.not_mem_nil⟩,
    foldl_filterMap_concat host [] (.request request) _⟩

/-- The server has no engine, and none could be built; or it has the one that was built. -/
theorem none_or_founded (host : Host σ) (start : σ) (events : List (ServerEvent σ)) :
    ((host.after start events).server.engine? = none ∧ host.NoneBuilt start events) ∨
      ∃ engineAndState, host.after start events = owning engineAndState ∧
        host.IsFounded start events engineAndState := by
  induction events using List.reverseRecOn with
  | nil => exact .inl ⟨rfl, noneBuilt_nil host start⟩
  | append_singleton events event ih =>
      rw [after_concat]
      by_cases removed : event = .removal
      · rw [removed]
        exact .inl ⟨rfl, noneBuilt_concat_iff.mpr (.inl rfl)⟩
      rcases ih with ⟨missing, noneBuilt⟩ | ⟨engineAndState, isAfter, founded⟩
      · rcases perform_of_missing missing removed with
          ⟨stillMissing, fails⟩ | ⟨request, engine, rfl, needs, builds, performed⟩
        · exact .inl ⟨stillMissing, noneBuilt_concat_iff.mpr (.inr ⟨noneBuilt, fails⟩)⟩
        · exact .inr ⟨_, performed, isFounded_of_builds noneBuilt needs builds⟩
      · rw [isAfter, perform_owning host engineAndState removed]
        exact .inr ⟨_, rfl, founded.concat removed⟩

/-- The server has no engine exactly if none could be built since the last removal. -/
theorem engine?_eq_none_iff (host : Host σ) (start : σ) (events : List (ServerEvent σ)) :
    (host.after start events).server.engine? = none ↔ host.NoneBuilt start events := by
  rcases none_or_founded host start events with
    ⟨missing, noneBuilt⟩ | ⟨engineAndState, isAfter, founded⟩
  · exact iff_of_true missing noneBuilt
  · rw [isAfter]
    refine iff_of_false nofun fun noneBuilt => ?_
    obtain ⟨before, request, later, founder, rfl, founds, -⟩ := founded
    obtain ⟨error, fails⟩ := noneBuilt before request later rfl founds.kept founds.needs
    rw [founds.builds] at fails
    cases fails

theorem eq_owning {session : ServerSession σ} (present : session.server.engine? = some engine) :
    session = owning (engine, session.state) := by
  obtain ⟨⟨engine?⟩, state⟩ := session
  obtain rfl : engine? = some engine := present
  rfl

/-- The engine that the server has was built at one of the events, and only searched since. -/
theorem isFounded_of_engine? {events : List (ServerEvent σ)}
    (present : (host.after start events).server.engine? = some engine) :
    host.IsFounded start events (engine, (host.after start events).state) := by
  rcases none_or_founded host start events with
    ⟨missing, -⟩ | ⟨⟨founded, state⟩, isAfter, isFounded⟩
  · rw [missing] at present
    cases present
  · rw [isAfter] at present ⊢
    obtain rfl : founded = engine := Option.some.inj present
    exact isFounded

theorem answer_owning_congr {other : Host σ} (sameRouter : other.router = host.router)
    (sameAround : other.around = host.around)
    (engineAndState : Engine × σ) (request : Request) :
    other.answer (owning engineAndState) request = host.answer (owning engineAndState) request := by
  rw [answer, answer, owning, sameRouter, sameAround]
  dsimp only
  rw [Server.handle_install engineAndState.1 (other.machine engineAndState.2)
    (host.machine engineAndState.2) (other.serviceStarts engineAndState.2)
    (host.serviceStarts engineAndState.2)]

/-- As long as a server keeps its engine, it makes no difference what else the host is like. -/
theorem foldl_perform_congr {other : Host σ} (sameRouter : other.router = host.router)
    (sameAround : other.around = host.around)
    (engineAndState : Engine × σ) {events : List (ServerEvent σ)} (kept : .removal ∉ events) :
    events.foldl other.perform (owning engineAndState) =
      events.foldl host.perform (owning engineAndState) := by
  rw [foldl_perform_owning other _ kept, foldl_perform_owning host _ kept,
    action?_congr sameRouter, sameAround]

/-- An engine that is present is the one that was built, but for its index. -/
theorem exists_founder {events : List (ServerEvent σ)}
    (present : (host.after start events).server.engine? = some engine) :
    ∃ before request later founder, events = before ++ .request request :: later ∧
      host.Founds start before request later founder ∧
      engine.indexer = founder.indexer ∧ engine.catalog = founder.catalog ∧
      ((.request request :: later).filterMap host.action?).foldl
        (Engine.perform host.around) (founder, (host.after start before).state) =
          (engine, (host.after start events).state) := by
  obtain ⟨before, request, later, founder, isEvents, founds, performed⟩ :=
    isFounded_of_engine? present
  have keeps := foldl_perform_keeps host.around
    ((.request request :: later).filterMap host.action?)
    (founder, (host.after start before).state)
  rw [performed] at keeps
  exact ⟨before, request, later, founder, isEvents, founds, keeps.1, keeps.2, performed⟩

section

variable {session : ServerSession σ} {request : Request}

/-- A request that fails for want of an engine is told why, and changes nothing. -/
theorem request_of_build_error (missing : session.server.engine? = none)
    (needs : request.needsEngine host.router = true) {error : SetupError}
    (fails : host.build session.state = .error error) :
    host.perform session (.request request) = session ∧
      (host.answer session request).1.response.code = 500 ∧
      ∀ reason, error = .configuration reason →
        (host.answer session request).1.response = ⟨500, .error reason.message⟩ := by
  rw [answer_of_build_error missing needs fails]
  refine ⟨perform_of_build_error missing needs fails, Server.code_ofSetupError error, ?_⟩
  rintro reason rfl
  rfl

/-- A request that builds an engine is answered as if it had been there, and leaves it there. -/
theorem request_of_build_ok (missing : session.server.engine? = none)
    (needs : request.needsEngine host.router = true)
    (builds : host.build session.state = .ok engine) :
    host.answer session request = host.answer ⟨.install (some engine), session.state⟩ request ∧
      (host.perform session (.request request)).server.engine? ≠ none := by
  refine ⟨answer_of_build_ok missing needs builds, ?_⟩
  rw [perform_of_build_ok missing needs builds]
  exact Option.some_ne_none _

end

end Host

/-- What is refused or asked elsewhere asks nobody, and leaves what is indexed as it is. -/
theorem Server.handle_quiet {server : Server} {router : Router} {machine : Machine}
    {serviceStarts : Bool} {around : Surroundings σ} {request : Request} {state after : σ}
    {exchange : Exchange}
    (answered : server.handle router machine serviceStarts around request state = (exchange, after))
    (quiet : exchange.response.code = 422 ∨ router.lead request ≠ .search) :
    after = state ∧ (exchange.server = server ∨ server.engine? = none ∧
      ∃ engine, exchange.server = .install (some engine) ∧ engine.index = .empty) := by
  have noOrder : request.order? router = none := by
    rcases quiet with refused | elsewhere
    · exact order?_eq_none_of_code answered refused
    · exact Request.order?_eq_none elsewhere
  obtain ⟨sameState, sameServer | ⟨missing, engine, built, isServer⟩⟩ :=
    handle_of_no_order answered noOrder
  · exact ⟨sameState, .inl sameServer⟩
  · exact ⟨sameState, .inr ⟨missing, engine, isServer, Engine.index_of_fromEnvironment built⟩⟩

/-! ## The life cycle -/

/--
The engine of a server is missing as long as none could be built, and otherwise
is the one that was built first since the last removal, whatever else changes.
A request that finds no engine and cannot build one is told so and changes
nothing, so that a later one still can.  Only well-formed searches ask anything
or change what is indexed, and a shutdown empties the index alone.
-/
theorem Host.engine_life_cycle (host : Host σ) (start : σ) (events : List (ServerEvent σ)) :
    let session := host.after start events
    (session.server.engine? = none ↔ host.NoneBuilt start events) ∧
      (∀ engine, session.server.engine? = some engine →
        (∃ before request later founder, events = before ++ .request request :: later ∧
          host.Founds start before request later founder ∧
          engine.indexer = founder.indexer ∧ engine.catalog = founder.catalog ∧
          ((.request request :: later).filterMap host.action?).foldl
            (Engine.perform host.around) (founder, (host.after start before).state) =
              (engine, session.state)) ∧
        ∀ other : Host σ, other.router = host.router → other.around = host.around →
          (∀ request, other.answer session request = host.answer session request) ∧
          ∀ later : List (ServerEvent σ), .removal ∉ later →
            later.foldl other.perform session = later.foldl host.perform session) ∧
      (∀ request, session.server.engine? = none → request.needsEngine host.router = true →
        (∀ error, host.build session.state = .error error →
          host.perform session (.request request) = session ∧
          (host.answer session request).1.response.code = 500 ∧
          ∀ reason, error = .configuration reason →
            (host.answer session request).1.response = ⟨500, .error reason.message⟩) ∧
        ∀ engine, host.build session.state = .ok engine →
          host.answer session request =
            host.answer ⟨.install (some engine), session.state⟩ request ∧
          (host.perform session (.request request)).server.engine? ≠ none) ∧
      (∀ request journal exchange after,
        session.server.handle host.router (host.machine session.state)
          (host.serviceStarts session.state) host.around.recorded request
          (session.state, journal) = (exchange, after) →
        exchange.response.code = 422 ∨ host.router.lead request ≠ .search →
          after = (session.state, journal) ∧
          (exchange.server = session.server ∨ session.server.engine? = none ∧
            ∃ engine, exchange.server = .install (some engine) ∧ engine.index = .empty)) ∧
      host.perform session .shutdown =
        ⟨.install (session.server.engine?.map fun engine => { engine with index := .empty }),
          session.state⟩ := by
  intro session
  refine ⟨Host.engine?_eq_none_iff host start events, ?present, ?missing, ?quiet, rfl⟩
  case present =>
    intro engine present
    refine ⟨Host.exists_founder present, fun other sameRouter sameAround => ?_⟩
    rw [Host.eq_owning present]
    constructor
    · intro request
      exact Host.answer_owning_congr sameRouter sameAround _ request
    · intro later kept
      exact Host.foldl_perform_congr sameRouter sameAround _ kept
  case missing =>
    intro request missing needs
    constructor
    · intro error fails
      exact Host.request_of_build_error missing needs fails
    · intro engine builds
      exact Host.request_of_build_ok missing needs builds
  case quiet =>
    intro request journal exchange after answered quiet
    exact Server.handle_quiet answered quiet

def Host.adjustable : Host Text where
  router := .literal
  machine := .ofVariable Variable.chunkSize
  serviceStarts _ := true
  around :=
    { read := fun _ state => (none, state)
      reply := fun _ state => (.withoutValues, state)
      list := fun _ state => ([], state) }

def Request.forStatus : Request := ⟨"GET".toList, "/api/status".toList, []⟩

/-- A server that cannot build an engine builds one once the environment has been corrected. -/
theorem Host.engine_life_cycle_corrected :
    let status : ServerEvent Text := .request .forStatus
    let corrected : ServerEvent Text := .change fun _ => "100".toList
    let reached := adjustable.after "no number".toList
    reached [status] = reached [] ∧
      (adjustable.answer (reached []) .forStatus).1.response.code = 500 ∧
      (reached [status, corrected]).server.engine? = none ∧
      (reached [status, corrected, status]).server.engine? ≠ none := by
  intro status corrected reached
  obtain ⟨error, fails⟩ : ∃ error, adjustable.build (reached []).state = .error error :=
    ⟨_, rfl⟩
  obtain ⟨engine, builds⟩ :
      ∃ engine, adjustable.build (reached [status, corrected]).state = .ok engine := ⟨_, rfl⟩
  obtain ⟨-, -, missing, -⟩ := engine_life_cycle adjustable "no number".toList []
  obtain ⟨unchanged, told, -⟩ := (missing .forStatus rfl (by decide)).1 error fails
  have stillMissing : (reached [status, corrected]).server.engine? = none :=
    congrArg (fun session => session.server.engine?) unchanged
  obtain ⟨-, -, missing, -⟩ :=
    engine_life_cycle adjustable "no number".toList [status, corrected]
  obtain ⟨-, present⟩ := (missing .forStatus stillMissing (by decide)).2 engine builds
  exact ⟨unchanged, told, stillMissing, present⟩

end SnippetSearch
