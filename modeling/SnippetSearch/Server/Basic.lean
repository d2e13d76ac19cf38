import SnippetSearch.Engine.Search
import SnippetSearch.Server.Request

/-!
# The server

The server owns at most one engine.  The first request that needs one builds
it from the environment; if that fails the server stays without, and the next
request tries again.  Bodies are judged before the engine is built.
-/

namespace SnippetSearch

structure StatusReport where
  searchEnabled : Bool
  baseFolder? : Option Text
  indexedFiles : Nat
  snippetCount : Nat
deriving Repr, DecidableEq

inductive Content where
  | results (results : List SearchResult)
  | status (report : StatusReport)
  | error (message : Text)
  | detail (text : Text)
  | invalidRequest
  | plain (text : Text)

structure Response where
  code : Nat
  content : Content

namespace Content

/-- The JSON that a response carries, if it is JSON whose whole text matters. -/
def json? : Content → Option Json
  | .results found => some (SearchResult.jsonArray found)
  | .status report =>
      some (.record
        [("semanticSearchEnabled".toList, .bool report.searchEnabled),
         ("baseDirectory".toList, (report.baseFolder?.map Json.ofText).getD .null),
         ("indexedFiles".toList, .ofNat report.indexedFiles),
         ("snippetCount".toList, .ofNat report.snippetCount)])
  | .error message => some (.record [("error".toList, .ofText message)])
  | .detail text => some (.record [("detail".toList, .ofText text)])
  | .invalidRequest | .plain _ => none

end Content

namespace Response

def internalError : Response :=
  ⟨500, .plain "Internal Server Error".toList⟩

def ofBodyError : BodyError → Response
  | .invalid => ⟨422, .invalidRequest⟩
  | .unreadable => ⟨400, .detail "There was an error parsing the body".toList⟩
  | .unquotable => internalError

def ofSetupError : SetupError → Response
  | .configuration error => ⟨500, .error error.message⟩
  | .numeralTooLong | .resolution _ | .noSuchFolder _ => internalError

/-- The response to a search; results with a score that is no number cannot be sent. -/
def ofOutcome : Except SearchError (List SearchResult) → Response
  | .ok results =>
      if results.all fun result => Decimal.isFinite result.score then
        ⟨200, .results results⟩
      else
        internalError
  | .error (.query error) => ⟨502, .error (SearchError.query error).message⟩
  | .error .negativeLimit | .error .nullByte | .error (.dimensions _) => internalError

def notFound : Response :=
  ⟨404, .detail "Not Found".toList⟩

def methodNotAllowed : Response :=
  ⟨405, .detail "Method Not Allowed".toList⟩

end Response

/-! ## Routes -/

/-- Where a request leads: to a route of the server, or to a response of the framework. -/
inductive Destination where
  | search
  | status
  | elsewhere (response : Response)

/--
The framework as far as it decides where a request leads.  How it reads methods
and targets is its own affair, but each route is found at its address.
-/
structure Router where
  destination : Text → Text → Destination
  finds_search : destination "POST".toList "/api/search".toList = .search
  finds_status : destination "GET".toList "/api/status".toList = .status

namespace Router

def lead (router : Router) (request : Request) : Destination :=
  router.destination request.method request.target

def literal : Router where
  destination method target :=
    if target = "/api/search".toList then
      if method = "POST".toList then .search else .elsewhere .methodNotAllowed
    else if target = "/api/status".toList then
      if method = "GET".toList then .status else .elsewhere .methodNotAllowed
    else
      .elsewhere .notFound
  finds_search := rfl
  finds_status := rfl

end Router

/-- The server with the engine that it owns, if any. -/
structure Server where
  engine? : Option Engine

/-- An answered request: the response, the server after it, and the search that it ran, if any. -/
structure Exchange where
  response : Response
  server : Server
  search? : Option SearchRun

namespace Server

variable {σ : Type}

def fresh : Server := ⟨none⟩

/-- The server that owns the given engine, or none. -/
def install (engine? : Option Engine) : Server := ⟨engine?⟩

/-- The server after it has been shut down, which empties the index. -/
def shutDown (server : Server) : Server :=
  ⟨server.engine?.map Engine.cleared⟩

def engine (server : Server) (machine : Machine) (serviceStarts : Bool) :
    Except SetupError Engine :=
  match server.engine? with
  | some engine => .ok engine
  | none => Engine.fromEnvironment machine serviceStarts

def report (engine : Engine) : StatusReport :=
  { searchEnabled := engine.isAvailable
    baseFolder? := engine.catalog.basePath?
    indexedFiles := engine.index.indexedPaths.length
    snippetCount := engine.index.size }

def answerWith (server : Server) (response : Response) : Exchange :=
  { response, server, search? := none }

def handleSearch (server : Server) (machine : Machine) (serviceStarts : Bool)
    (around : Surroundings σ) (body : List UInt8) (state : σ) : Exchange × σ :=
  match SearchOrder.ofBody body with
  | .error error => (server.answerWith (.ofBodyError error), state)
  | .ok order =>
      match server.engine machine serviceStarts with
      | .error error => (server.answerWith (.ofSetupError error), state)
      | .ok engine =>
          let (run, after) := engine.search around order.query order.limit state
          ({ response := .ofOutcome run.outcome
             server := ⟨some (engine.withIndex run.index)⟩
             search? := some run }, after)

def handleStatus (server : Server) (machine : Machine) (serviceStarts : Bool) : Exchange :=
  match server.engine machine serviceStarts with
  | .error error => server.answerWith (.ofSetupError error)
  | .ok engine =>
      { response := ⟨200, .status (report engine)⟩, server := ⟨some engine⟩, search? := none }

def handle (server : Server) (router : Router) (machine : Machine) (serviceStarts : Bool)
    (around : Surroundings σ) (request : Request) (state : σ) : Exchange × σ :=
  match router.lead request with
  | .search => server.handleSearch machine serviceStarts around request.body state
  | .status => (server.handleStatus machine serviceStarts, state)
  | .elsewhere response => (server.answerWith response, state)

end Server

end SnippetSearch
