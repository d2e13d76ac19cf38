import SnippetSearch.Command.Console
import SnippetSearch.Proofs.Command.Arguments
import SnippetSearch.Proofs.Engine.Setup
import SnippetSearch.Proofs.Index.Encodings
import SnippetSearch.Proofs.Json.Results
import SnippetSearch.Proofs.Server.Orders

/-!
# The two front ends

A search can be asked for on the command line, or ordered from a server that
has just been started.  Both come to the same run of an engine for which
everything is taken from the environment.  So they ask the same of the service,
and hand over the same results or the message of the same failure.  What is seen
of these on the command line is left to the console: a note may stand in front
of them, and a message is taken for markup.
-/

namespace SnippetSearch

/-! ## Requests and failures -/

def Exchange.requests (exchange : Exchange) : List EmbeddingRequest :=
  match exchange.search? with
  | some run => run.requests
  | none => []

def CommandOutcome.ofRun (run : SearchRun) : CommandOutcome :=
  match run.outcome with
  | .error error => .ofFailure (.search error) (some Command.searchNote) run.requests
  | .ok results =>
      { note? := some Command.searchNote
        output := (SearchResult.jsonArray results).pretty ++ ['\n']
        requests := run.requests }

def Console.errorText (message : Text) : Text :=
  "Error: ".toList ++ message ++ ['\n']

/-- What is written before a response of the given code is told of: the note, once searching. -/
def Console.noteBefore (console : Console) (code : Nat) : Text :=
  if code = 502 then console.working Command.searchNote else []

/-- Whether an exchange sends an error exactly if a command tells of it. -/
structure FailAlike (console : Console) (exchange : Exchange) (outcome : CommandOutcome) :
    Prop where
  /-- An error is sent if and only if its message is handed to the console. -/
  failure : ∀ message,
    (∃ code, (code = 500 ∨ code = 502) ∧ exchange.response = ⟨code, .error message⟩) ↔
      outcome.exitCode = 1 ∧ outcome.failure? = none ∧
        outcome.displays = [CommandOutcome.errorLine message]
  /--
  The program then exits with 1, and writes what the console makes of the message.
  So it tells of the error exactly if the console shows the message as it is.
  -/
  shown : ∀ code message, exchange.response = ⟨code, .error message⟩ →
    console.transcript outcome = ⟨1, console.noteBefore code ++
      (console.show? (CommandOutcome.errorLine message)).getD []⟩ ∧
    ((console.transcript outcome).output = console.noteBefore code ++ Console.errorText message ↔
      console.show? (CommandOutcome.errorLine message) = some (Console.errorText message))

/-- Whether an exchange and a command come to the same results or the same failure. -/
structure Agree (console : Console) (exchange : Exchange) (outcome : CommandOutcome) : Prop
    extends FailAlike console exchange outcome where
  /--
  Results that are sent are written behind the note, and nothing else is.  The
  results can be told from the JSON that is sent, and what is written is read as
  the same JSON by every reader that lets two arrays and objects be open and
  numbers have as many digits as those of the lines.  With the note it is read
  so if the note is blank, and not at all if the note starts with an escape.
  -/
  results : exchange.response.code = 200 →
    ∃ results answer text, exchange.response.content = .results results ∧
      exchange.response.content.json? = some answer ∧
      SearchResult.listOfJson? answer = some results ∧
      outcome.failure? = none ∧
      console.transcript outcome = ⟨0, console.working Command.searchNote ++ text⟩ ∧
      ∀ levels maxDigits, 2 ≤ levels → (∀ result ∈ results, result.fits maxDigits = true) →
        Json.readBounded levels maxDigits (.ofText text) = .ok answer ∧
        (Json.IsBlank (console.working Command.searchNote) →
          Json.readBounded levels maxDigits (.ofText (console.transcript outcome).output) =
            .ok answer) ∧
        ((console.working Command.searchNote).head? = some '\x1b' →
          Json.readBounded levels maxDigits (.ofText (console.transcript outcome).output) =
            .error .malformed)
  /-- The service is asked the same in the same order. -/
  requests : exchange.requests = outcome.requests

namespace Console

variable (console : Console) {outcome : CommandOutcome}

/-- Where nothing is displayed, the output stands behind the note. -/
theorem transcript_of_silent (silent : outcome.displays = []) :
    console.transcript outcome =
      ⟨outcome.exitCode, console.note outcome ++ outcome.output⟩ := by
  rw [transcript, silent, showAll]
  dsimp only
  rw [List.append_nil]

theorem transcript_ofFailure {failure : Failure} (explained : failure.isExplained = true)
    (note? : Option Text) (asked : List EmbeddingRequest) :
    console.transcript (.ofFailure failure note? asked) =
      ⟨1, (note?.map console.working).getD [] ++
        (console.show? (CommandOutcome.errorLine failure.message)).getD []⟩ := by
  rw [CommandOutcome.ofFailure, if_pos explained, transcript, showAll]
  dsimp only
  cases console.show? (CommandOutcome.errorLine failure.message) with
  | none => rfl
  | some shown =>
      rw [showAll]
      simp only [List.append_nil, Option.getD_some]
      rfl

/-- A message is seen as it is exactly if the console shows it as it is. -/
theorem getD_show?_eq_errorText_iff (before message : Text) :
    before ++ (console.show? (CommandOutcome.errorLine message)).getD [] =
        before ++ errorText message ↔
      console.show? (CommandOutcome.errorLine message) = some (errorText message) := by
  rw [List.append_cancel_left_eq]
  cases console.show? (CommandOutcome.errorLine message) with
  | none => exact iff_of_false (List.cons_ne_nil _ _).symm nofun
  | some shown => rw [Option.getD_some, Option.some.injEq]

end Console

/-! ## Ways to agree -/

section

variable {console : Console} {exchange : Exchange} {outcome : CommandOutcome}

namespace FailAlike

/-- Where no error is sent and no line is shown, there is nothing to tell. -/
theorem of_silent (noError : ∀ message, exchange.response.content ≠ .error message)
    (silent : outcome.displays = []) : FailAlike console exchange outcome := by
  constructor
  case failure =>
    intro message
    constructor
    · rintro ⟨code, _, isError⟩
      exact absurd (congrArg Response.content isError) (noError message)
    · rintro ⟨_, _, shown⟩
      rw [silent] at shown
      cases shown
  case shown =>
    intro code message isError
    exact absurd (congrArg Response.content isError) (noError message)

/-- A failure that users are told about is sent with its message and handed over with it. -/
theorem of_explained {failure : Failure} {note? : Option Text} {asked : List EmbeddingRequest}
    {code : Nat} (explained : failure.isExplained = true) (isCode : code = 500 ∨ code = 502)
    (isNote : (note?.map console.working).getD [] = console.noteBefore code)
    (response : exchange.response = ⟨code, .error failure.message⟩) :
    FailAlike console exchange (.ofFailure failure note? asked) := by
  have isShown := console.transcript_ofFailure explained note? asked
  rw [CommandOutcome.ofFailure, if_pos explained] at isShown ⊢
  constructor
  case failure =>
    intro message
    constructor
    · rintro ⟨_, _, isError⟩
      rw [response] at isError
      obtain rfl := Content.error.inj (congrArg Response.content isError)
      exact ⟨rfl, rfl, rfl⟩
    · rintro ⟨_, _, shown⟩
      have same := Display.line.inj (List.singleton_inj.mp shown)
      obtain rfl := List.append_cancel_left same
      exact ⟨code, isCode, response⟩
  case shown =>
    intro other message isError
    rw [response] at isError
    obtain rfl := congrArg Response.code isError
    obtain rfl := Content.error.inj (congrArg Response.content isError)
    rw [isShown, isNote]
    exact ⟨rfl, console.getD_show?_eq_errorText_iff _ _⟩

end FailAlike

namespace Agree

/-- Where nothing is sent but a refusal, both agree if they fail alike and ask the same. -/
theorem of_refused (alike : FailAlike console exchange outcome)
    (refused : exchange.response.code ≠ 200)
    (requests : exchange.requests = outcome.requests) : Agree console exchange outcome where
  toFailAlike := alike
  results answered := absurd answered refused
  requests := requests

theorem of_explained {failure : Failure} {note? : Option Text} {asked : List EmbeddingRequest}
    {code : Nat} (explained : failure.isExplained = true) (isCode : code = 500 ∨ code = 502)
    (isNote : (note?.map console.working).getD [] = console.noteBefore code)
    (response : exchange.response = ⟨code, .error failure.message⟩)
    (requests : exchange.requests = asked) :
    Agree console exchange (.ofFailure failure note? asked) := by
  refine of_refused (.of_explained explained isCode isNote response) ?_ ?_
  · rw [response]
    rcases isCode with rfl | rfl <;> exact nofun
  · rw [CommandOutcome.ofFailure, if_pos explained]
    exact requests

/-- An error of the server that is not told of goes with a command that shows nothing. -/
theorem of_internalError (response : exchange.response = .internalError)
    (silent : outcome.displays = []) (requests : exchange.requests = outcome.requests) :
    Agree console exchange outcome := by
  refine of_refused (.of_silent ?_ silent) ?_ requests
  · intro message isError
    rw [response] at isError
    cases isError
  · rw [response]
    decide

theorem of_unexplained {failure : Failure} {note? : Option Text} {asked : List EmbeddingRequest}
    (unexplained : failure.isExplained = false)
    (response : exchange.response = .internalError) (requests : exchange.requests = asked) :
    Agree console exchange (.ofFailure failure note? asked) := by
  rw [CommandOutcome.ofFailure, if_neg (Bool.eq_false_iff.mp unexplained)]
  exact of_internalError response rfl requests

/-- A failed setup is answered with the message that is handed over before anything is searched. -/
theorem of_setupError {error : SetupError} {asked : List EmbeddingRequest}
    (response : exchange.response = .ofSetupError error) (requests : exchange.requests = asked) :
    Agree console exchange (.ofFailure (.setup error) none asked) := by
  cases error with
  | configuration error => exact of_explained rfl (.inl rfl) rfl response requests
  | numeralTooLong => exact of_unexplained rfl response requests
  | resolution error => exact of_unexplained rfl response requests
  | noSuchFolder path => exact of_unexplained rfl response requests

/-- A failed search is answered with the message that is handed over behind the note. -/
theorem of_searchError {error : SearchError} {asked : List EmbeddingRequest}
    (response : exchange.response = .ofOutcome (.error error))
    (requests : exchange.requests = asked) :
    Agree console exchange (.ofFailure (.search error) (some Command.searchNote) asked) := by
  cases error with
  | query error => exact of_explained rfl (.inr rfl) rfl response requests
  | negativeLimit => exact of_unexplained rfl response requests
  | nullByte => exact of_unexplained rfl response requests
  | dimensions mismatch => exact of_unexplained rfl response requests

/-- Results are sent and written, or have a score that is no number and are not sent. -/
theorem of_results {results : List SearchResult} {asked : List EmbeddingRequest}
    (response : exchange.response = .ofOutcome (.ok results))
    (requests : exchange.requests = asked) :
    Agree console exchange
      { note? := some Command.searchNote
        output := (SearchResult.jsonArray results).pretty ++ ['\n']
        requests := asked } := by
  rw [Response.ofOutcome] at response
  split at response
  · next finite =>
      have noError (message : Text) : exchange.response.content ≠ .error message := by
        rw [response]
        exact nofun
      refine ⟨.of_silent noError rfl, fun _ => ?_, requests⟩
      refine ⟨results, SearchResult.jsonArray results, _, ?_, ?_,
        SearchResult.listOfJson?_jsonArray finite, rfl, console.transcript_of_silent rfl, ?_⟩
      · rw [response]
      · rw [response]
        rfl
      intro levels maxDigits room fit
      have fits := SearchResult.fits_jsonArray room fit
      have isBlank : Json.IsBlank ['\n'] := by simp [Json.IsBlank]
      rw [console.transcript_of_silent rfl]
      refine ⟨Json.readBounded_pretty fits Json.isBlank_nil isBlank, fun isNote => ?_,
        fun escapes => ?_⟩
      · exact Json.readBounded_pretty fits isNote isBlank
      · obtain ⟨rest, isNote⟩ := List.head?_eq_some_iff.mp escapes
        have starts : console.note
            { note? := some Command.searchNote
              output := (SearchResult.jsonArray results).pretty ++ ['\n']
              requests := asked } = '\x1b' :: rest := isNote
        rw [starts]
        exact Json.readBounded_escape levels maxDigits _
  · exact of_internalError response rfl requests

theorem of_run {run : SearchRun} (response : exchange.response = .ofOutcome run.outcome)
    (search : exchange.search? = some run) : Agree console exchange (.ofRun run) := by
  have requests : exchange.requests = run.requests := by rw [Exchange.requests, search]
  obtain ⟨outcome, visits, asked, index⟩ := run
  cases outcome with
  | error error => exact of_searchError response requests
  | ok results => exact of_results response requests

end Agree

end

/-! ## The same run -/

section

variable (console : Console) (router : Router) (machine : Machine) (service : EmbeddingService)
  (query : Text) (limit : Nat)

/-- A command without a folder of its own runs an engine from the environment. -/
theorem Command.runSearch_eq :
    runSearch machine service query limit none true =
      match Engine.fromEnvironment machine service.starts with
      | .error error => .ofFailure (.setup error) none []
      | .ok engine =>
          .ofRun (engine.search (.ofMachine machine service) (.ofText query) limit ()).1 := by
  rw [runSearch, Engine.fromEnvironment]
  cases Settings.resolve machine {} with
  | error error => rfl
  | ok settings =>
      have isStart : (Except.ok settings >>= Engine.start machine service.starts) =
          Engine.start machine service.starts settings := rfl
      dsimp only
      rw [isStart]
      cases Engine.start machine service.starts settings with
      | error error => rfl
      | ok engine => rfl

/-- However a search is ordered, and however it is called for, both agree. -/
theorem agree_of_order {request : Request} {arguments : List Text}
    (isOrder : request.order? router = some ⟨.ofText query, limit⟩)
    (isCommand : Command.ofArguments arguments = .ok (.search query limit none true)) :
    Agree console
      (Server.fresh.handle router machine service.starts (.ofMachine machine service)
        request ()).1
      (Command.runArguments machine service arguments) := by
  have isFresh : Server.fresh.engine machine service.starts =
      Engine.fromEnvironment machine service.starts := rfl
  rw [Server.handle_of_order isOrder, isFresh, Command.runArguments, isCommand]
  dsimp only
  rw [Command.run, Command.runSearch_eq]
  cases Engine.fromEnvironment machine service.starts with
  | error error =>
      apply Agree.of_setupError
      · rfl
      · rfl
  | ok engine =>
      apply Agree.of_run
      · rfl
      · rfl

end

/-! ## On two consoles -/

namespace Console

/-- Whether a tag is opened in front of a text: it has a name, and is closed before another. -/
def opensTag : Text → Bool
  | [] => false
  | first :: rest =>
      (first.isLower || ['#', '/', '@'].contains first) &&
        (rest.dropWhile fun character => character != '[' && character != ']').head? == some ']'

/-- What is left of a text, inside a tag or not, when its tags are taken out. -/
def withoutTags (inTag : Bool) : Text → Text
  | [] => []
  | character :: rest =>
      if inTag then withoutTags (character != ']') rest
      else if character == '[' && opensTag rest then withoutTags true rest
      else character :: withoutTags false rest

/-- A console without colours that shows no notes. -/
def plain : Console where
  working _ := []
  show?
    | .line markup => some (withoutTags false markup ++ ['\n'])
    | .panel _ _ code => some (code ++ ['\n'])

def spinning : Console :=
  { plain with working := fun note => "\x1b[?25l".toList ++ note ++ ['\n'] }

end Console

def Content.found : Content → List SearchResult
  | .results given => given
  | _ => []

def Machine.freshResponse (machine : Machine) : Response :=
  (Server.fresh.handle .literal machine constantService.starts
    (.ofMachine machine constantService) (.ofOrder "q".toList 5) ()).1.response

def Machine.seen (machine : Machine) (console : Console) : Transcript :=
  console.transcript
    (Command.runArguments machine constantService (Command.searchArguments "q".toList 5))

/-- The text of a class with a note that has to be quoted. -/
def quotedText : Text :=
  "class A \x7b \x7d // \"\\\x01😀".toList

/-- A machine with one file, whose name has to be quoted too. -/
def Machine.quoting : Machine :=
  { Machine.ofVariable Variable.serviceKey "k".toList with
    tree := .folder [("a\"b.cs".toList, .file quotedText.toUtf8)] }

end SnippetSearch
