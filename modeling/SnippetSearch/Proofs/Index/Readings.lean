import SnippetSearch.Proofs.Index.Candidates
import SnippetSearch.Proofs.Index.Journal

/-!
# Files as they were read

A journal tells which files could be read, with which content, and which vectors
were given right after.  For each file these are the vectors of its wanted
chunks, and together they make the snippets of the file as it was then.
-/

namespace SnippetSearch

variable {σ : Type}

/-- A file as it was read, with the requests that came right after it and their replies. -/
structure FileReading where
  path : Text
  content : Text
  exchanges : List (EmbeddingRequest × EmbeddingReply)

namespace Inquiry

/-- The request for a vector with its reply, if the inquiry is one. -/
def exchange? : Inquiry → Option (EmbeddingRequest × EmbeddingReply)
  | .embed request reply => some (request, reply)
  | .read .. | .list .. => none

def leadingExchanges : List Inquiry → List (EmbeddingRequest × EmbeddingReply)
  | .embed request reply :: rest => (request, reply) :: leadingExchanges rest
  | _ => []

/-- The files that could be read, in the order of the journal. -/
def fileReadings : List Inquiry → List FileReading
  | [] => []
  | .read path (some content) :: rest =>
      ⟨path, content, leadingExchanges rest⟩ :: fileReadings rest
  | _ :: rest => fileReadings rest

theorem leadingExchanges_append (journal : List Inquiry) {block : List Inquiry}
    (starts : leadingExchanges block = []) :
    leadingExchanges (journal ++ block) = leadingExchanges journal := by
  induction journal with
  | nil => exact starts
  | cons inquiry rest ih =>
      cases inquiry with
      | embed request reply => exact congrArg (List.cons _) ih
      | read path text? => rfl
      | list catalog paths => rfl

theorem fileReadings_append (journal : List Inquiry) {block : List Inquiry}
    (starts : leadingExchanges block = []) :
    fileReadings (journal ++ block) = fileReadings journal ++ fileReadings block := by
  induction journal with
  | nil => rfl
  | cons inquiry rest ih =>
      cases inquiry with
      | embed request reply => exact ih
      | list catalog paths => exact ih
      | read path text? =>
          cases text? with
          | none => exact ih
          | some content =>
              rw [List.cons_append, fileReadings, leadingExchanges_append rest starts, ih]
              rfl

theorem leadingExchanges_map (exchanges : List (EmbeddingRequest × EmbeddingReply)) :
    leadingExchanges (exchanges.map fun exchange => .embed exchange.1 exchange.2) =
      exchanges := by
  induction exchanges with
  | nil => rfl
  | cons exchange rest ih => exact congrArg (List.cons exchange) ih

theorem fileReadings_map (exchanges : List (EmbeddingRequest × EmbeddingReply)) :
    fileReadings (exchanges.map fun exchange => .embed exchange.1 exchange.2) = [] := by
  induction exchanges with
  | nil => rfl
  | cons exchange rest ih => exact ih

theorem mem_map_path_fileReadings (journal : List Inquiry) (path : Text) :
    path ∈ (fileReadings journal).map FileReading.path ↔
      ∃ content, .read path (some content) ∈ journal := by
  induction journal with
  | nil => simp [fileReadings]
  | cons inquiry rest ih =>
      cases inquiry with
      | embed request reply => simpa [fileReadings] using ih
      | list catalog paths => simpa [fileReadings] using ih
      | read other text? =>
          cases text? with
          | none => simpa [fileReadings] using ih
          | some content =>
              rw [fileReadings, List.map_cons, List.mem_cons, ih]
              simp [exists_or]

end Inquiry

namespace FileReading

def snippets (chunking : Chunking) (reading : FileReading) : List Snippet :=
  ((chunking.wantedChunks reading.content).zip reading.exchanges).filterMap
    fun (chunk, _, reply) =>
      match reply.vector with
      | .ok embedding =>
          some
            { key := ⟨reading.path, chunk.startLine, chunk.endLine⟩
              content := chunk.text
              embedding }
      | .error _ => none

/-- For each wanted chunk one vector was asked for, in their order, and for nothing else. -/
def AsksOncePerChunk (indexer : Indexer) (reading : FileReading) : Prop :=
  reading.exchanges.map Prod.fst =
    (indexer.chunking.wantedChunks reading.content).map fun chunk =>
      indexer.provider.request .document (.ofText chunk.text)

theorem path_of_mem_snippets {chunking : Chunking} {reading : FileReading} {snippet : Snippet}
    (member : snippet ∈ reading.snippets chunking) : snippet.key.path = reading.path := by
  obtain ⟨⟨chunk, request, reply⟩, _, given⟩ := List.mem_filterMap.mp member
  dsimp only at given
  split at given
  · obtain rfl := Option.some.inj given
    rfl
  · cases given

end FileReading

/-! ## One file -/

/-- What is asked about a file that can be read: its content, and then the vectors. -/
def FileReading.inquiries (reading : FileReading) : List Inquiry :=
  .read reading.path (some reading.content) ::
    reading.exchanges.map fun exchange => .embed exchange.1 exchange.2

theorem Inquiry.fileReadings_inquiries (reading : FileReading) :
    fileReadings reading.inquiries = [reading] := by
  rw [FileReading.inquiries, fileReadings, leadingExchanges_map, fileReadings_map]

theorem Inquiry.filterMap_exchange?_inquiries (reading : FileReading) :
    reading.inquiries.filterMap exchange? = reading.exchanges := by
  rw [FileReading.inquiries, List.filterMap_cons_none rfl, List.filterMap_map]
  exact List.filterMap_some

def attemptOf (answer : Chunk × EmbeddingReply) : Attempt :=
  ⟨answer.1, answer.2.vector⟩

namespace Indexer

variable (indexer : Indexer)

def exchanges (answers : List (Chunk × EmbeddingReply)) :
    List (EmbeddingRequest × EmbeddingReply) :=
  answers.map fun answer =>
    (indexer.provider.request .document (.ofText answer.1.text), answer.2)

def reading (path content : Text) (answers : List (Chunk × EmbeddingReply)) : FileReading :=
  { path, content, exchanges := indexer.exchanges answers }

variable {path content : Text} {answers : List (Chunk × EmbeddingReply)}

theorem asksOncePerChunk_reading
    (asked : answers.map Prod.fst = indexer.chunking.wantedChunks content) :
    (indexer.reading path content answers).AsksOncePerChunk indexer := by
  rw [FileReading.AsksOncePerChunk, reading, exchanges, ← asked, List.map_map, List.map_map]
  rfl

theorem snippets_reading
    (asked : answers.map Prod.fst = indexer.chunking.wantedChunks content) :
    (indexer.reading path content answers).snippets indexer.chunking =
      (Visit.indexed path content (answers.map attemptOf)).snippets := by
  rw [FileReading.snippets, reading, exchanges, ← asked, List.zip_map', List.filterMap_map,
    Visit.snippets, List.filterMap_map]
  rfl

/-- Asking for the vectors of chunks puts one request for each of them into the journal. -/
theorem attemptAll_recorded (available : indexer.provider.available = true)
    (around : Surroundings σ) (chunks : List Chunk) (state : σ × List Inquiry) :
    ∃ answers after, answers.map Prod.fst = chunks ∧
      indexer.attemptAll around.recorded chunks state =
        (answers.map attemptOf, after,
          state.2 ++ (indexer.exchanges answers).map fun exchange =>
            .embed exchange.1 exchange.2) := by
  induction chunks generalizing state with
  | nil => exact ⟨[], state.1, rfl, by simp [attemptAll, exchanges]⟩
  | cons chunk rest ih =>
      let request := indexer.provider.request .document (.ofText chunk.text)
      obtain ⟨reply, between, asked⟩ :=
        around.recorded_embed available .document (.ofText chunk.text) state
      obtain ⟨answers, after, chunks_eq, run_eq⟩ :=
        ih (between, state.2 ++ [.embed request reply])
      refine ⟨(chunk, reply) :: answers, after, congrArg (List.cons chunk) chunks_eq, ?_⟩
      rw [attemptAll, asked]
      dsimp only
      rw [run_eq, List.append_assoc]
      rfl

/-- Reading a file puts it into the journal with one request for each of its wanted chunks. -/
theorem read_recorded (available : indexer.provider.available = true)
    (around : Surroundings σ) {index : SnippetIndex} (sound : index.HoldsIndexedOnly)
    (unknown : path ∉ index.indexedPaths) (state : σ × List Inquiry) :
    (∃ after, indexer.read around.recorded index path state =
        (.unreadable path, after, state.2 ++ [.read path none])) ∨
      ∃ content answers after,
        answers.map Prod.fst = indexer.chunking.wantedChunks content ∧
        indexer.read around.recorded index path state =
          (.indexed path content (answers.map attemptOf), after,
            state.2 ++ (indexer.reading path content answers).inquiries) := by
  rw [Indexer.read, around.recorded_read]
  rcases around.read path state.1 with ⟨_ | content, between⟩
  · exact .inl ⟨between, rfl⟩
  · right
    obtain ⟨answers, after, asked, run_eq⟩ := indexer.attemptAll_recorded available around
      (indexer.chunking.wantedChunks content) (between, state.2 ++ [.read path (some content)])
    refine ⟨content, answers, after, asked, ?_⟩
    simp only [SnippetIndex.candidates_eq_wantedChunks sound unknown, run_eq]
    rw [List.append_assoc]
    rfl

end Indexer

end SnippetSearch
