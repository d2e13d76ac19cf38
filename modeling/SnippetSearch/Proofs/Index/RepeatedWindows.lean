import SnippetSearch.Proofs.Chunk.Repetition
import SnippetSearch.Proofs.Index.Encodings
import SnippetSearch.Proofs.Index.Summary

/-!
# Repeated windows are harmless

The only window that a file can repeat is its last one, and it repeats the text
with the range.  So a file of which nothing is stored is asked about chunk by
chunk, and only a last chunk that was there just before is passed over.
-/

namespace SnippetSearch

open Inquiry

variable {σ : Type}

/-! ## The first of each range -/

theorem Chunk.sameRange_iff_key_eq (path : Text) (first second : Chunk) :
    first.sameRange second = true ↔ first.key path = second.key path := by
  rw [Chunk.sameRange_iff, Chunk.key, Chunk.key, SnippetKey.mk.injEq, and_iff_right rfl]

theorem mem_firstOfEachRange_cons {chunk other : Chunk} {rest : List Chunk} :
    other ∈ firstOfEachRange (chunk :: rest) ↔
      other = chunk ∨ other ∈ firstOfEachRange rest ∧ other.sameRange chunk = false := by
  rw [firstOfEachRange, List.mem_cons, List.mem_filter, Bool.not_eq_true']
  rfl

theorem mem_map_key_firstOfEachRange (path : Text) {chunks : List Chunk} {key : SnippetKey} :
    key ∈ (firstOfEachRange chunks).map (Chunk.key path) ↔ key ∈ chunks.map (Chunk.key path) := by
  induction chunks with
  | nil => rfl
  | cons chunk rest ih =>
      rw [List.map_cons, List.mem_cons, ← ih, List.mem_map, List.mem_map]
      by_cases own : key = chunk.key path
      · exact iff_of_true ⟨chunk, mem_firstOfEachRange_cons.mpr (.inl rfl), own.symm⟩ (.inl own)
      · rw [or_iff_right own]
        refine exists_congr fun other => and_congr_left fun isKey => ?_
        have apart : other.sameRange chunk = false := by
          rw [← Bool.not_eq_true, Chunk.sameRange_iff_key_eq path, isKey]
          exact own
        have different : other ≠ chunk := fun same => own (same ▸ isKey.symm)
        rw [mem_firstOfEachRange_cons, or_iff_right different, and_iff_left apart]

theorem card_keys_eq_length_firstOfEachRange (path : Text) (chunks : List Chunk) :
    (chunks.map (Chunk.key path)).toFinset.card = (firstOfEachRange chunks).length := by
  have sameKeys : (chunks.map (Chunk.key path)).toFinset =
      ((firstOfEachRange chunks).map (Chunk.key path)).toFinset := by
    ext key
    rw [List.mem_toFinset, List.mem_toFinset, mem_map_key_firstOfEachRange]
  rw [sameKeys, List.toFinset_card_of_nodup (nodup_key_firstOfEachRange path chunks),
    List.length_map]

/-- Where all ranges are different, each is the first of its kind. -/
theorem firstOfEachRange_of_pairwise {chunks : List Chunk}
    (distinct : chunks.Pairwise fun chunk next => chunk.sameRange next = false) :
    firstOfEachRange chunks = chunks := by
  induction distinct with
  | nil => rfl
  | @cons chunk rest apart _ ih =>
      rw [firstOfEachRange, ih, List.filter_eq_self.mpr]
      intro other member
      have differs : other.sameRange chunk = false := by
        rw [Chunk.sameRange_comm]
        exact apart other member
      rw [Bool.not_eq_true']
      exact differs

/-- A chunk at the end is kept unless its range is there already. -/
theorem firstOfEachRange_concat (chunks : List Chunk) (last : Chunk) :
    firstOfEachRange (chunks ++ [last]) =
      firstOfEachRange chunks ++ if chunks.any last.sameRange then [] else [last] := by
  induction chunks with
  | nil => rfl
  | cons chunk rest ih =>
      rw [List.cons_append, firstOfEachRange, firstOfEachRange, ih, List.filter_append,
        List.any_cons, List.cons_append]
      congr 2
      cases rest.any last.sameRange with
      | true => rw [Bool.or_true]; rfl
      | false =>
          rw [if_neg Bool.false_ne_true, Bool.or_false, List.filter_cons, List.filter_nil]
          change (if (!last.sameRange chunk) = true then [last] else []) = _
          cases last.sameRange chunk <;> rfl

/-! ## The chunks that are asked about -/

/-- The first of each range of a file: all chunks, but not a last one that is repeated. -/
theorem Chunking.firstOfEachRange_chunksOfLines (chunking : Chunking) (lines : List Text) :
    firstOfEachRange (chunking.chunksOfLines lines) =
      if chunking.EndsRepeated lines then (chunking.chunksOfLines lines).dropLast
      else chunking.chunksOfLines lines := by
  split
  · next repeated =>
      obtain ⟨front, last, closing, chunks⟩ := Chunking.chunksOfLines_of_endsRepeated repeated
      have distinct := chunking.pairwise_closingChunks lines
      rw [closing] at distinct
      have there : (front ++ [last]).any last.sameRange = true :=
        List.any_eq_true.mpr ⟨last, by simp, (Chunk.sameRange_iff _ _).mpr ⟨rfl, rfl⟩⟩
      rw [chunks, firstOfEachRange_concat, if_pos there, firstOfEachRange_of_pairwise distinct,
        List.append_nil, List.dropLast_concat]
  · next fresh => exact firstOfEachRange_of_pairwise (Chunking.pairwise_chunksOfLines fresh)

/-- A path under which nothing is stored hides no range. -/
theorem SnippetIndex.candidates_of_nothing_stored {index : SnippetIndex} {path : Text}
    (noneStored : ∀ snippet ∈ index.snippets, snippet.key.path ≠ path) (chunks : List Chunk) :
    index.candidates path chunks =
      firstOfEachRange (chunks.filter fun chunk => CodeLine.carriesCode chunk.text) := by
  refine List.filter_eq_self.mpr fun chunk _ => ?_
  rw [Bool.not_eq_true', holds, List.any_eq_false]
  intro snippet stored same
  exact noneStored snippet stored (congrArg SnippetKey.path (eq_of_beq same))

/-- Of a file of which nothing is stored, each chunk with code is asked about, but none twice. -/
theorem SnippetIndex.candidates_chunks {index : SnippetIndex} {path : Text}
    (noneStored : ∀ snippet ∈ index.snippets, snippet.key.path ≠ path) (chunking : Chunking)
    (content : Text) :
    index.candidates path (chunking.chunks content) =
      (if chunking.EndsRepeated content.lines then (chunking.chunks content).dropLast
        else chunking.chunks content).filter fun chunk => CodeLine.carriesCode chunk.text := by
  have ranges := (chunking.chunksOfLines_isSequence content.lines).ranges
  rw [candidates_of_nothing_stored noneStored, firstOfEachRange_filter]
  · exact congrArg (List.filter _) (chunking.firstOfEachRange_chunksOfLines content.lines)
  · intro first isFirst second isSecond same
    rw [(ranges first isFirst).text_eq_of_sameRange (ranges second isSecond) same]

/-! ## The requests for one file -/

theorem Indexer.requests_read {indexer : Indexer} (available : indexer.provider.available = true)
    {around : Surroundings σ} {path content : Text} {state between : σ}
    (readable : around.read path state = (some content, between)) (index : SnippetIndex) :
    let done := indexer.read around.recorded index path (state, [])
    let candidates := index.candidates path (indexer.chunking.chunks content)
    done.1.attempts.map Attempt.chunk = candidates ∧
      (done.2.2.filterMap exchange?).map Prod.fst =
        candidates.map fun chunk => indexer.provider.request .document (.ofText chunk.text) := by
  intro done candidates
  have attempted : done.1.attempts.map Attempt.chunk = candidates := by
    have readable : (around.recorded.read path (state, [])).1 = some content :=
      congrArg Prod.fst readable
    rcases indexer.read_cases around.recorded index path (state, []) with
      ⟨unreadable, _⟩ | ⟨other, attempts, after, given, made, visited⟩
    · rw [readable] at unreadable
      cases unreadable
    · rw [readable] at given
      obtain rfl := Option.some.inj given
      have chunks := indexer.map_chunk_attemptAll around.recorded candidates
        (around.recorded.read path (state, [])).2
      rw [made] at chunks
      exact (congrArg (fun run => run.1.attempts.map Attempt.chunk) visited).trans chunks
  refine ⟨attempted, ?_⟩
  obtain ⟨fresh, grows, asked⟩ := indexer.read_journal available around index path (state, [])
  have journal : done.2.2 = fresh := grows
  have requests := congrArg (List.map Prod.fst) asked
  rw [outcomes, List.map_map, List.map_map] at requests
  rw [journal, ← attempted, List.map_map]
  exact requests

/--
A window that is repeated does no harm.  Of two chunks of a text at different places the
ranges are the same exactly if they are the last two and the last line closes a chunk no
longer than the overlap, and then the chunks are the same.  So reading a file under whose
path nothing is stored makes one request for each chunk that carries code, where only a
last chunk that repeats the one before it is passed over; and the snippets written and the
chunks that failed are together as many as there are ranges with code.
-/
theorem repeated_windows_are_harmless (chunking : Chunking) (content : Text) :
    let chunks := chunking.chunks content
    let repeated := chunking.EndsRepeated content.lines
    (∀ first second (_ : first < second) (_ : second < chunks.length),
      (chunks[first].sameRange chunks[second] = true ↔
        first + 2 = chunks.length ∧ second + 1 = chunks.length ∧ repeated) ∧
      (chunks[first].sameRange chunks[second] = true → chunks[first] = chunks[second])) ∧
    ∀ (provider : Provider) (filter : IgnoreFilter) (around : Surroundings σ)
      (index : SnippetIndex) (path : Text) (state between : σ), provider.available = true →
      (∀ snippet ∈ index.snippets, snippet.key.path ≠ path) →
      around.read path state = (some content, between) →
      let indexer : Indexer := ⟨provider, chunking, filter⟩
      let done := indexer.read around.recorded index path (state, [])
      let summary := IndexingSummary.ofVisits [done.1]
      let meaningful := fun chunk : Chunk => CodeLine.carriesCode chunk.text
      (done.2.2.filterMap exchange?).map Prod.fst =
        ((if repeated then chunks.dropLast else chunks).filter meaningful).map
          (fun chunk => provider.request .document (.ofText chunk.text)) ∧
      summary.snippetsWritten + summary.failedChunks =
        ((chunks.filter meaningful).map (Chunk.key path)).toFinset.card := by
  intro chunks repeated
  have ranges := (chunking.chunksOfLines_isSequence content.lines).ranges
  constructor
  · intro first second ordered inside
    refine ⟨Chunking.sameRange_getElem_iff ordered inside, fun same => ?_⟩
    exact (ranges _ (List.getElem_mem _)).eq_of_sameRange (ranges _ (List.getElem_mem _)) same
  · intro provider filter around index path state between available noneStored readable indexer
      done summary meaningful
    obtain ⟨attempted, requests⟩ := indexer.requests_read available readable index
    refine ⟨?_, ?_⟩
    · rw [SnippetIndex.candidates_chunks noneStored] at requests
      exact requests
    · have counted : summary.snippetsWritten + summary.failedChunks = done.1.attempts.length := by
        have whole := done.1.length_attempts
        simpa [summary, IndexingSummary.ofVisits] using whole
      rw [SnippetIndex.candidates_of_nothing_stored noneStored] at attempted
      rw [counted, ← List.length_map Attempt.chunk, card_keys_eq_length_firstOfEachRange]
      exact congrArg List.length attempted

def firstClassElsewhere : SnippetIndex where
  snippets := [⟨⟨"m.cs".toList, 1, 2⟩, "namespace N\nclass A \x7b \x7d".toList, [1]⟩]
  indexedPaths := ["m.cs".toList]

set_option maxRecDepth 20000 in
/--
The last of the lines up to the second class are a chunk again at the end of the file, and
these lines are asked about once.
-/
theorem repeated_windows_are_harmless_twoClasses :
    let chunks := Chunking.standard.chunks twoClassText
    let around := Surroundings.fixed (fun _ => some twoClassText) constantService.reply fun _ => []
    let done := standardIndexer.read around.recorded firstClassElsewhere "n.cs".toList ((), [])
    let summary := IndexingSummary.ofVisits [done.1]
    chunks.map (fun chunk => (chunk.startLine, chunk.endLine)) = [(1, 1), (1, 2), (1, 3), (1, 3)] ∧
      chunks[2]? = chunks[3]? ∧ (done.2.2.filterMap exchange?).length = 2 ∧
      summary.snippetsWritten + summary.failedChunks = 2 := by
  intro chunks around done summary
  obtain ⟨windows, asked⟩ := @repeated_windows_are_harmless Unit .standard twoClassText
  have noneStored : ∀ snippet ∈ firstClassElsewhere.snippets,
      snippet.key.path ≠ "n.cs".toList := by decide
  have before : 2 < chunks.length := by decide
  have inside : 3 < chunks.length := by decide
  obtain ⟨sameRange, equal⟩ := windows 2 3 (by decide) inside
  have same : chunks[2] = chunks[3] := equal (sameRange.mpr ⟨by decide, by decide, by decide⟩)
  obtain ⟨requests, counted⟩ := asked standardIndexer.provider standardIndexer.filter around
    firstClassElsewhere "n.cs".toList () () rfl noneStored rfl
  refine ⟨by decide, ?_, ?_, counted.trans (by decide +kernel)⟩
  · rw [List.getElem?_eq_getElem before, List.getElem?_eq_getElem inside, same]
  · rw [← List.length_map Prod.fst]
    refine (congrArg List.length requests).trans ?_
    decide +kernel

end SnippetSearch
