import SnippetSearch.Proofs.Chunk.Progress
import SnippetSearch.Proofs.Text.Lines

/-!
# Chunks cover their file

Whatever braces the lines have, the chunks of a file follow one another from
its first line to its last.  Each of them is the run of lines that its numbers
say, so the file can be put together again from the lines that each chunk adds.
-/

namespace SnippetSearch

namespace Chunking

variable {chunking : Chunking} {lines : List Text}

/-- The chunk that is left at the end holds the last lines from the start of the open window. -/
theorem finalChunk?_spec {chunk : Chunk} (final : chunking.finalChunk? lines = some chunk) :
    chunk.IsRangeOf lines ∧ chunk.endLine = lines.length ∧
      chunk.startLine = chunking.nextStart (chunking.closingChunks lines).getLast? := by
  have reflects := chunking.progress_reflects lines
  simp only [finalChunk?, Progress.remainder?, Option.ite_none_left_eq_some,
    List.isEmpty_iff, Option.some.injEq] at final
  obtain ⟨holdsLine, rfl⟩ := final
  obtain ⟨range, endsLast⟩ := reflects.window_endsAt.chunk_isRangeOf holdsLine
  exact ⟨range, endsLast, reflects.window_startLine⟩

/-- Nothing is left at the end only if the window that would be open starts after the last line. -/
theorem nextStart_of_finalChunk?_eq_none (noneLeft : chunking.finalChunk? lines = none) :
    chunking.nextStart (chunking.closingChunks lines).getLast? = lines.length + 1 := by
  have reflects := chunking.progress_reflects lines
  have count := reflects.window_endsAt.length_add_startLine
  simp only [finalChunk?, Progress.remainder?, ite_eq_left_iff, reduceCtorEq, imp_false,
    not_not, List.isEmpty_iff] at noneLeft
  rw [noneLeft, List.length_nil, Nat.zero_add] at count
  rw [← count]
  exact reflects.window_startLine.symm

theorem chunksOfLines_isSequence (chunking : Chunking) (lines : List Text) :
    chunking.IsSequence lines (chunking.chunksOfLines lines) := by
  have closed := (chunking.progress_reflects lines).closed_sequence
  rw [chunksOfLines_eq]
  cases final : chunking.finalChunk? lines with
  | none =>
      rw [Option.toList_none, List.append_nil]
      exact closed
  | some chunk =>
      obtain ⟨range, endsLast, starts⟩ := finalChunk?_spec final
      exact closed.concat range endsLast starts

theorem endLine_of_nextStart {chunk : Chunk} (range : chunk.IsRangeOf lines)
    (after : chunking.nextStart (some chunk) = lines.length + 1) :
    chunk.endLine = lines.length := by
  have := range.startLine_le_endLine
  have := range.endLine_le
  simp only [nextStart] at after
  omega

theorem endLine_of_mem_getLast? (chunking : Chunking) (lines : List Text) :
    ∀ chunk ∈ (chunking.chunksOfLines lines).getLast?, chunk.endLine = lines.length := by
  intro chunk isLast
  rw [chunksOfLines_eq] at isLast
  cases final : chunking.finalChunk? lines with
  | none =>
      rw [final, Option.toList_none, List.append_nil] at isLast
      have range := (chunking.progress_reflects lines).closed_sequence.ranges chunk
        (List.mem_of_getLast? isLast)
      have after := nextStart_of_finalChunk?_eq_none final
      rw [isLast] at after
      exact endLine_of_nextStart range after
  | some left =>
      rw [final, Option.toList_some, List.getLast?_concat] at isLast
      obtain rfl := Option.some.inj isLast
      exact (finalChunk?_spec final).2.1

theorem chunksOfLines_eq_nil_iff (chunking : Chunking) (lines : List Text) :
    chunking.chunksOfLines lines = [] ↔ lines = [] := by
  constructor
  · intro empty
    rw [chunksOfLines_eq, List.append_eq_nil_iff, Option.toList_eq_nil_iff] at empty
    obtain ⟨noneClosed, noneLeft⟩ := empty
    have after := nextStart_of_finalChunk?_eq_none noneLeft
    rw [noneClosed] at after
    exact List.length_eq_zero_iff.mp (Nat.succ.inj after).symm
  · rintro rfl
    rfl

end Chunking

/-! ## Putting the file together again -/

theorem lineRange_subset (lines : List Text) (first last : Nat) :
    lineRange lines first last ⊆ lines := fun _ member =>
  List.mem_of_mem_take (List.mem_of_mem_drop member)

theorem Chunk.IsRangeOf.lineRange_ne_nil {lines : List Text} {chunk : Chunk}
    (range : chunk.IsRangeOf lines) :
    lineRange lines chunk.startLine chunk.endLine ≠ [] := by
  have := range.one_le_startLine
  have := range.startLine_le_endLine
  have := range.endLine_le
  refine List.ne_nil_of_length_pos ?_
  rw [lineRange, List.length_drop, List.length_take]
  omega

theorem Chunk.IsRangeOf.cut_text {text : Text} {chunk : Chunk}
    (range : chunk.IsRangeOf text.lines) :
    Text.cut '\n' chunk.text = lineRange text.lines chunk.startLine chunk.endLine := by
  rw [range.text_eq]
  exact Text.cut_joinLines range.lineRange_ne_nil fun _ member => lineRange_subset _ _ _ member

/--
The lines of chunks in their order, where of each chunk only those lines count
that come after the end of the chunk before it.
-/
def freshLines (reached : Nat) : List Chunk → List Text
  | [] => []
  | chunk :: rest =>
      (Text.cut '\n' chunk.text).drop (reached + 1 - chunk.startLine) ++
        freshLines chunk.endLine rest

theorem drop_lineRange (lines : List Text) {first last reached : Nat} (positive : 1 ≤ first)
    (overlaps : first ≤ reached + 1) :
    (lineRange lines first last).drop (reached + 1 - first) = (lines.take last).drop reached := by
  rw [lineRange, List.drop_drop]
  congr 1
  omega

theorem drop_take_append_drop (lines : List Text) {reached last : Nat} (ordered : reached ≤ last)
    (within : last ≤ lines.length) :
    (lines.take last).drop reached ++ lines.drop last = lines.drop reached := by
  have enough : reached ≤ (lines.take last).length := by
    rw [List.length_take]
    omega
  rw [← List.drop_append_of_le_length enough, List.take_append_drop]

/-- The lines of a file are those above a chunk, those of the chunk, and those below it. -/
theorem Chunk.IsRangeOf.lines_eq {lines : List Text} {chunk : Chunk}
    (range : chunk.IsRangeOf lines) :
    lines = lines.take (chunk.startLine - 1) ++
      lineRange lines chunk.startLine chunk.endLine ++ lines.drop chunk.endLine := by
  have ordered : chunk.startLine - 1 ≤ chunk.endLine :=
    Nat.le_trans (Nat.sub_le _ _) range.startLine_le_endLine
  rw [List.append_assoc, lineRange, drop_take_append_drop lines ordered range.endLine_le,
    List.take_append_drop]

/-- Chunks that go on where `reached` ends and lead to the last line add the lines after it. -/
theorem freshLines_eq_drop {chunking : Chunking} {text : Text} {first : Chunk}
    {rest : List Chunk} {reached : Nat}
    (ranges : ∀ chunk ∈ first :: rest, chunk.IsRangeOf text.lines)
    (chained : (first :: rest).IsChain chunking.Precedes)
    (overlaps : first.startLine ≤ reached + 1) (ordered : reached ≤ first.endLine)
    (complete : ∀ chunk ∈ (first :: rest).getLast?, chunk.endLine = text.lines.length) :
    freshLines reached (first :: rest) = text.lines.drop reached := by
  induction rest generalizing first reached with
  | nil =>
      have range := ranges first List.mem_cons_self
      rw [freshLines, freshLines, List.append_nil, range.cut_text,
        drop_lineRange _ range.one_le_startLine overlaps, complete first rfl, List.take_length]
  | cons next rest ih =>
      have range := ranges first List.mem_cons_self
      obtain ⟨⟨starts, grows⟩, chained⟩ := List.isChain_cons_cons.mp chained
      have nextOverlaps : next.startLine ≤ first.endLine + 1 := by
        have := range.startLine_le_endLine
        simp only [Chunking.nextStart] at starts
        omega
      have remaining := ih (fun chunk member => ranges chunk (List.mem_cons_of_mem _ member))
        chained nextOverlaps grows complete
      rw [freshLines, range.cut_text, drop_lineRange _ range.one_le_startLine overlaps, remaining]
      exact drop_take_append_drop _ ordered range.endLine_le

/--
No line of a text is lost or misnumbered by its chunks: they are the runs of
lines that their numbers say, lead from the first line to the last, and each
repeats the overlap of the one before it or, if that is shorter, all of it.
-/
theorem chunks_cover_lines (chunking : Chunking) (text : Text) :
    (chunking.chunks text = [] ↔ text.lines.length = 0) ∧
    (∀ chunk ∈ chunking.chunks text,
      1 ≤ chunk.startLine ∧ chunk.startLine ≤ chunk.endLine ∧
      chunk.endLine ≤ text.lines.length ∧
      chunk.text = Text.joinLines (lineRange text.lines chunk.startLine chunk.endLine) ∧
      Text.cut '\n' chunk.text = lineRange text.lines chunk.startLine chunk.endLine) ∧
    (∀ chunk ∈ (chunking.chunks text).head?, chunk.startLine = 1) ∧
    (∀ chunk ∈ (chunking.chunks text).getLast?, chunk.endLine = text.lines.length) ∧
    ((chunking.chunks text).IsChain fun chunk next =>
      (next.startLine : Int) =
        max (chunk.startLine : Int) (chunk.endLine + 1 - chunking.overlap) ∧
      chunk.endLine ≤ next.endLine) ∧
    freshLines 0 (chunking.chunks text) = text.lines := by
  have sequence := chunking.chunksOfLines_isSequence text.lines
  have complete := chunking.endLine_of_mem_getLast? text.lines
  refine ⟨?_, ?_, sequence.head_startLine, complete, ?_, ?_⟩
  · rw [List.length_eq_zero_iff]
    exact chunking.chunksOfLines_eq_nil_iff text.lines
  · intro chunk member
    have range := sequence.ranges chunk member
    exact ⟨range.one_le_startLine, range.startLine_le_endLine, range.endLine_le, range.text_eq,
      range.cut_text⟩
  · refine sequence.chained.imp_of_mem_imp fun chunk next member _ precedes => ?_
    have := (sequence.ranges chunk member).one_le_startLine
    obtain ⟨starts, grows⟩ := precedes
    simp only [Chunking.nextStart] at starts
    exact ⟨by omega, grows⟩
  · change freshLines 0 (chunking.chunksOfLines text.lines) = text.lines
    cases found : chunking.chunksOfLines text.lines with
    | nil => rw [(chunking.chunksOfLines_eq_nil_iff _).mp found, freshLines]
    | cons first rest =>
        rw [found] at sequence complete
        have startsFirst := sequence.head_startLine first rfl
        exact freshLines_eq_drop sequence.ranges sequence.chained (Nat.le_of_eq startsFirst)
          (Nat.zero_le _) complete

end SnippetSearch
