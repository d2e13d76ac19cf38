import SnippetSearch.Proofs.Chunk.SplitPoints
import SnippetSearch.Proofs.Index.Candidates

/-!
# The one window that can be repeated

Chunks that close at different lines are different ranges.  Only what is left
at the end of a file can be a range that has been emitted before: if the last
line closes a chunk no longer than the overlap, the window that is seeded with
it holds the same lines again.
-/

namespace SnippetSearch

theorem Chunk.IsRangeOf.eq_of_sameRange {lines : List Text} {first second : Chunk}
    (firstRange : first.IsRangeOf lines) (secondRange : second.IsRangeOf lines)
    (same : first.sameRange second = true) : first = second := by
  have sameText := firstRange.text_eq_of_sameRange secondRange same
  obtain ⟨starts, ends⟩ := (Chunk.sameRange_iff _ _).mp same
  cases first
  cases second
  rw [Chunk.mk.injEq]
  exact ⟨sameText, starts, ends⟩

namespace Chunking

variable {chunking : Chunking} {lines : List Text}

/-- The window after a chunk starts where the chunk does if it repeats all of it. -/
theorem nextStart_eq_startLine_iff (chunking : Chunking) (chunk : Chunk) :
    chunking.nextStart (some chunk) = chunk.startLine ↔ chunk.lineCount ≤ chunking.overlap := by
  rw [nextStart, Chunk.lineCount]
  omega

theorem pairwise_closingChunks (chunking : Chunking) (lines : List Text) :
    (chunking.closingChunks lines).Pairwise fun chunk next => chunk.sameRange next = false := by
  refine (chunking.progress_reflects lines).closed_increasing.imp fun {chunk next} grows => ?_
  refine Bool.eq_false_iff.mpr fun same => ?_
  have sameEnd := ((Chunk.sameRange_iff chunk next).mp same).2
  exact Nat.ne_of_lt grows sameEnd

theorem closingChunks_eq_concat {chunk : Chunk} (member : chunk ∈ chunking.closingChunks lines)
    (ends : chunk.endLine = lines.length) :
    ∃ front, chunking.closingChunks lines = front ++ [chunk] := by
  have increasing : (chunking.closingChunks lines).Pairwise fun chunk next =>
      chunk.endLine < next.endLine := (chunking.progress_reflects lines).closed_increasing
  obtain ⟨front, back, split⟩ := List.append_of_mem member
  refine ⟨front, ?_⟩
  cases back with
  | nil => exact split
  | cons next rest =>
      have nextMember : next ∈ chunking.closingChunks lines := by simp [split]
      rw [split, List.pairwise_append, List.pairwise_cons] at increasing
      have beyond := increasing.2.1.1 next List.mem_cons_self
      have within := endLine_le_of_mem_closingChunks nextMember
      omega

/-- Whether the last line closes a chunk that the next window would repeat as a whole. -/
def EndsRepeated (chunking : Chunking) (lines : List Text) : Prop :=
  ∃ chunk ∈ chunking.closingChunks lines,
    chunk.endLine = lines.length ∧ chunk.lineCount ≤ chunking.overlap

instance (chunking : Chunking) (lines : List Text) : Decidable (chunking.EndsRepeated lines) :=
  inferInstanceAs (Decidable (∃ chunk ∈ chunking.closingChunks lines, _))

/-- If the last chunk to close is repeated, the chunks are those that close and this one again. -/
theorem chunksOfLines_of_endsRepeated (repeated : chunking.EndsRepeated lines) :
    ∃ front last, chunking.closingChunks lines = front ++ [last] ∧
      chunking.chunksOfLines lines = front ++ [last] ++ [last] := by
  obtain ⟨last, member, ends, short⟩ := repeated
  obtain ⟨front, closing⟩ := closingChunks_eq_concat member ends
  have range : last.IsRangeOf lines :=
    (chunking.progress_reflects lines).closed_sequence.ranges last member
  have something : (chunking.finalChunk? lines).isSome = true := by
    have := range.one_le_startLine
    have := range.startLine_le_endLine
    rw [Chunk.lineCount] at short
    rw [isSome_finalChunk?_iff]
    exact ⟨by omega, .inl (by omega)⟩
  obtain ⟨left, final⟩ := Option.isSome_iff_exists.mp something
  obtain ⟨leftRange, leftEnds, starts⟩ := finalChunk?_spec final
  rw [closing, List.getLast?_concat, (chunking.nextStart_eq_startLine_iff last).mpr short] at starts
  have same : left.sameRange last = true :=
    (Chunk.sameRange_iff _ _).mpr ⟨starts, leftEnds.trans ends.symm⟩
  refine ⟨front, last, closing, ?_⟩
  rw [chunksOfLines_eq, closing, final, leftRange.eq_of_sameRange range same, Option.toList_some]

theorem pairwise_chunksOfLines (fresh : ¬ chunking.EndsRepeated lines) :
    (chunking.chunksOfLines lines).Pairwise fun chunk next => chunk.sameRange next = false := by
  rw [chunksOfLines_eq]
  cases final : chunking.finalChunk? lines with
  | none =>
      rw [Option.toList_none, List.append_nil]
      exact chunking.pairwise_closingChunks lines
  | some left =>
      obtain ⟨-, leftEnds, starts⟩ := finalChunk?_spec final
      refine List.pairwise_append.mpr
        ⟨chunking.pairwise_closingChunks lines, List.pairwise_singleton _ _, ?_⟩
      intro chunk member other isLeft
      obtain rfl := List.mem_singleton.mp isLeft
      refine Bool.eq_false_iff.mpr fun same => fresh ?_
      obtain ⟨sameStart, sameEnd⟩ := (Chunk.sameRange_iff _ _).mp same
      have ends : chunk.endLine = lines.length := sameEnd.trans leftEnds
      obtain ⟨front, closing⟩ := closingChunks_eq_concat member ends
      rw [closing, List.getLast?_concat, ← sameStart, eq_comm,
        nextStart_eq_startLine_iff] at starts
      exact ⟨chunk, member, ends, starts⟩

/-- Where closing chunks are followed by the last of them again, only these two are the same. -/
theorem sameRange_getElem_concat {front : List Chunk} {last : Chunk}
    (distinct : (front ++ [last]).Pairwise fun chunk next => chunk.sameRange next = false)
    {first second : Nat} (ordered : first < second)
    (inside : second < (front ++ [last] ++ [last]).length) :
    (front ++ [last] ++ [last])[first].sameRange (front ++ [last] ++ [last])[second] = true ↔
      first + 2 = (front ++ [last] ++ [last]).length ∧
        second + 1 = (front ++ [last] ++ [last]).length := by
  have count : (front ++ [last]).length = front.length + 1 := List.length_append
  have countAll : (front ++ [last] ++ [last]).length = (front ++ [last]).length + 1 :=
    List.length_append
  have lastAgain (place : second = (front ++ [last]).length) :
      (front ++ [last] ++ [last])[second] = last := List.getElem_concat_length place inside
  rw [List.pairwise_iff_getElem] at distinct
  have firstEarlier : first < (front ++ [last]).length := by omega
  rw [List.getElem_append_left firstEarlier]
  by_cases atEnd : second = (front ++ [last]).length
  · rw [lastAgain atEnd]
    by_cases before : first = front.length
    · rw [List.getElem_concat_length before, Chunk.sameRange_iff]
      exact iff_of_true ⟨rfl, rfl⟩ (by omega)
    · have apart := distinct first front.length firstEarlier (by omega) (by omega)
      rw [List.getElem_concat_length rfl] at apart
      rw [apart]
      exact iff_of_false Bool.false_ne_true (by omega)
  · have secondEarlier : second < (front ++ [last]).length := by omega
    rw [List.getElem_append_left secondEarlier,
      distinct first second firstEarlier secondEarlier ordered]
    exact iff_of_false Bool.false_ne_true (by omega)

/-- Two chunks are the same range exactly if they are the last two and the last one is repeated. -/
theorem sameRange_getElem_iff {first second : Nat} (ordered : first < second)
    (inside : second < (chunking.chunksOfLines lines).length) :
    (chunking.chunksOfLines lines)[first].sameRange (chunking.chunksOfLines lines)[second] = true ↔
      first + 2 = (chunking.chunksOfLines lines).length ∧
        second + 1 = (chunking.chunksOfLines lines).length ∧ chunking.EndsRepeated lines := by
  by_cases repeated : chunking.EndsRepeated lines
  · obtain ⟨front, last, closing, chunks⟩ := chunksOfLines_of_endsRepeated repeated
    have distinct := chunking.pairwise_closingChunks lines
    rw [closing] at distinct
    simp only [chunks] at inside ⊢
    rw [sameRange_getElem_concat distinct ordered inside, and_iff_left repeated]
  · have distinct := List.pairwise_iff_getElem.mp (pairwise_chunksOfLines repeated) first second
      (Nat.lt_trans ordered inside) inside ordered
    simp [distinct, repeated]

end Chunking

end SnippetSearch
