import SnippetSearch.Index.Visit
import SnippetSearch.Proofs.Chunk.Coverage

/-!
# Chunks that need a vector

The chunks of a file that need a vector follow from its content alone as long
as nothing is stored under its path.  Chunks of one file with the same range of
lines have the same text, so it does not matter whether repeated ranges are
dropped before or after the chunks without code.
-/

namespace SnippetSearch

def Chunk.sameRange (first second : Chunk) : Bool :=
  first.startLine == second.startLine && first.endLine == second.endLine

theorem Chunk.sameRange_iff (first second : Chunk) :
    first.sameRange second = true ↔
      first.startLine = second.startLine ∧ first.endLine = second.endLine := by
  simp [sameRange]

theorem Chunk.sameRange_comm (first second : Chunk) :
    first.sameRange second = second.sameRange first := by
  rw [Bool.eq_iff_iff, sameRange_iff, sameRange_iff]
  exact and_congr eq_comm eq_comm

theorem Chunk.IsRangeOf.text_eq_of_sameRange {lines : List Text} {first second : Chunk}
    (firstRange : first.IsRangeOf lines) (secondRange : second.IsRangeOf lines)
    (same : first.sameRange second = true) : first.text = second.text := by
  obtain ⟨starts, ends⟩ := (Chunk.sameRange_iff _ _).mp same
  rw [firstRange.text_eq, secondRange.text_eq, starts, ends]

/-- Keeping the first of each range only drops chunks. -/
theorem firstOfEachRange_sublist (chunks : List Chunk) :
    (firstOfEachRange chunks).Sublist chunks := by
  induction chunks with
  | nil => exact .slnil
  | cons chunk rest ih =>
      rw [firstOfEachRange]
      exact (List.filter_sublist.trans ih).cons_cons chunk

/-- A choice that falls alike on equal ranges can be made before or after dropping repetitions. -/
theorem firstOfEachRange_filter {chunks : List Chunk} {wanted : Chunk → Bool}
    (respects : ∀ first ∈ chunks, ∀ second ∈ chunks, first.sameRange second = true →
      wanted first = wanted second) :
    firstOfEachRange (chunks.filter wanted) = (firstOfEachRange chunks).filter wanted := by
  induction chunks with
  | nil => rfl
  | cons chunk rest ih =>
      have ih := ih fun first isFirst second isSecond =>
        respects first (List.mem_cons_of_mem _ isFirst) second (List.mem_cons_of_mem _ isSecond)
      rw [firstOfEachRange, List.filter_cons, List.filter_cons, List.filter_filter]
      by_cases chosen : wanted chunk = true
      · rw [if_pos chosen, if_pos chosen, firstOfEachRange, ih, List.filter_filter]
        simp only [Bool.and_comm]
      · rw [if_neg chosen, if_neg chosen, ih]
        refine List.filter_congr fun other isOther => ?_
        have inRest := (firstOfEachRange_sublist rest).subset isOther
        -- A chunk of the range that is dropped here is not wanted any more than this one.
        by_cases same : other.sameRange chunk = true
        · rw [respects other (List.mem_cons_of_mem _ inRest) chunk List.mem_cons_self same]
          simp [chosen]
        · rw [Chunk.sameRange] at same
          simp [same]

theorem firstOfEachRange_eq_eraseDupsBy (chunks : List Chunk) :
    firstOfEachRange chunks = chunks.eraseDupsBy Chunk.sameRange := by
  match chunks with
  | [] => rfl
  | chunk :: rest =>
      have others : (fun other : Chunk =>
          !(other.startLine == chunk.startLine && other.endLine == chunk.endLine)) =
          fun other => decide (other.sameRange chunk = false) := by
        funext other
        rw [Chunk.sameRange]
        cases other.startLine == chunk.startLine && other.endLine == chunk.endLine <;> rfl
      have alike : ∀ first ∈ rest, ∀ second ∈ rest, first.sameRange second = true →
          decide (first.sameRange chunk = false) = decide (second.sameRange chunk = false) := by
        intro first _ second _ same
        obtain ⟨starts, ends⟩ := (Chunk.sameRange_iff _ _).mp same
        rw [Chunk.sameRange, Chunk.sameRange, starts, ends]
      rw [firstOfEachRange, others, ← firstOfEachRange_filter alike, List.eraseDupsBy_cons,
        firstOfEachRange_eq_eraseDupsBy]
termination_by chunks.length
decreasing_by
  exact Nat.lt_succ_of_le (List.length_filter_le _ _)

theorem nodup_key_firstOfEachRange (path : Text) (chunks : List Chunk) :
    ((firstOfEachRange chunks).map (Chunk.key path)).Nodup := by
  induction chunks with
  | nil => exact .nil
  | cons chunk rest ih =>
      rw [firstOfEachRange, List.map_cons, List.nodup_cons]
      refine ⟨fun repeated => ?_, ih.sublist (List.filter_sublist.map _)⟩
      obtain ⟨other, kept, same⟩ := List.mem_map.mp repeated
      have differs := (List.mem_filter.mp kept).2
      rw [Chunk.key, Chunk.key, SnippetKey.mk.injEq] at same
      simp [same] at differs

theorem SnippetIndex.nodup_key_candidates (index : SnippetIndex) (path : Text)
    (chunks : List Chunk) : ((index.candidates path chunks).map (Chunk.key path)).Nodup :=
  (nodup_key_firstOfEachRange path _).sublist (List.filter_sublist.map _)

theorem SnippetIndex.candidates_subset (index : SnippetIndex) (path : Text)
    (chunks : List Chunk) : index.candidates path chunks ⊆ chunks :=
  fun _ member => List.mem_of_mem_filter
    ((firstOfEachRange_sublist _).subset (List.mem_of_mem_filter member))

/-- The chunks of a content that need a vector: the first of each range, if it carries code. -/
def Chunking.wantedChunks (chunking : Chunking) (content : Text) : List Chunk :=
  ((chunking.chunks content).eraseDupsBy Chunk.sameRange).filter fun chunk =>
    CodeLine.carriesCode chunk.text

namespace SnippetIndex

/-- An index holds snippets of the files that it has read only. -/
def HoldsIndexedOnly (index : SnippetIndex) : Prop :=
  ∀ snippet ∈ index.snippets, snippet.key.path ∈ index.indexedPaths

theorem not_holds_of_not_indexed {index : SnippetIndex} (sound : index.HoldsIndexedOnly)
    {path : Text} (unknown : path ∉ index.indexedPaths) (chunk : Chunk) :
    index.holds (chunk.key path) = false := by
  refine Bool.eq_false_iff.mpr fun held => unknown ?_
  obtain ⟨snippet, stored, same⟩ := List.any_eq_true.mp held
  have inSnippets := sound snippet stored
  rw [eq_of_beq same] at inSnippets
  exact inSnippets

theorem candidates_eq_wantedChunks {index : SnippetIndex} (sound : index.HoldsIndexedOnly)
    {path : Text} (unknown : path ∉ index.indexedPaths) (chunking : Chunking) (content : Text) :
    index.candidates path (chunking.chunks content) = chunking.wantedChunks content := by
  have ranges := (chunking.chunksOfLines_isSequence content.lines).ranges
  rw [candidates, List.filter_eq_self.mpr, firstOfEachRange_filter,
    firstOfEachRange_eq_eraseDupsBy, Chunking.wantedChunks]
  · intro first isFirst second isSecond same
    rw [(ranges first isFirst).text_eq_of_sameRange (ranges second isSecond) same]
  · intro chunk _
    rw [not_holds_of_not_indexed sound unknown]
    rfl

end SnippetIndex

end SnippetSearch
