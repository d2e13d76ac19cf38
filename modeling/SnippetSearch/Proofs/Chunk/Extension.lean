import SnippetSearch.Proofs.Chunk.SplitPoints

/-!
# Chunks of files that go on

Lines that are added at the end of a file change nothing in the chunks that
closed before them.  Where nothing is repeated and the last line closed a
chunk, the lines that are added are cut as if they were a file of their own.
-/

namespace SnippetSearch

def Chunk.shift (count : Nat) (chunk : Chunk) : Chunk :=
  { chunk with startLine := chunk.startLine + count, endLine := chunk.endLine + count }

namespace Window

def shift (count : Nat) (window : Window) : Window :=
  { window with startLine := window.startLine + count }

theorem push_shift (count : Nat) (window : Window) (line : Text) :
    (window.shift count).push line = (window.push line).shift count := rfl

theorem keepNewest_shift (count : Nat) (window : Window) (kept : Nat) :
    (window.shift count).keepNewest kept = (window.keepNewest kept).shift count := by
  simp only [keepNewest, shift, Nat.add_right_comm]

/-- A window that holds a line becomes the shifted chunk if it is shifted. -/
theorem chunk_shift (count : Nat) {window : Window} (holdsLine : window.newestFirst ≠ []) :
    (window.shift count).chunk = window.chunk.shift count := by
  have positive := List.length_pos_of_ne_nil holdsLine
  simp only [chunk, shift, Chunk.shift, Chunk.mk.injEq, true_and]
  omega

end Window

namespace Chunking

variable {chunking : Chunking} {lines : List Text}

/-- Where lines stand in their file decides nothing but the numbers of their chunks. -/
theorem chunksFrom_shift (chunking : Chunking) (count : Nat) (window : Window) (depth : Int)
    (lines : List Text) :
    chunking.chunksFrom (window.shift count) depth lines =
      (chunking.chunksFrom window depth lines).map (Chunk.shift count) := by
  induction lines generalizing window depth with
  | nil =>
      by_cases empty : window.newestFirst = []
      · simp [chunksFrom, Window.shift, empty]
      · have shifted := Window.chunk_shift count empty
        simp only [chunksFrom, Window.shift] at shifted ⊢
        simp [empty, shifted]
  | cons line rest ih =>
      rw [chunksFrom, chunksFrom, Window.push_shift, Window.keepNewest_shift, ih, ih,
        Window.chunk_shift count (List.cons_ne_nil _ _)]
      change (if chunking.closes (window.push line) _ _ then _ else _) = _
      split
      · rfl
      · rfl

/-- What follows some lines is cut from the window and the depth that these have led to. -/
theorem chunksOfLines_append (chunking : Chunking) (first rest : List Text) :
    chunking.chunksOfLines (first ++ rest) =
      chunking.closingChunks first ++
        chunking.chunksFrom (chunking.progress first).window (chunking.progress first).depth
          rest := by
  rw [closingChunks, closed_append_chunksFrom, chunksOfLines_eq, closingChunks, finalChunk?,
    progress, List.foldl_append]
  rfl

/-! ## A fresh start -/

/-- Whether lines leave nothing to go on with: there are none, or the last closes a chunk. -/
def EndsClosed (chunking : Chunking) (lines : List Text) : Prop :=
  lines = [] ∨ ∃ chunk ∈ chunking.closingChunks lines, chunk.endLine = lines.length

/-- If nothing is repeated, no chunk is left at the end of lines that end closed. -/
theorem EndsClosed.finalChunk?_eq_none (closed : chunking.EndsClosed lines)
    (repeatsNothing : chunking.overlap = 0) : chunking.finalChunk? lines = none := by
  rcases closed with rfl | ⟨chunk, member, isLast⟩
  · rfl
  rw [← Option.not_isSome_iff_eq_none, isSome_finalChunk?_iff, repeatsNothing]
  rintro ⟨_, repeats | goesOn⟩
  · exact absurd repeats (Nat.lt_irrefl 0)
  · exact goesOn chunk member isLast

theorem EndsClosed.depth_eq_zero (closed : chunking.EndsClosed lines) :
    (chunking.progress lines).depth = 0 := by
  rw [(chunking.progress_reflects lines).depth_eq]
  rcases closed with rfl | ⟨chunk, member, isLast⟩
  · rfl
  · have balanced := depthAt_eq_zero_of_mem_closingChunks member
    rwa [isLast, depthAt, List.take_length] at balanced

/-- If nothing is repeated, the window after lines that end closed is that of a new file. -/
theorem EndsClosed.window_eq (closed : chunking.EndsClosed lines)
    (repeatsNothing : chunking.overlap = 0) :
    (chunking.progress lines).window = Window.atStart.shift lines.length := by
  have count := (chunking.progress_reflects lines).window_endsAt.length_add_startLine
  have noneLeft := closed.finalChunk?_eq_none repeatsNothing
  simp only [finalChunk?, Progress.remainder?, ite_eq_left_iff, reduceCtorEq, imp_false,
    not_not, List.isEmpty_iff] at noneLeft
  rw [noneLeft, List.length_nil, Nat.zero_add] at count
  rcases window : (chunking.progress lines).window with ⟨startLine, newestFirst⟩
  rw [window] at count noneLeft
  rw [Window.shift, Window.atStart, Window.mk.injEq]
  exact ⟨by rw [show startLine = _ from count, Nat.add_comm], noneLeft⟩

end Chunking

/--
Chunks of a text whose first lines are the lines of another one.  All chunks of the
other text are among them, at the front, apart from the one that is left at its end.
If nothing is repeated, and the last line of the other text closes a chunk or the text
is empty, then its chunks are followed by those of any text with the remaining lines,
numbered on from its last line.
-/
theorem chunks_of_continued_text (chunking : Chunking) {first whole : Text} {rest : List Text}
    (continues : whole.lines = first.lines ++ rest) :
    let closing := chunking.closingChunks first.lines
    let final? := chunking.finalChunk? first.lines
    chunking.chunks first = closing ++ final?.toList ∧
    closing <+: chunking.chunks whole ∧
    (chunking.overlap = 0 →
      (first = [] ∨ ∃ chunk ∈ closing, chunk.endLine = first.lines.length) →
      ∀ other : Text, other.lines = rest →
        chunking.chunks whole =
          chunking.chunks first ++
            (chunking.chunks other).map (Chunk.shift first.lines.length)) := by
  intro closing final?
  have split : chunking.chunks whole = closing ++
      chunking.chunksFrom (chunking.progress first.lines).window
        (chunking.progress first.lines).depth rest := by
    rw [Chunking.chunks, continues]
    exact chunking.chunksOfLines_append first.lines rest
  refine ⟨chunking.chunksOfLines_eq first.lines, ?_, ?_⟩
  · rw [split]
    exact List.prefix_append _ _
  · rintro repeatsNothing ends other rfl
    have closed : chunking.EndsClosed first.lines :=
      ends.imp_left fun empty => congrArg Text.lines empty
    have noneLeft : final? = none := closed.finalChunk?_eq_none repeatsNothing
    have chunks_eq : chunking.chunks first = closing := by
      rw [← closing.append_nil]
      exact (chunking.chunksOfLines_eq first.lines).trans (congrArg (closing ++ ·.toList) noneLeft)
    rw [split, chunks_eq, closed.window_eq repeatsNothing, closed.depth_eq_zero,
      Chunking.chunksFrom_shift]
    rfl

set_option maxRecDepth 4000 in
/--
A class is followed by blank lines, which fill a window, and by a second class, which
is left open at the end: without overlap they are cut as if they stood alone.
-/
theorem chunks_of_continued_text_secondClass :
    let chunking : Chunking := ⟨2, 0, by decide⟩
    let first : Text := "class A\n\x7b\n\x7d\n".toList
    let whole : Text := "class A\n\x7b\n\x7d\n\n \nclass B\n\x7b".toList
    let other : Text := "\n \nclass B\n\x7b".toList
    whole.lines = first.lines ++ other.lines ∧
      chunking.chunks whole =
        chunking.chunks first ++ (chunking.chunks other).map (Chunk.shift 3) ∧
      (chunking.chunks whole).map (fun chunk => (chunk.startLine, chunk.endLine)) =
        [(1, 1), (2, 3), (4, 5), (6, 6), (7, 7)] := by
  refine ⟨by decide, ?_, by decide⟩
  exact (chunks_of_continued_text ⟨2, 0, by decide⟩ (by decide)).2.2 rfl (.inr (by decide)) _ rfl

end SnippetSearch
