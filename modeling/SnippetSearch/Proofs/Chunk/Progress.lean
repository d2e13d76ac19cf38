import Mathlib.Data.List.Chain
import Mathlib.Data.List.Induction
import SnippetSearch.Chunk

/-!
# Chunking line by line

After each line there are the chunks that have closed, the open window and the
depth of the braces.  The window always holds the newest of the lines read, so
every chunk is a run of lines; and a window left open at depth zero is shorter
than the chunk size.
-/

namespace SnippetSearch

/-- The lines with the numbers from `first` to `last`. -/
def lineRange (lines : List Text) (first last : Nat) : List Text :=
  (lines.take last).drop (first - 1)

/-- A chunk holds the lines of a file that its numbers say. -/
structure Chunk.IsRangeOf (lines : List Text) (chunk : Chunk) : Prop where
  one_le_startLine : 1 ≤ chunk.startLine
  startLine_le_endLine : chunk.startLine ≤ chunk.endLine
  endLine_le : chunk.endLine ≤ lines.length
  text_eq : chunk.text = Text.joinLines (lineRange lines chunk.startLine chunk.endLine)

/-- Lines that follow change nothing in the chunks before them. -/
theorem Chunk.IsRangeOf.append {lines : List Text} {chunk : Chunk}
    (range : chunk.IsRangeOf lines) (more : List Text) : chunk.IsRangeOf (lines ++ more) where
  one_le_startLine := range.one_le_startLine
  startLine_le_endLine := range.startLine_le_endLine
  endLine_le := by
    rw [List.length_append]
    exact Nat.le_trans range.endLine_le (Nat.le_add_right _ _)
  text_eq := by
    rw [lineRange, List.take_append_of_le_length range.endLine_le]
    exact range.text_eq

/-! ## The open window -/

/-- A window holds the newest of the lines read, from its first line to the last one. -/
structure Window.EndsAt (lines : List Text) (window : Window) : Prop where
  one_le_startLine : 1 ≤ window.startLine
  startLine_le : window.startLine ≤ lines.length + 1
  lines_eq : window.newestFirst.reverse = lines.drop (window.startLine - 1)

namespace Window

theorem endsAt_atStart : Window.atStart.EndsAt [] :=
  ⟨Nat.le_refl _, Nat.le_refl _, rfl⟩

namespace EndsAt

variable {lines : List Text} {window : Window}

theorem length_add_startLine (ends : window.EndsAt lines) :
    window.newestFirst.length + window.startLine = lines.length + 1 := by
  have sameLength := congrArg List.length ends.lines_eq
  rw [List.length_reverse, List.length_drop] at sameLength
  have := ends.one_le_startLine
  have := ends.startLine_le
  omega

theorem push (ends : window.EndsAt lines) (line : Text) :
    (window.push line).EndsAt (lines ++ [line]) where
  one_le_startLine := ends.one_le_startLine
  startLine_le := by
    rw [List.length_append]
    exact Nat.le_trans ends.startLine_le (Nat.le_add_right _ _)
  lines_eq := by
    have := ends.one_le_startLine
    have := ends.startLine_le
    change (line :: window.newestFirst).reverse = (lines ++ [line]).drop (window.startLine - 1)
    rw [List.reverse_cons, ends.lines_eq, List.drop_append_of_le_length (by omega)]

theorem keepNewest (ends : window.EndsAt lines) (count : Nat) :
    (window.keepNewest count).EndsAt lines where
  one_le_startLine := Nat.le_trans ends.one_le_startLine (Nat.le_add_right _ _)
  startLine_le := by
    have := ends.length_add_startLine
    change window.startLine + (window.newestFirst.length - count) ≤ lines.length + 1
    omega
  lines_eq := by
    have := ends.one_le_startLine
    change (window.newestFirst.take count).reverse =
      lines.drop (window.startLine + (window.newestFirst.length - count) - 1)
    rw [List.reverse_take, ends.lines_eq, List.drop_drop]
    congr 1
    omega

/-- A window that holds a line becomes the chunk of its lines, which ends at the last one. -/
theorem chunk_isRangeOf (ends : window.EndsAt lines) (holdsLine : window.newestFirst ≠ []) :
    window.chunk.IsRangeOf lines ∧ window.chunk.endLine = lines.length := by
  have positive := List.length_pos_of_ne_nil holdsLine
  have count := ends.length_add_startLine
  have endLine_eq : window.chunk.endLine = lines.length := by
    change window.startLine + window.newestFirst.length - 1 = lines.length
    omega
  refine ⟨⟨ends.one_le_startLine, ?_, Nat.le_of_eq endLine_eq, ?_⟩, endLine_eq⟩
  · change window.startLine ≤ window.startLine + window.newestFirst.length - 1
    omega
  · rw [lineRange, endLine_eq, List.take_length]
    exact congrArg Text.joinLines ends.lines_eq

end EndsAt

end Window

/-! ## The depth of the braces -/

@[simp] theorem braceBalance_append (first second : Text) :
    braceBalance (first ++ second) = braceBalance first + braceBalance second := by
  simp only [braceBalance, List.count_append]
  omega

/-- No brace is blank, so a blank line leaves the depth as it was. -/
theorem braceBalance_of_isAllBlank {line : Text} (blank : line.isAllBlank = true) :
    braceBalance line = 0 := by
  have absent (brace : Char) (visible : Text.isBlank brace = false) : line.count brace = 0 := by
    refine List.count_eq_zero.mpr fun held => ?_
    rw [List.all_eq_true.mp blank brace held] at visible
    cases visible
  rw [braceBalance, absent _ (by decide), absent _ (by decide)]
  rfl

/-! ## Reading line by line -/

/-- What the lines read so far have led to. -/
structure Progress where
  closed : List Chunk
  window : Window
  depth : Int

namespace Progress

def start : Progress := ⟨[], Window.atStart, 0⟩

def read (chunking : Chunking) (progress : Progress) (line : Text) : Progress :=
  let wider := progress.window.push line
  let deeper := progress.depth + braceBalance line
  if chunking.closes wider deeper line then
    ⟨progress.closed ++ [wider.chunk], wider.keepNewest chunking.overlap, deeper⟩
  else
    ⟨progress.closed, wider, deeper⟩

/-- The chunk that the open window becomes if the file ends here. -/
def remainder? (progress : Progress) : Option Chunk :=
  if progress.window.newestFirst.isEmpty then none else some progress.window.chunk

variable {chunking : Chunking} {progress : Progress} {line : Text}

theorem read_of_closes
    (closes : chunking.closes (progress.window.push line) (progress.depth + braceBalance line)
      line = true) :
    progress.read chunking line =
      ⟨progress.closed ++ [(progress.window.push line).chunk],
        (progress.window.push line).keepNewest chunking.overlap,
        progress.depth + braceBalance line⟩ := by
  rw [read, if_pos closes]

theorem read_of_not_closes
    (staysOpen : chunking.closes (progress.window.push line) (progress.depth + braceBalance line)
      line ≠ true) :
    progress.read chunking line =
      ⟨progress.closed, progress.window.push line, progress.depth + braceBalance line⟩ := by
  rw [read, if_neg staysOpen]

end Progress

namespace Chunking

theorem closes_iff (chunking : Chunking) (window : Window) (depth : Int) (line : Text) :
    chunking.closes window depth line = true ↔
      depth = 0 ∧ (chunking.size ≤ window.newestFirst.length ∨ line.isAllBlank = false) := by
  simp [closes]

def progress (chunking : Chunking) (lines : List Text) : Progress :=
  lines.foldl (Progress.read chunking) Progress.start

def closingChunks (chunking : Chunking) (lines : List Text) : List Chunk :=
  (chunking.progress lines).closed

/-- The chunk of the window that is open after the last line, if it holds any line. -/
def finalChunk? (chunking : Chunking) (lines : List Text) : Option Chunk :=
  (chunking.progress lines).remainder?

theorem progress_append (chunking : Chunking) (lines : List Text) (line : Text) :
    chunking.progress (lines ++ [line]) = (chunking.progress lines).read chunking line := by
  rw [progress, List.foldl_append]
  rfl

/-- The recursion over the lines that remain yields the chunks that are still to come. -/
theorem closed_append_chunksFrom (chunking : Chunking) (progress : Progress) (lines : List Text) :
    progress.closed ++ chunking.chunksFrom progress.window progress.depth lines =
      (lines.foldl (Progress.read chunking) progress).closed ++
        (lines.foldl (Progress.read chunking) progress).remainder?.toList := by
  induction lines generalizing progress with
  | nil =>
      rw [chunksFrom, List.foldl_nil, Progress.remainder?]
      split <;> rfl
  | cons line rest ih =>
      rw [List.foldl_cons, ← ih, chunksFrom]
      by_cases closes : chunking.closes (progress.window.push line)
          (progress.depth + braceBalance line) line = true
      · rw [Progress.read_of_closes closes, if_pos closes, List.append_assoc]
        rfl
      · rw [Progress.read_of_not_closes closes, if_neg closes]

/-- The chunks of a file are those that close at a line and the one that is left at the end. -/
theorem chunksOfLines_eq (chunking : Chunking) (lines : List Text) :
    chunking.chunksOfLines lines =
      chunking.closingChunks lines ++ (chunking.finalChunk? lines).toList :=
  chunking.closed_append_chunksFrom Progress.start lines

/-! ## Sequences of chunks -/

/-- The first line of the window after a chunk, or of the first window of a file. -/
def nextStart (chunking : Chunking) : Option Chunk → Nat
  | none => 1
  | some chunk => max chunk.startLine (chunk.endLine + 1 - chunking.overlap)

/-- Keeping the overlap of a window that closes moves its start to that of the next window. -/
theorem startLine_keepNewest (chunking : Chunking) {window : Window}
    (holdsLine : window.newestFirst ≠ []) :
    (window.keepNewest chunking.overlap).startLine = chunking.nextStart (some window.chunk) := by
  have positive := List.length_pos_of_ne_nil holdsLine
  change window.startLine + (window.newestFirst.length - chunking.overlap) =
    max window.startLine (window.startLine + window.newestFirst.length - 1 + 1 - chunking.overlap)
  omega

/-- One chunk follows another: it starts with the lines repeated and does not end before. -/
def Precedes (chunking : Chunking) (chunk next : Chunk) : Prop :=
  next.startLine = chunking.nextStart (some chunk) ∧ chunk.endLine ≤ next.endLine

/-- Chunks of a file that follow one another from its first line on. -/
structure IsSequence (chunking : Chunking) (lines : List Text) (chunks : List Chunk) : Prop where
  ranges : ∀ chunk ∈ chunks, chunk.IsRangeOf lines
  chained : chunks.IsChain chunking.Precedes
  head_startLine : ∀ chunk ∈ chunks.head?, chunk.startLine = 1

namespace IsSequence

variable {chunking : Chunking} {lines : List Text} {chunks : List Chunk}

theorem nil (chunking : Chunking) (lines : List Text) : chunking.IsSequence lines [] :=
  ⟨by simp, .nil, by simp⟩

theorem append (sequence : chunking.IsSequence lines chunks) (more : List Text) :
    chunking.IsSequence (lines ++ more) chunks :=
  { sequence with ranges := fun chunk member => (sequence.ranges chunk member).append more }

/-- A chunk that ends at the last line and starts where the next window does comes last. -/
theorem concat (sequence : chunking.IsSequence lines chunks) {chunk : Chunk}
    (range : chunk.IsRangeOf lines) (endsLast : chunk.endLine = lines.length)
    (starts : chunk.startLine = chunking.nextStart chunks.getLast?) :
    chunking.IsSequence lines (chunks ++ [chunk]) where
  ranges := by
    simp only [List.forall_mem_append, List.forall_mem_singleton]
    exact ⟨sequence.ranges, range⟩
  chained := by
    refine sequence.chained.append (.singleton chunk) ?_
    intro before isLast next isNext
    obtain rfl := Option.some.inj isNext
    rw [isLast] at starts
    exact ⟨starts, endsLast ▸ (sequence.ranges before (List.mem_of_getLast? isLast)).endLine_le⟩
  head_startLine := by
    intro first isFirst
    cases chunks with
    | nil =>
        obtain rfl := Option.some.inj isFirst
        exact starts
    | cons head rest => exact sequence.head_startLine first isFirst

end IsSequence

end Chunking

/-! ## What holds after each line -/

/-- What holds of the progress through lines, whatever braces they have. -/
structure Progress.Reflects (chunking : Chunking) (lines : List Text) (progress : Progress) :
    Prop where
  window_endsAt : progress.window.EndsAt lines
  window_startLine : progress.window.startLine = chunking.nextStart progress.closed.getLast?
  depth_eq : progress.depth = braceBalance lines.flatten
  short_of_depth_eq_zero :
    progress.depth = 0 → progress.window.newestFirst.length < chunking.size
  closed_sequence : chunking.IsSequence lines progress.closed
  closed_increasing :
    progress.closed.Pairwise fun chunk next => chunk.endLine < next.endLine

namespace Progress

variable {chunking : Chunking} {lines : List Text} {progress : Progress}

theorem reflects_start (chunking : Chunking) : start.Reflects chunking [] where
  window_endsAt := Window.endsAt_atStart
  window_startLine := rfl
  depth_eq := rfl
  short_of_depth_eq_zero _ := Nat.lt_of_le_of_lt (Nat.zero_le _) chunking.overlap_lt_size
  closed_sequence := .nil chunking []
  closed_increasing := .nil

/-- A line that closes the window turns it into a chunk and leaves at most the overlap. -/
theorem Reflects.read_of_closes (reflects : progress.Reflects chunking lines) (line : Text)
    (closes : chunking.closes (progress.window.push line) (progress.depth + braceBalance line)
      line = true) :
    (progress.read chunking line).Reflects chunking (lines ++ [line]) := by
  have wider := reflects.window_endsAt.push line
  obtain ⟨range, endsLast⟩ := wider.chunk_isRangeOf (List.cons_ne_nil _ _)
  rw [Progress.read_of_closes closes]
  refine ⟨wider.keepNewest _, ?_, ?_, ?_, ?_, ?_⟩
  · rw [List.getLast?_concat]
    exact chunking.startLine_keepNewest (List.cons_ne_nil _ _)
  · simp [reflects.depth_eq]
  · intro _
    change (List.take _ _).length < chunking.size
    rw [List.length_take]
    exact Nat.lt_of_le_of_lt (Nat.min_le_left _ _) chunking.overlap_lt_size
  · exact (reflects.closed_sequence.append [line]).concat range endsLast
      reflects.window_startLine
  · refine List.pairwise_append.mpr ⟨reflects.closed_increasing, List.pairwise_singleton _ _, ?_⟩
    intro chunk member next isNext
    rw [List.mem_singleton.mp isNext, endsLast, List.length_append]
    exact Nat.lt_succ_of_le (reflects.closed_sequence.ranges chunk member).endLine_le

/-- A line that does not close the window only makes it longer. -/
theorem Reflects.read_of_not_closes (reflects : progress.Reflects chunking lines) (line : Text)
    (staysOpen : chunking.closes (progress.window.push line) (progress.depth + braceBalance line)
      line ≠ true) :
    (progress.read chunking line).Reflects chunking (lines ++ [line]) := by
  rw [Progress.read_of_not_closes staysOpen]
  refine ⟨reflects.window_endsAt.push line, reflects.window_startLine, ?_, ?_,
    reflects.closed_sequence.append [line], reflects.closed_increasing⟩
  · simp [reflects.depth_eq]
  · intro level
    exact Nat.lt_of_not_le fun full =>
      staysOpen ((chunking.closes_iff _ _ _).mpr ⟨level, .inl full⟩)

theorem Reflects.read (reflects : progress.Reflects chunking lines) (line : Text) :
    (progress.read chunking line).Reflects chunking (lines ++ [line]) := by
  by_cases closes : chunking.closes (progress.window.push line)
      (progress.depth + braceBalance line) line = true
  · exact reflects.read_of_closes line closes
  · exact reflects.read_of_not_closes line closes

end Progress

theorem Chunking.progress_reflects (chunking : Chunking) (lines : List Text) :
    (chunking.progress lines).Reflects chunking lines := by
  induction lines using List.reverseRecOn with
  | nil => exact Progress.reflects_start chunking
  | append_singleton lines line ih =>
      rw [progress_append]
      exact ih.read line

end SnippetSearch
