import SnippetSearch.Proofs.Chunk.Coverage

/-!
# Where chunks close

A line closes a chunk according to the depth of the braces at its end.  At
depth zero every line that is not blank closes one, and a blank line closes
one exactly when it fills the window: a window open at depth zero is too short
to be filled by more than the line that comes next.
-/

namespace SnippetSearch

def Chunk.lineCount (chunk : Chunk) : Nat :=
  chunk.endLine + 1 - chunk.startLine

theorem Window.EndsAt.lineCount_chunk {lines : List Text} {window : Window}
    (ends : window.EndsAt lines) (holdsLine : window.newestFirst ≠ []) :
    window.chunk.lineCount = window.newestFirst.length := by
  have count := ends.length_add_startLine
  have endsLast := (ends.chunk_isRangeOf holdsLine).2
  change window.chunk.endLine + 1 - window.startLine = window.newestFirst.length
  omega

namespace Chunking

/-- The window that a line widens, before it may close. -/
def windowAt (chunking : Chunking) (before : List Text) (line : Text) : Window :=
  (chunking.progress before).window.push line

def closesAt (chunking : Chunking) (before : List Text) (line : Text) : Bool :=
  chunking.closes (chunking.windowAt before line)
    ((chunking.progress before).depth + braceBalance line) line

variable {chunking : Chunking}

theorem windowAt_endsAt (chunking : Chunking) (before : List Text) (line : Text) :
    (chunking.windowAt before line).EndsAt (before ++ [line]) :=
  (chunking.progress_reflects before).window_endsAt.push line

theorem endLine_windowAt (chunking : Chunking) (before : List Text) (line : Text) :
    (chunking.windowAt before line).chunk.endLine = before.length + 1 := by
  have endsLast := ((chunking.windowAt_endsAt before line).chunk_isRangeOf
    (List.cons_ne_nil _ _)).2
  rw [endsLast, List.length_append]
  rfl

theorem depth_progress (chunking : Chunking) (before : List Text) (line : Text) :
    (chunking.progress before).depth + braceBalance line =
      braceBalance (before ++ [line]).flatten := by
  rw [(chunking.progress_reflects before).depth_eq]
  simp

/-- A line that is not blank closes the window exactly at depth zero. -/
theorem closesAt_iff_of_not_blank (before : List Text) {line : Text}
    (visible : line.isAllBlank = false) :
    chunking.closesAt before line = true ↔ braceBalance (before ++ [line]).flatten = 0 := by
  rw [closesAt, closes_iff, depth_progress]
  simp [visible]

/-- A blank line closes the window exactly if it fills it at depth zero. -/
theorem closesAt_iff_of_blank (before : List Text) {line : Text}
    (blank : line.isAllBlank = true) :
    chunking.closesAt before line = true ↔
      braceBalance (before ++ [line]).flatten = 0 ∧
        (chunking.windowAt before line).newestFirst.length = chunking.size := by
  have reflects := chunking.progress_reflects before
  -- A blank line has no braces, so depth zero after it is depth zero before it.
  have short (level : braceBalance (before ++ [line]).flatten = 0) :
      (chunking.windowAt before line).newestFirst.length ≤ chunking.size := by
    refine reflects.short_of_depth_eq_zero ?_
    rw [← depth_progress chunking, braceBalance_of_isAllBlank blank] at level
    rwa [Int.add_zero] at level
  rw [closesAt, closes_iff, depth_progress, blank]
  constructor
  · rintro ⟨level, full | visible⟩
    · exact ⟨level, Nat.le_antisymm (short level) full⟩
    · cases visible
  · rintro ⟨level, full⟩
    exact ⟨level, .inl (Nat.le_of_eq full.symm)⟩

theorem depth_eq_zero_of_closesAt {before : List Text} {line : Text}
    (closes : chunking.closesAt before line = true) :
    braceBalance (before ++ [line]).flatten = 0 := by
  rw [closesAt, closes_iff, depth_progress] at closes
  exact closes.1

/-! ## The chunks that close at one line -/

/-- Reading one more line adds the chunk that it closes, if it closes one. -/
theorem closingChunks_concat (chunking : Chunking) (before : List Text) (line : Text) :
    chunking.closingChunks (before ++ [line]) =
      chunking.closingChunks before ++
        if chunking.closesAt before line then [(chunking.windowAt before line).chunk] else [] := by
  rw [closingChunks, progress_append]
  by_cases closes : chunking.closesAt before line = true
  · rw [Progress.read_of_closes closes, if_pos closes]
    rfl
  · rw [Progress.read_of_not_closes closes, if_neg closes, List.append_nil]
    rfl

theorem endLine_le_of_mem_closingChunks {lines : List Text} {chunk : Chunk}
    (member : chunk ∈ chunking.closingChunks lines) : chunk.endLine ≤ lines.length :=
  ((chunking.progress_reflects lines).closed_sequence.ranges chunk member).endLine_le

/-- What closes after more lines comes after what has closed, and ends beyond the lines before. -/
theorem closingChunks_append (chunking : Chunking) (before after : List Text) :
    ∃ later, chunking.closingChunks (before ++ after) = chunking.closingChunks before ++ later ∧
      ∀ chunk ∈ later, before.length < chunk.endLine := by
  induction after using List.reverseRecOn with
  | nil => exact ⟨[], by rw [List.append_nil, List.append_nil], by simp⟩
  | append_singleton after line ih =>
      obtain ⟨later, split, beyond⟩ := ih
      rw [← List.append_assoc, closingChunks_concat, split, List.append_assoc]
      refine ⟨_, rfl, ?_⟩
      intro chunk member
      rcases List.mem_append.mp member with member | member
      · exact beyond chunk member
      · split at member
        · rw [List.mem_singleton.mp member, endLine_windowAt, List.length_append]
          omega
        · cases member

/-- The chunks that end within the first lines are those that close while these are read. -/
theorem filter_endLine_le (chunking : Chunking) (before after : List Text) :
    (chunking.closingChunks (before ++ after)).filter
        (fun chunk => chunk.endLine ≤ before.length) = chunking.closingChunks before := by
  obtain ⟨later, split, beyond⟩ := chunking.closingChunks_append before after
  rw [split, List.filter_append, List.filter_eq_self.mpr, List.filter_eq_nil_iff.mpr,
    List.append_nil]
  · intro chunk member
    simpa using beyond chunk member
  · intro chunk member
    simpa using endLine_le_of_mem_closingChunks member

/-- The only chunk that can end at a line is the window that this line closes. -/
theorem filter_endLine_eq (chunking : Chunking) (before : List Text) (line : Text)
    (after : List Text) :
    (chunking.closingChunks (before ++ line :: after)).filter
        (fun chunk => chunk.endLine = before.length + 1) =
      if chunking.closesAt before line then [(chunking.windowAt before line).chunk] else [] := by
  obtain ⟨later, split, beyond⟩ := chunking.closingChunks_append (before ++ [line]) after
  rw [List.append_cons, split, closingChunks_concat, List.filter_append, List.filter_append,
    List.filter_eq_nil_iff.mpr, List.filter_eq_self.mpr, List.filter_eq_nil_iff.mpr,
    List.append_nil, List.nil_append]
  · intro chunk member
    have := beyond chunk member
    rw [List.length_append, List.length_singleton] at this
    simpa using Nat.ne_of_gt this
  · intro chunk member
    split at member
    · rw [List.mem_singleton.mp member]
      simpa using endLine_windowAt chunking before line
    · cases member
  · intro chunk member
    simpa using Nat.ne_of_lt (Nat.lt_succ_of_le (endLine_le_of_mem_closingChunks member))

theorem eq_of_mem_closingChunks {before after : List Text} {line : Text} {chunk : Chunk}
    (member : chunk ∈ chunking.closingChunks (before ++ line :: after))
    (ends : chunk.endLine = before.length + 1) :
    chunking.closesAt before line = true ∧ chunk = (chunking.windowAt before line).chunk := by
  have found : chunk ∈ (chunking.closingChunks (before ++ line :: after)).filter
      (fun chunk => chunk.endLine = before.length + 1) :=
    List.mem_filter.mpr ⟨member, decide_eq_true ends⟩
  rw [filter_endLine_eq] at found
  split at found
  · next closes => exact ⟨closes, List.mem_singleton.mp found⟩
  · cases found

theorem exists_endLine_iff (chunking : Chunking) (before : List Text) (line : Text)
    (after : List Text) :
    (∃ chunk ∈ chunking.closingChunks (before ++ line :: after),
      chunk.endLine = before.length + 1) ↔ chunking.closesAt before line = true := by
  constructor
  · rintro ⟨chunk, member, ends⟩
    exact (eq_of_mem_closingChunks member ends).1
  · intro closes
    have found := chunking.filter_endLine_eq before line after
    rw [if_pos closes] at found
    have member : (chunking.windowAt before line).chunk ∈
        (chunking.closingChunks (before ++ line :: after)).filter
          (fun chunk => chunk.endLine = before.length + 1) := by
      rw [found]
      exact List.mem_singleton_self _
    exact ⟨_, List.mem_of_mem_filter member, endLine_windowAt chunking before line⟩

/-! ## Lines by their numbers -/

/--
How many lines the window that is open at a line holds, the line itself and the
lines repeated from the last chunk that closed before it included.
-/
def openCount (chunking : Chunking) (closing : List Chunk) (number : Nat) : Nat :=
  number + 1 -
    chunking.nextStart (closing.filter fun chunk => chunk.endLine < number).getLast?

theorem openCount_eq (chunking : Chunking) (before : List Text) (line : Text)
    (after : List Text) :
    chunking.openCount (chunking.closingChunks (before ++ line :: after)) (before.length + 1) =
      (chunking.windowAt before line).newestFirst.length := by
  have reflects := chunking.progress_reflects before
  have count := reflects.window_endsAt.length_add_startLine
  simp only [openCount, Nat.lt_succ_iff, filter_endLine_le]
  change before.length + 1 + 1 - chunking.nextStart (chunking.progress before).closed.getLast? =
    (chunking.progress before).window.newestFirst.length + 1
  rw [← reflects.window_startLine]
  omega

end Chunking

/-- How many more braces have been opened than closed at the end of the line with a number. -/
def depthAt (lines : List Text) (number : Nat) : Int :=
  braceBalance (lines.take number).flatten

theorem depthAt_append_cons (before : List Text) (line : Text) (after : List Text) :
    depthAt (before ++ line :: after) (before.length + 1) =
      braceBalance (before ++ [line]).flatten := by
  rw [depthAt, List.append_cons, List.take_left' (by rw [List.length_append]; rfl)]

theorem exists_lines_around {lines : List Text} {index : Nat} (inside : index < lines.length) :
    ∃ before line after, lines = before ++ line :: after ∧ before.length = index ∧
      lines[index] = line :=
  ⟨lines.take index, lines[index], lines.drop (index + 1), by
    rw [List.getElem_cons_drop, List.take_append_drop],
    List.length_take_of_le (Nat.le_of_lt inside), rfl⟩

namespace Chunking

variable {chunking : Chunking} {lines : List Text}

/-- A line that is not blank and leaves the braces balanced ends exactly one closing chunk. -/
theorem length_filter_endLine_eq_one {index : Nat} (inside : index < lines.length)
    (visible : lines[index].isAllBlank = false) (level : depthAt lines (index + 1) = 0) :
    ((chunking.closingChunks lines).filter fun chunk => chunk.endLine = index + 1).length = 1 := by
  obtain ⟨before, line, after, rfl, rfl, isLine⟩ := exists_lines_around inside
  rw [isLine] at visible
  rw [depthAt_append_cons] at level
  rw [filter_endLine_eq, if_pos ((closesAt_iff_of_not_blank before visible).mpr level)]
  rfl

/-- Where the braces are not balanced, no chunk closes. -/
theorem depthAt_eq_zero_of_mem_closingChunks {chunk : Chunk}
    (member : chunk ∈ chunking.closingChunks lines) : depthAt lines chunk.endLine = 0 := by
  have range := (chunking.progress_reflects lines).closed_sequence.ranges chunk member
  have positive := Nat.le_trans range.one_le_startLine range.startLine_le_endLine
  have inside : chunk.endLine - 1 < lines.length :=
    Nat.sub_one_lt_of_le positive range.endLine_le
  obtain ⟨before, line, after, rfl, count, _⟩ := exists_lines_around inside
  have ends : chunk.endLine = before.length + 1 := by omega
  rw [ends, depthAt_append_cons]
  exact depth_eq_zero_of_closesAt (eq_of_mem_closingChunks member ends).1

/-- A blank line ends a closing chunk exactly if it fills the open window at depth zero. -/
theorem exists_endLine_iff_of_blank {index : Nat} (inside : index < lines.length)
    (blank : lines[index].isAllBlank = true) :
    (∃ chunk ∈ chunking.closingChunks lines, chunk.endLine = index + 1) ↔
      depthAt lines (index + 1) = 0 ∧
        chunking.openCount (chunking.closingChunks lines) (index + 1) = chunking.size := by
  obtain ⟨before, line, after, rfl, rfl, isLine⟩ := exists_lines_around inside
  rw [isLine] at blank
  rw [exists_endLine_iff, closesAt_iff_of_blank before blank, depthAt_append_cons, openCount_eq]

theorem lineCount_of_blank {index : Nat} (inside : index < lines.length)
    (blank : lines[index].isAllBlank = true) {chunk : Chunk}
    (member : chunk ∈ chunking.closingChunks lines) (ends : chunk.endLine = index + 1) :
    chunk.lineCount = chunking.size := by
  obtain ⟨before, line, after, rfl, rfl, isLine⟩ := exists_lines_around inside
  rw [isLine] at blank
  obtain ⟨closes, rfl⟩ := eq_of_mem_closingChunks member ends
  rw [(windowAt_endsAt chunking before line).lineCount_chunk (List.cons_ne_nil _ _)]
  exact ((closesAt_iff_of_blank before blank).mp closes).2

/-! ## The end of the file -/

@[simp] theorem finalChunk?_nil (chunking : Chunking) : chunking.finalChunk? [] = none := rfl

/-- After a last line something is left unless this line closes the window and nothing repeats. -/
theorem isSome_finalChunk?_concat (chunking : Chunking) (before : List Text) (line : Text) :
    (chunking.finalChunk? (before ++ [line])).isSome = true ↔
      0 < chunking.overlap ∨ ¬ chunking.closesAt before line = true := by
  rw [finalChunk?, progress_append, Progress.remainder?]
  by_cases closes : chunking.closesAt before line = true
  · rw [Progress.read_of_closes closes]
    change (if (List.take chunking.overlap (_ :: _)).isEmpty then none else some _).isSome = _ ↔ _
    cases chunking.overlap with
    | zero => simp [closes]
    | succ count => simp
  · rw [Progress.read_of_not_closes closes]
    exact ⟨fun _ => .inr closes, fun _ => rfl⟩

theorem isSome_finalChunk?_iff (chunking : Chunking) (lines : List Text) :
    (chunking.finalChunk? lines).isSome = true ↔
      0 < lines.length ∧ (0 < chunking.overlap ∨
        ∀ chunk ∈ chunking.closingChunks lines, chunk.endLine ≠ lines.length) := by
  induction lines using List.reverseRecOn with
  | nil => simp
  | append_singleton before line _ =>
      have ends := chunking.exists_endLine_iff before line []
      rw [isSome_finalChunk?_concat, ← ends, List.length_append]
      simp

theorem lineCount_finalChunk?_lt {chunk : Chunk} (final : chunking.finalChunk? lines = some chunk)
    (level : depthAt lines lines.length = 0) : chunk.lineCount < chunking.size := by
  have reflects := chunking.progress_reflects lines
  rw [depthAt, List.take_length, ← reflects.depth_eq] at level
  simp only [finalChunk?, Progress.remainder?, Option.ite_none_left_eq_some,
    List.isEmpty_iff, Option.some.injEq] at final
  obtain ⟨holdsLine, rfl⟩ := final
  rw [reflects.window_endsAt.lineCount_chunk holdsLine]
  exact reflects.short_of_depth_eq_zero level

end Chunking

/--
The chunks of a text are those that close at a line, of which a line ends at
most one, and what is left at the end.  A line that is not blank closes a chunk
exactly at depth zero; a blank line does so exactly where it also fills the
open window, which is never overfull there.
-/
theorem chunks_split_exactly (chunking : Chunking) (text : Text) :
    let lines := text.lines
    let closing := chunking.closingChunks lines
    let final? := chunking.finalChunk? lines
    chunking.chunks text = closing ++ final?.toList ∧
    (closing.Pairwise fun chunk next => chunk.endLine < next.endLine) ∧
    (∀ chunk ∈ final?, chunk.endLine = lines.length) ∧
    (∀ index (inside : index < lines.length), lines[index].isAllBlank = false →
      depthAt lines (index + 1) = 0 →
      (closing.filter fun chunk => chunk.endLine = index + 1).length = 1) ∧
    (∀ chunk ∈ closing, depthAt lines chunk.endLine = 0) ∧
    (∀ index (inside : index < lines.length), lines[index].isAllBlank = true →
      ((∃ chunk ∈ closing, chunk.endLine = index + 1) ↔
        depthAt lines (index + 1) = 0 ∧
          chunking.openCount closing (index + 1) = chunking.size) ∧
      ∀ chunk ∈ closing, chunk.endLine = index + 1 → chunk.lineCount = chunking.size) ∧
    (final?.isSome = true ↔ 0 < lines.length ∧
      (0 < chunking.overlap ∨ ∀ chunk ∈ closing, chunk.endLine ≠ lines.length)) ∧
    (depthAt lines lines.length = 0 → ∀ chunk ∈ final?, chunk.lineCount < chunking.size) := by
  intro lines closing final?
  refine ⟨chunking.chunksOfLines_eq lines,
    (chunking.progress_reflects lines).closed_increasing, ?_, ?_, ?_, ?_,
    chunking.isSome_finalChunk?_iff lines, ?_⟩
  · intro chunk final
    exact (Chunking.finalChunk?_spec final).2.1
  · intro index inside visible level
    exact Chunking.length_filter_endLine_eq_one inside visible level
  · intro chunk member
    exact Chunking.depthAt_eq_zero_of_mem_closingChunks member
  · intro index inside blank
    exact ⟨Chunking.exists_endLine_iff_of_blank inside blank,
      fun _ member ends => Chunking.lineCount_of_blank inside blank member ends⟩
  · intro level chunk final
    exact Chunking.lineCount_finalChunk?_lt final level

-- The blank lines close windows of two lines, and what is left at the end only repeats a line.
example :
    (Chunking.chunks ⟨2, 1, by decide⟩ "x\n\n\ny".toList).map
        (fun chunk => (chunk.startLine, chunk.endLine)) =
      [(1, 1), (1, 2), (2, 3), (3, 4), (4, 4)] := by
  decide

end SnippetSearch
