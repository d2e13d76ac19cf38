import SnippetSearch.Text.Lines

/-!
# Chunks of source files

The lines of a file are gathered in a window.  The window closes, and becomes
a chunk, only where as many braces have been closed as opened: at a line that
is not blank, or when it holds the full number of lines.  The next window
starts with the last lines of the one that closed.  Whatever is left open at
the end of the file becomes the last chunk.
-/

namespace SnippetSearch

/-- Consecutive lines of a file, with the numbers of the first and the last. -/
structure Chunk where
  text : Text
  startLine : Nat
  endLine : Nat
deriving Repr, DecidableEq

inductive ChunkingError where
  | sizeNotPositive
  | overlapNegative
  | overlapNotSmaller
deriving Repr, DecidableEq

def ChunkingError.message : ChunkingError → Text
  | .sizeNotPositive => "chunk_size must be > 0".toList
  | .overlapNegative => "overlap must be >= 0".toList
  | .overlapNotSmaller => "overlap must be smaller than chunk_size".toList

/-- How many lines a window may hold and how many of them the next one repeats. -/
structure Chunking where
  size : Nat
  overlap : Nat
  overlap_lt_size : overlap < size

namespace Chunking

/-- Windows of two hundred lines, of which the next one repeats twenty. -/
def standard : Chunking := ⟨200, 20, by decide⟩

/-- The chunking with the given numbers, of which the size is judged first. -/
def ofInts (size overlap : Int) : Except ChunkingError Chunking :=
  if notPositive : size ≤ 0 then
    .error .sizeNotPositive
  else if negative : overlap < 0 then
    .error .overlapNegative
  else if smaller : overlap < size then
    .ok ⟨size.toNat, overlap.toNat, by omega⟩
  else
    .error .overlapNotSmaller

end Chunking

/-- The lines of the open window, the newest first, and the number of the oldest. -/
structure Window where
  startLine : Nat
  newestFirst : List Text
deriving Repr, DecidableEq

namespace Window

def atStart : Window := ⟨1, []⟩

def push (window : Window) (line : Text) : Window :=
  { window with newestFirst := line :: window.newestFirst }

def keepNewest (window : Window) (count : Nat) : Window :=
  { startLine := window.startLine + (window.newestFirst.length - count)
    newestFirst := window.newestFirst.take count }

def chunk (window : Window) : Chunk :=
  { text := Text.joinLines window.newestFirst.reverse
    startLine := window.startLine
    endLine := window.startLine + window.newestFirst.length - 1 }

end Window

def braceBalance (line : Text) : Int :=
  (line.count '\x7b' : Int) - (line.count '\x7d' : Int)

namespace Chunking

/-- Whether the window closes after its newest line, which leaves the braces at `depth`. -/
def closes (chunking : Chunking) (window : Window) (depth : Int) (line : Text) : Bool :=
  decide (depth = 0) &&
    (decide (chunking.size ≤ window.newestFirst.length) || !line.isAllBlank)

/-- The chunks of the remaining lines, with the open window and the depth so far. -/
def chunksFrom (chunking : Chunking) (window : Window) (depth : Int) : List Text → List Chunk
  | [] => if window.newestFirst.isEmpty then [] else [window.chunk]
  | line :: rest =>
      let wider := window.push line
      let deeper := depth + braceBalance line
      if chunking.closes wider deeper line then
        wider.chunk :: chunking.chunksFrom (wider.keepNewest chunking.overlap) deeper rest
      else
        chunking.chunksFrom wider deeper rest

def chunksOfLines (chunking : Chunking) (lines : List Text) : List Chunk :=
  chunking.chunksFrom Window.atStart 0 lines

def chunks (chunking : Chunking) (text : Text) : List Chunk :=
  chunking.chunksOfLines text.lines

@[simp] theorem chunksOfLines_nil (chunking : Chunking) : chunking.chunksOfLines [] = [] := rfl

end Chunking

end SnippetSearch
