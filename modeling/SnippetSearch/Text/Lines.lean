import SnippetSearch.Text.Basic

/-!
# Lines

A line ends at any of the line breaks of Unicode; a carriage return directly
before a line feed makes one break with it.  A break at the very end of a
text starts no further line.
-/

namespace SnippetSearch

namespace Text

def isLineBreak (character : Char) : Bool :=
  let code := character.toNat
  (decide (0x0A ≤ code) && decide (code ≤ 0x0D)) ||
    (decide (0x1C ≤ code) && decide (code ≤ 0x1E)) ||
    code == 0x85 || code == 0x2028 || code == 0x2029

def lines : Text → List Text
  | [] => []
  | '\r' :: '\n' :: rest => [] :: lines rest
  | character :: rest =>
      if isLineBreak character then
        [] :: lines rest
      else
        match lines rest with
        | [] => [[character]]
        | line :: more => (character :: line) :: more

def joinLines (lines : List Text) : Text :=
  join ['\n'] lines

/-- Carriage returns, alone or before a line feed, become line feeds. -/
def unifyNewlines : Text → Text
  | [] => []
  | '\r' :: '\n' :: rest => '\n' :: unifyNewlines rest
  | character :: rest => (if character = '\r' then '\n' else character) :: unifyNewlines rest

@[simp] theorem lines_nil : lines [] = [] := rfl

@[simp] theorem unifyNewlines_nil : unifyNewlines [] = [] := rfl

end Text

end SnippetSearch
