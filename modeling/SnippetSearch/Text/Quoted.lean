import SnippetSearch.Text.Basic
import SnippetSearch.Text.HiddenRanges

/-!
# Quoted display of a text

A text is shown between single quotes, or between double quotes if it has a
single quote and no double quote.  The backslash, the quote in use and the
characters without a shape of their own are written as escapes.
-/

namespace SnippetSearch

namespace Text

/-- The last `width` hexadecimal digits of a number. -/
def hexDigits (width value : Nat) : Text :=
  match width with
  | 0 => []
  | width + 1 => hexDigits width (value / 16) ++ [Nat.digitChar (value % 16)]

def isShown (character : Char) : Bool :=
  !hiddenRanges.covers character.toNat

def quotedChar (quote character : Char) : Text :=
  if character = quote || character = '\\' then ['\\', character]
  else if character = '\n' then ['\\', 'n']
  else if character = '\r' then ['\\', 'r']
  else if character = '\t' then ['\\', 't']
  else if isShown character then [character]
  else if character.toNat < 0x100 then ['\\', 'x'] ++ hexDigits 2 character.toNat
  else if character.toNat < 0x10000 then ['\\', 'u'] ++ hexDigits 4 character.toNat
  else ['\\', 'U'] ++ hexDigits 8 character.toNat

def quoteFor (text : Text) : Char :=
  if text.contains '\'' && !text.contains '"' then '"' else '\''

def quoted (text : Text) : Text :=
  let quote := quoteFor text
  quote :: (text.flatMap (quotedChar quote) ++ [quote])

end Text

end SnippetSearch
