import SnippetSearch.Text.Basic
import SnippetSearch.Text.WordRanges

/-!
# Words

A word character is a letter, a numeral or the underscore.  A keyword stands
as a whole word where neither the character before it nor the character after
it is a word character.
-/

namespace SnippetSearch

namespace Text

/-- Letters, numerals and the underscore. -/
def isWordChar (character : Char) : Bool :=
  character == '_' || letterAndNumeralRanges.covers character.toNat

def startsOutsideWord : Text → Bool
  | [] => true
  | character :: _ => !isWordChar character

def startsWithWord (keyword text : Text) : Bool :=
  keyword.isPrefixOf text && startsOutsideWord (text.drop keyword.length)

/--
Whether one of the keywords stands as a whole word in the text, where
`outside` tells whether a word may start at the first character.
-/
def includesWordFrom (keywords : List Text) (outside : Bool) : Text → Bool
  | [] => false
  | character :: rest =>
      (outside && keywords.any fun keyword => startsWithWord keyword (character :: rest)) ||
        includesWordFrom keywords (!isWordChar character) rest

def includesWord (keywords : List Text) (text : Text) : Bool :=
  includesWordFrom keywords true text

end Text

end SnippetSearch
