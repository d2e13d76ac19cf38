import SnippetSearch.Text.Case

/-!
# Glob patterns

Two stars stand for any characters of one line, a single star for any
characters other than the two path separators, a question mark for one
character other than a line feed.  Every other character stands for itself
in either case.  A text matches if the whole pattern covers it, or covers it
up to one line feed at its end.
-/

namespace SnippetSearch

namespace Glob

inductive Token where
  | anyRun
  | segmentRun
  | anyChar
  | letter (character : Char)
deriving Repr, DecidableEq

/-- The parts of a pattern from left to right; two stars together make one part. -/
def tokens : Text → List Token
  | [] => []
  | '*' :: '*' :: rest => .anyRun :: tokens rest
  | '*' :: rest => .segmentRun :: tokens rest
  | '?' :: rest => .anyChar :: tokens rest
  | character :: rest => .letter character :: tokens rest

namespace Token

/-- Whether a part may cover the character, alone or among others. -/
def admits : Token → Char → Bool
  | .anyRun, character => character != '\n'
  | .segmentRun, character => character != '/' && character != '\\'
  | .anyChar, character => character != '\n'
  | .letter expected, character => Text.sameLetter expected character

/-- Whether a part covers any number of characters instead of exactly one. -/
def isRun : Token → Bool
  | .anyRun | .segmentRun => true
  | .anyChar | .letter _ => false

end Token

/-- Whether nothing is left but one line feed at most. -/
def atEnd : Text → Bool
  | [] => true
  | ['\n'] => true
  | _ => false

/-- Whether the text is a run of admitted characters and then a text that `next` accepts. -/
def coversRun (admits : Char → Bool) (next : Text → Bool) : Text → Bool
  | [] => next []
  | character :: rest =>
      next (character :: rest) || (admits character && coversRun admits next rest)

def covers : List Token → Text → Bool
  | [], text => atEnd text
  | token :: rest, text =>
      if token.isRun then
        coversRun token.admits (covers rest) text
      else
        match text with
        | [] => false
        | character :: remaining => token.admits character && covers rest remaining

def matchesText (pattern text : Text) : Bool :=
  covers (tokens pattern) text

end Glob

end SnippetSearch
