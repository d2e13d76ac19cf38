import SnippetSearch.Text.Basic
import SnippetSearch.Text.CaseRanges

/-!
# Letter case

Two characters are the same letter when their case keys agree: the key is the
code point of the lower-case form, after variants of a letter have been taken
to the letter itself.  Lower-casing of a whole text is a little more: a
capital sigma at the end of a word becomes a final sigma, and the dotted
capital `I` becomes two characters.
-/

namespace SnippetSearch

namespace Text

def lowerIn : List CaseRun → Nat → Nat
  | [], code => code
  | run :: rest, code =>
      if code < run.first then
        code
      else if code ≤ run.last then
        if (code - run.first) % run.stride = 0 then
          run.lower + (code - run.first)
        else
          code
      else
        lowerIn rest code

/-- The lower-case code point of a code point, which is itself if it has none. -/
def lowerCode (code : Nat) : Nat :=
  lowerIn lowerRuns code

/-- What two characters have in common when they differ in case only. -/
def caseKey (character : Char) : Nat :=
  let lower := lowerCode character.toNat
  (caseVariants.lookup lower).getD lower

def sameLetter (left right : Char) : Bool :=
  caseKey left == caseKey right

def meetsCased (text : Text) : Bool :=
  match text.dropWhile fun character => caseIgnorableRanges.covers character.toNat with
  | [] => false
  | character :: _ => casedRanges.covers character.toNat

/-- The lower-case form of one character between the text before it, reversed, and after it. -/
def lowerBetween (before : Text) (character : Char) (following : Text) : Text :=
  if character = '\u03A3' then
    if meetsCased before && !meetsCased following then ['\u03C2'] else ['\u03C3']
  else if character = '\u0130' then
    ['i', '\u0307']
  else
    [Char.ofNat (lowerCode character.toNat)]

/-- The lower-case form of a text that follows `before`, which is given reversed. -/
def lowerAfter (before : Text) : Text → Text
  | [] => []
  | character :: rest =>
      lowerBetween before character rest ++ lowerAfter (character :: before) rest

def lower (text : Text) : Text :=
  lowerAfter [] text

theorem sameLetter_iff {left right : Char} :
    sameLetter left right = true ↔ caseKey left = caseKey right := by
  simp [sameLetter]

@[simp] theorem sameLetter_refl (character : Char) : sameLetter character character = true := by
  simp [sameLetter]

theorem sameLetter_comm (left right : Char) : sameLetter left right = sameLetter right left := by
  simp only [sameLetter, Bool.beq_comm]

end Text

end SnippetSearch
