import SnippetSearch.Text.Basic

/-!
# Loose texts

What arrives from outside may hold one half of a surrogate pair without the
other, which no character stands for.  A loose text is a list of characters
and such halves.  Every text is a loose text, and a loose text without halves
is a text.
-/

namespace SnippetSearch

/-- A code point: a character, or one half of a surrogate pair. -/
inductive CodePoint where
  | whole (character : Char)
  | half (code : Nat)
deriving Repr, DecidableEq

namespace CodePoint

def isHalf (code : Nat) : Bool :=
  decide (0xD800 ≤ code) && decide (code ≤ 0xDFFF)

def ofCode (code : Nat) : CodePoint :=
  if isHalf code then .half code else .whole (Char.ofNat code)

def code : CodePoint → Nat
  | .whole character => character.toNat
  | .half code => code

/-- The character that a code point is, if it is one. -/
def char? : CodePoint → Option Char
  | .whole character => some character
  | .half _ => none

/-- The character that two halves make, the high one first. -/
def joined? (high low : Nat) : Option Char :=
  if 0xD800 ≤ high ∧ high < 0xDC00 ∧ 0xDC00 ≤ low ∧ low < 0xE000 then
    some (Char.ofNat (0x10000 + (high - 0xD800) * 0x400 + (low - 0xDC00)))
  else
    none

end CodePoint

/-- A text that may hold halves of surrogate pairs. -/
abbrev LooseText := List CodePoint

namespace LooseText

def ofText (text : Text) : LooseText :=
  text.map .whole

/-- The text that a loose text is, unless it holds a half. -/
def text? (loose : LooseText) : Option Text :=
  loose.mapM CodePoint.char?

def hasHalf (loose : LooseText) : Bool :=
  loose.any fun point => point.char?.isNone

@[simp] theorem ofText_nil : ofText [] = [] := rfl

@[simp] theorem ofText_cons (character : Char) (rest : Text) :
    ofText (character :: rest) = .whole character :: ofText rest := rfl

@[simp] theorem ofText_append (text more : Text) :
    ofText (text ++ more) = ofText text ++ ofText more :=
  List.map_append

@[simp] theorem text?_ofText (text : Text) : text? (ofText text) = some text := by
  induction text with
  | nil => rfl
  | cons character rest ih =>
      simp only [text?, ofText, List.map_cons, List.mapM_cons, CodePoint.char?] at ih ⊢
      simp [ih]

theorem ofText_injective {left right : Text} (same : ofText left = ofText right) :
    left = right := by
  have texts := congrArg text? same
  simpa using texts

theorem hasHalf_ofText (text : Text) : hasHalf (ofText text) = false := by
  simp [hasHalf, ofText, CodePoint.char?]

end LooseText

end SnippetSearch
