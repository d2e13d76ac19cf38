/-!
# Texts

A text is the list of its characters.  This module holds what the rest of the
library does to texts: trimming of blank space, cutting at a separator and
joining again, and the search for the first place where another text stands.
-/

namespace SnippetSearch

/-- A text is the list of its characters. -/
abbrev Text := List Char

namespace Text

def isBlank (character : Char) : Bool :=
  let code := character.toNat
  (decide (0x09 ≤ code) && decide (code ≤ 0x0D)) ||
    (decide (0x1C ≤ code) && decide (code ≤ 0x20)) ||
    code == 0x85 || code == 0xA0 || code == 0x1680 ||
    (decide (0x2000 ≤ code) && decide (code ≤ 0x200A)) ||
    code == 0x2028 || code == 0x2029 || code == 0x202F || code == 0x205F || code == 0x3000

def trimStart (text : Text) : Text :=
  text.dropWhile isBlank

def trimEnd (text : Text) : Text :=
  (text.reverse.dropWhile isBlank).reverse

def trim (text : Text) : Text :=
  trimEnd (trimStart text)

def isAllBlank (text : Text) : Bool :=
  text.all isBlank

def startsWithAny (starts : List Text) (text : Text) : Bool :=
  starts.any fun start => start.isPrefixOf text

/-- What follows the first place where `needle` stands, if it stands anywhere. -/
def after? (needle : Text) : Text → Option Text
  | [] => if needle.isEmpty then some [] else none
  | character :: rest =>
      if needle.isPrefixOf (character :: rest) then
        some ((character :: rest).drop needle.length)
      else
        after? needle rest

def includes (text needle : Text) : Bool :=
  (after? needle text).isSome

/--
The pieces between the separators.  There is always one piece more than there
are separators, and a piece may be empty.
-/
def cut (separator : Char) : Text → List Text
  | [] => [[]]
  | character :: rest =>
      if character = separator then
        [] :: cut separator rest
      else
        match cut separator rest with
        | [] => [[character]]
        | piece :: pieces => (character :: piece) :: pieces

def join (separator : Text) (pieces : List Text) : Text :=
  separator.intercalate pieces

/-- The characters after the last separator, or the whole text if it has none. -/
def afterLast (separator : Char) (text : Text) : Text :=
  (text.reverse.takeWhile (· != separator)).reverse

def replaceChar (old new : Char) (text : Text) : Text :=
  text.map fun character => if character = old then new else character

theorem cut_ne_nil (separator : Char) (text : Text) : cut separator text ≠ [] := by
  cases text with
  | nil => simp [cut]
  | cons character rest =>
      simp only [cut]
      split
      · simp
      · split <;> simp

@[simp] theorem cut_nil (separator : Char) : cut separator [] = [[]] := rfl

@[simp] theorem cut_cons_self (separator : Char) (rest : Text) :
    cut separator (separator :: rest) = [] :: cut separator rest := by
  simp [cut]

theorem join_cut (separator : Char) (text : Text) :
    join [separator] (cut separator text) = text := by
  induction text with
  | nil => simp [join, List.intercalate]
  | cons character rest ih =>
      have nonempty := cut_ne_nil separator rest
      simp only [join, List.intercalate] at ih ⊢
      simp only [cut]
      split
      · next same =>
          subst same
          cases pieces : cut character rest with
          | nil => exact absurd pieces nonempty
          | cons piece others =>
              rw [pieces] at ih
              simp [List.intersperse, ← ih]
      · cases pieces : cut separator rest with
        | nil => exact absurd pieces nonempty
        | cons piece others =>
            rw [pieces] at ih
            cases others with
            | nil => simp_all [List.intersperse]
            | cons other more => simp_all [List.intersperse]

end Text

end SnippetSearch
