import SnippetSearch.Text.Basic

/-!
# Integer numerals

An integer is written as an optional sign and decimal digits of any script,
with single underscores allowed between digits and blank space around the
whole.  Numerals of more than 4300 digits are neither read nor written in messages.
-/

namespace SnippetSearch

namespace Text

/-- The code points of the digits zero of Unicode 14.0; nine more digits follow each. -/
def digitZeros : List Nat :=
  [0x30, 0x660, 0x6F0, 0x7C0, 0x966, 0x9E6, 0xA66, 0xAE6, 0xB66, 0xBE6, 0xC66, 0xCE6, 0xD66,
   0xDE6, 0xE50, 0xED0, 0xF20, 0x1040, 0x1090, 0x17E0, 0x1810, 0x1946, 0x19D0, 0x1A80, 0x1A90,
   0x1B50, 0x1BB0, 0x1C40, 0x1C50, 0xA620, 0xA8D0, 0xA900, 0xA9D0, 0xA9F0, 0xAA50, 0xABF0, 0xFF10,
   0x104A0, 0x10D30, 0x11066, 0x110F0, 0x11136, 0x111D0, 0x112F0, 0x11450, 0x114D0, 0x11650,
   0x116C0, 0x11730, 0x118E0, 0x11950, 0x11C50, 0x11D50, 0x11DA0, 0x16A60, 0x16AC0, 0x16B50,
   0x1D7CE, 0x1D7D8, 0x1D7E2, 0x1D7EC, 0x1D7F6, 0x1E140, 0x1E2F0, 0x1E950, 0x1FBF0]

def digitValue? (character : Char) : Option Nat :=
  let code := character.toNat
  (digitZeros.find? fun first => decide (first ≤ code) && decide (code < first + 10)).map (code - ·)

/-- The blank space allowed around a numeral; the four separator controls are not. -/
def isNumeralBlank (character : Char) : Bool :=
  isBlank character &&
    !(decide (0x1C ≤ character.toNat) && decide (character.toNat ≤ 0x1F))

def maxDigits : Nat := 4300

/-- The number with the given decimal digits, the highest first. -/
def ofDigits (digits : List Nat) : Nat :=
  digits.foldl (fun value digit => 10 * value + digit) 0

/-- The digits of a numeral without sign, or nothing if it is malformed or too long. -/
def digits? (numeral : Text) : Option (List Nat) := do
  let groups ← (cut '_' numeral).mapM fun group =>
    if group.isEmpty then none else group.mapM digitValue?
  let digits := groups.flatten
  if digits.length ≤ maxDigits then some digits else none

def integer? (numeral : Text) : Option Int :=
  let blank := isNumeralBlank
  let core := ((numeral.dropWhile blank).reverse.dropWhile blank).reverse
  match core with
  | '-' :: unsigned => (digits? unsigned).map fun digits => -(ofDigits digits : Int)
  | '+' :: unsigned => (digits? unsigned).map fun digits => (ofDigits digits : Int)
  | unsigned => (digits? unsigned).map fun digits => (ofDigits digits : Int)

def hexValue? (character : Char) : Option Nat :=
  if '0' ≤ character && character ≤ '9' then some (character.toNat - '0'.toNat)
  else if 'a' ≤ character && character ≤ 'f' then some (character.toNat - 'a'.toNat + 10)
  else if 'A' ≤ character && character ≤ 'F' then some (character.toNat - 'A'.toNat + 10)
  else none

def ofNat (number : Nat) : Text :=
  Nat.toDigits 10 number

/-- Whether an integer has no more digits than may be written, its sign apart. -/
def isWritable (number : Int) : Bool :=
  decide ((ofNat number.natAbs).length ≤ maxDigits)

def ofInt : Int → Text
  | .ofNat number => ofNat number
  | .negSucc number => '-' :: ofNat (number + 1)

end Text

end SnippetSearch
