import SnippetSearch.Decimal
import SnippetSearch.Json.Basic
import SnippetSearch.Text.Quoted

/-!
# Writing JSON

Strings are written in printable ASCII only: every other character becomes an
escape of four hexadecimal digits, or of two such escapes above the first
sixteen bits; the half of a surrogate pair is one escape.  A value is written
either on one line, or with every item and field on a line of its own, indented
by two more spaces for every level.
-/

namespace SnippetSearch

namespace Json

def unitEscape (code : Nat) : Text :=
  '\\' :: 'u' :: Text.hexDigits 4 code

def stringChar (character : Char) : Text :=
  if character = '"' then ['\\', '"']
  else if character = '\\' then ['\\', '\\']
  else if character = '\n' then ['\\', 'n']
  else if character = '\r' then ['\\', 'r']
  else if character = '\t' then ['\\', 't']
  else if character = '\x08' then ['\\', 'b']
  else if character = '\x0C' then ['\\', 'f']
  else if 0x20 ≤ character.toNat ∧ character.toNat < 0x7F then [character]
  else if character.toNat < 0x10000 then unitEscape character.toNat
  else
    unitEscape (0xD800 + (character.toNat - 0x10000) / 0x400) ++
      unitEscape (0xDC00 + (character.toNat - 0x10000) % 0x400)

def stringPoint : CodePoint → Text
  | .whole character => stringChar character
  | .half code => unitEscape code

def stringText (text : LooseText) : Text :=
  '"' :: (text.flatMap stringPoint ++ ['"'])

def exponentText (power : Int) : Text :=
  'e' :: (if power < 0 then '-' else '+') :: Decimal.paddedDigits 2 power.natAbs

/-- A number without sign with one digit in front of the point, and an exponent. -/
def scientificText (mantissa : Nat) (exponent : Int) : Text :=
  match Text.ofNat mantissa with
  | [] => []
  | [digit] => digit :: exponentText exponent
  | digit :: others => digit :: '.' :: (others ++ exponentText (exponent + others.length))

/-- A number without sign, with an exponent if the point would be far from its digits. -/
def decimalText (mantissa : Nat) (exponent : Int) : Text :=
  let wholeDigits := (Text.ofNat mantissa).length + exponent
  if exponent < 0 && -Decimal.maxLeadingZeros ≤ wholeDigits &&
      wholeDigits ≤ Decimal.maxWholeDigits then
    Decimal.unsignedText exponent.natAbs mantissa
  else
    scientificText mantissa exponent

def numberText : Number → Text
  | .integer value => Text.ofInt value
  | .decimal negative mantissa exponent =>
      if negative then '-' :: decimalText mantissa exponent else decimalText mantissa exponent
  | .notANumber => "NaN".toList
  | .infinite negative => if negative then "-Infinity".toList else "Infinity".toList

mutual

def compact : Json → Text
  | .null => "null".toList
  | .bool value => if value then "true".toList else "false".toList
  | .number value => numberText value
  | .text value => stringText value
  | .array items => '[' :: (compactItems items ++ [']'])
  | .object fields => '\x7b' :: (compactFields fields ++ ['\x7d'])

def compactItems : List Json → Text
  | [] => []
  | [item] => compact item
  | item :: next :: rest => compact item ++ ',' :: compactItems (next :: rest)

def compactFields : List (LooseText × Json) → Text
  | [] => []
  | [(key, value)] => stringText key ++ ':' :: compact value
  | (key, value) :: next :: rest =>
      stringText key ++ ':' :: (compact value ++ ',' :: compactFields (next :: rest))

end

def newLine (level : Nat) : Text :=
  '\n' :: List.replicate (2 * level) ' '

mutual

def indented (level : Nat) : Json → Text
  | .null => "null".toList
  | .bool value => if value then "true".toList else "false".toList
  | .number value => numberText value
  | .text value => stringText value
  | .array [] => "[]".toList
  | .array (item :: rest) =>
      '[' :: (indentedItems (level + 1) (item :: rest) ++ newLine level ++ [']'])
  | .object [] => ['\x7b', '\x7d']
  | .object (field :: rest) =>
      '\x7b' :: (indentedFields (level + 1) (field :: rest) ++ newLine level ++ ['\x7d'])

def indentedItems (level : Nat) : List Json → Text
  | [] => []
  | [item] => newLine level ++ indented level item
  | item :: next :: rest =>
      newLine level ++ indented level item ++ ',' :: indentedItems level (next :: rest)

def indentedFields (level : Nat) : List (LooseText × Json) → Text
  | [] => []
  | [(key, value)] => newLine level ++ stringText key ++ ": ".toList ++ indented level value
  | (key, value) :: next :: rest =>
      newLine level ++ stringText key ++ ": ".toList ++ indented level value ++
        ',' :: indentedFields level (next :: rest)

end

def pretty (value : Json) : Text :=
  indented 0 value

end Json

end SnippetSearch
