import SnippetSearch.Text.Integer

/-!
# Integers as users write them

On a command line and in a request an integer may be written with blank space
around it, a sign, zeros in front, single underscores between its digits, and
a point with zeros after it.  Only ASCII digits count.  Among the zeros in
front underscores may stand in any number, and a minus sign may follow them.
-/

namespace SnippetSearch

namespace Text

def isCountingDigit (character : Char) : Bool :=
  '1' ≤ character && character ≤ '9'

/-- What is left once zeros and underscores have been passed over, the last of which is given. -/
def afterZeros? (last : Char) : Text → Option Text
  | [] => some [last]
  | character :: rest =>
      if character = '0' || character = '_' then afterZeros? character rest
      else if isCountingDigit character || character = '-' then some (character :: rest)
      else if character = '.' then some (last :: character :: rest)
      else none

/-- The numeral without the zeros in front, of which one is kept where no other digit follows. -/
def withoutZeros? : Text → Option Text
  | [] => none
  | character :: rest =>
      if character = '0' then afterZeros? character rest
      else if isCountingDigit character || character = '-' then some (character :: rest)
      else none

/-- The numeral without a point and the zeros after it; nothing else may follow a point. -/
def withoutFraction? (numeral : Text) : Option Text :=
  match numeral.dropWhile (· != '.') with
  | [] => some numeral
  | _ :: fraction =>
      if !fraction.isEmpty && fraction.all (· == '0') then some (numeral.takeWhile (· != '.'))
      else none

/-- The numeral without its underscores, none of which may stand at an end or beside another. -/
def withoutUnderscores? (numeral : Text) : Option Text :=
  let groups := cut '_' numeral
  if groups.any List.isEmpty then none else some groups.flatten

/-- The integer that a sign and digits without zeros in front write, unless they are too many. -/
def plainInteger? (numeral : Text) : Option Int :=
  let (negative, digits) :=
    match numeral with
    | '-' :: digits => (true, digits)
    | digits => (false, digits)
  let wellFormed :=
    digits == ['0'] || ((digits.head?.any isCountingDigit) && digits.all Char.isDigit)
  if wellFormed && numeral.length ≤ maxDigits then
    let size : Int := ofDigits (digits.map fun digit => digit.toNat - '0'.toNat)
    some (if negative then -size else size)
  else
    none

def userInteger? (numeral : Text) : Option Int := do
  let blank := isNumeralBlank
  let core := ((numeral.dropWhile blank).reverse.dropWhile blank).reverse
  let (sign, unsigned) :=
    match core with
    | '-' :: unsigned => (['-'], unsigned)
    | '+' :: '-' :: _ => ([], [])
    | '+' :: unsigned => ([], unsigned)
    | unsigned => ([], unsigned)
  let digits ← withoutZeros? unsigned
  let whole ← withoutFraction? digits
  let plain ← withoutUnderscores? whole
  plainInteger? (sign ++ plain)

end Text

end SnippetSearch
