import SnippetSearch.Text.Integer

/-!
# Floating-point numbers in fixed decimal places

A binary floating-point number is a whole multiple of a power of two.  Its
decimal text with a fixed number of places is the nearest multiple of the
last place, computed exactly; a number half way between two of them goes to
the even one.
-/

namespace SnippetSearch

namespace Decimal

/-- The exact value of a floating-point number, `mantissa * 2 ^ exponent` if it is finite. -/
inductive Exact where
  | notANumber
  | infinite (negative : Bool)
  | finite (negative : Bool) (mantissa : Nat) (exponent : Int)
deriving Repr, DecidableEq

/-- The exact value of a floating-point number, read off its bits. -/
def Exact.ofFloat (number : Float) : Exact :=
  let bits : Nat := number.toBits.toNat
  let negative := decide (Nat.pow 2 63 ≤ bits)
  let field : Nat := bits / Nat.pow 2 52 % Nat.pow 2 11
  let fraction : Nat := bits % Nat.pow 2 52
  if field = Nat.pow 2 11 - 1 then
    if fraction = 0 then .infinite negative else .notANumber
  else if field = 0 then
    .finite negative fraction (-1074)
  else
    .finite negative (fraction + Nat.pow 2 52) ((field : Int) - 1075)

/-- The whole number nearest to a quotient; a half goes to the even neighbour. -/
def roundedQuotient (numerator denominator : Nat) : Nat :=
  let quotient := numerator / denominator
  let remainder := numerator % denominator
  if denominator < 2 * remainder ∨ (2 * remainder = denominator ∧ quotient % 2 = 1) then
    quotient + 1
  else
    quotient

/-- The natural numbers on both sides of a quotient, the nearest one first. -/
def neighbours (numerator denominator : Nat) : List Nat :=
  let nearest := roundedQuotient numerator denominator
  if nearest * denominator ≤ numerator then [nearest, nearest + 1] else [nearest, nearest - 1]

/-- `mantissa * 2 ^ exponent` in units of the last of the given decimal places. -/
def inLastPlace (places mantissa : Nat) : Int → Nat
  | .ofNat exponent => mantissa * Nat.pow 2 exponent * Nat.pow 10 places
  | .negSucc exponent => roundedQuotient (mantissa * Nat.pow 10 places) (Nat.pow 2 (exponent + 1))

def paddedDigits (width number : Nat) : Text :=
  let digits := Text.ofNat number
  List.replicate (width - digits.length) '0' ++ digits

/-- How numbers are written: the decimal places, and whether zero keeps a minus sign. -/
structure Format where
  places : Nat
  signedZero : Bool
deriving Repr, DecidableEq

/-- The most digits in front of a point; larger numbers have an exponent. -/
def maxWholeDigits : Int := 16

/-- The most zeros right behind a point; smaller numbers have an exponent. -/
def maxLeadingZeros : Int := 3

/-- A count of units of the last place as a decimal text without sign. -/
def unsignedText (places units : Nat) : Text :=
  let scale := Nat.pow 10 places
  let whole := Text.ofNat (units / scale)
  if places = 0 then whole else whole ++ '.' :: paddedDigits places (units % scale)

def Format.textOfExact (format : Format) : Exact → Text
  | .notANumber => "nan".toList
  | .infinite true => "-inf".toList
  | .infinite false => "inf".toList
  | .finite negative mantissa exponent =>
      let units := inLastPlace format.places mantissa exponent
      let body := unsignedText format.places units
      if negative && (format.signedZero || units != 0) then '-' :: body else body

def Format.text (format : Format) (number : Float) : Text :=
  format.textOfExact (Exact.ofFloat number)

def isFinite (number : Float) : Bool :=
  match Exact.ofFloat number with
  | .finite .. => true
  | .notANumber | .infinite _ => false

end Decimal

end SnippetSearch
