import SnippetSearch.Decimal
import SnippetSearch.Json.Basic

/-!
# The shortest decimal number

A floating-point number is written as the decimal number with the fewest
digits that is read as the same floating-point number again, and as the nearest
one among several of these.  A whole number gets a point and a zero behind it
unless it is very large.
-/

namespace SnippetSearch

namespace Json.Number

def ofUnits (negative : Bool) (units : Nat) (exponent : Int) : Number :=
  if 0 ≤ exponent && (Text.ofNat units).length + exponent ≤ Decimal.maxWholeDigits then
    .decimal negative (units * Nat.pow 10 (exponent.toNat + 1)) (-1)
  else
    .decimal negative units exponent

/-- The numbers with so many decimal places on both sides of `mantissa * 2 ^ exponent`. -/
def around (negative : Bool) (mantissa : Nat) (exponent places : Int) : List Number :=
  (Decimal.neighbours
    (mantissa * Nat.pow 2 exponent.toNat * Nat.pow 10 places.toNat)
    (Nat.pow 2 (-exponent).toNat * Nat.pow 10 (-places).toNat)).map fun units =>
      ofUnits negative units (-places)

/-- The places that no number can do without, of which a negative count rounds whole digits. -/
def fewestPlaces : Int := -308

/-- The places with which every number can be written exactly. -/
def mostPlaces : Nat := 1074

def shortest? (number : Float) (negative : Bool) (mantissa : Nat) (exponent : Int) :
    Option Number :=
  (List.range (mostPlaces - fewestPlaces + 1).toNat).findSome? fun (count : Nat) =>
    (around negative mantissa exponent (fewestPlaces + count)).find? fun candidate =>
      candidate.toFloat.toBits == number.toBits

def ofFloat (number : Float) : Number :=
  match Decimal.Exact.ofFloat number with
  | .notANumber => .notANumber
  | .infinite negative => .infinite negative
  | .finite negative mantissa exponent =>
      let zero := .decimal negative 0 (-1)
      if mantissa = 0 then zero else (shortest? number negative mantissa exponent).getD zero

end Json.Number

end SnippetSearch
