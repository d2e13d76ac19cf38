import SnippetSearch.Text.Loose

/-!
# JSON values

Numbers keep the difference between an integer and a number with a decimal
point or an exponent.  Besides the numbers of the standard there are the
three undefined and infinite ones that many writers produce.  The fields of
an object are kept in order, and the last field of a name is the one that
counts.  Texts and names are loose, because an escape can write one half of a
surrogate pair alone.
-/

namespace SnippetSearch

namespace Json

inductive Number where
  | integer (value : Int)
  | decimal (negative : Bool) (mantissa : Nat) (exponent : Int)
  | notANumber
  | infinite (negative : Bool)
deriving Repr, DecidableEq

end Json

inductive Json where
  | null
  | bool (value : Bool)
  | number (value : Json.Number)
  | text (value : LooseText)
  | array (items : List Json)
  | object (fields : List (LooseText × Json))
deriving Repr

namespace Json

def ofInt (value : Int) : Json :=
  .number (.integer value)

def ofNat (value : Nat) : Json :=
  .number (.integer value)

def ofText (text : Text) : Json :=
  .text (.ofText text)

def record (fields : List (Text × Json)) : Json :=
  .object (fields.map fun (name, value) => (.ofText name, value))

/-- The text that a JSON value is, if it is one without halves. -/
def text? : Json → Option Text
  | .text value => value.text?
  | _ => none

/-- The last field of the given loose name, if the value is an object that has one. -/
def member? (name : LooseText) : Json → Option Json
  | .object fields => fields.reverse.lookup name
  | _ => none

/-- The last field of the given name, if the value is an object that has one. -/
def field? (name : Text) (value : Json) : Option Json :=
  value.member? (.ofText name)

namespace Number

/-- The decimal exponent beyond which a number with a nonzero mantissa is surely infinite. -/
def exponentLimit : Int := 400

def toFloat : Number → Float
  | .integer value =>
      if value < 0 then -(Float.ofScientific value.natAbs false 0)
      else Float.ofScientific value.natAbs false 0
  | .decimal negative mantissa exponent =>
      let digits : Int := (Nat.toDigits 10 mantissa).length
      let size : Float :=
        if mantissa = 0 || exponent + digits < -exponentLimit then 0
        else if exponentLimit < exponent + digits then 1 / 0
        else if 0 ≤ exponent then Float.ofScientific (mantissa * Nat.pow 10 exponent.toNat) false 0
        else Float.ofScientific mantissa true exponent.natAbs
      if negative then -size else size
  | .notANumber => 0 / 0
  | .infinite negative => if negative then -1 / 0 else 1 / 0

end Number

end Json

end SnippetSearch
