import SnippetSearch.Engine.Search
import SnippetSearch.Json.Reader
import SnippetSearch.Text.EncodingForm
import SnippetSearch.Text.UserInteger

/-!
# Requests to the server

A request has a method, a target and perhaps a body.  The body of a search is
a JSON object with a query and perhaps a number of results, which may also be
written as a text, as a number with an empty fraction or as a truth value.
The refusal of a body quotes what is wrong in it, which cannot be done for
every value.
-/

namespace SnippetSearch

structure Request where
  method : Text
  target : Text
  body : List UInt8
deriving Repr, DecidableEq

structure SearchOrder where
  query : LooseText
  limit : Nat
deriving Repr, DecidableEq

/-- Why a body is no order for a search. -/
inductive BodyError where
  | unreadable
  | invalid
  | unquotable
deriving Repr, DecidableEq

namespace SearchOrder

/-! ## Numbers -/

def fractionLimit : Nat := Nat.pow 2 63

/-- The integer that a floating-point number is, if it is one below the limit. -/
def integerOfFloat? (number : Float) : Option Int :=
  match Decimal.Exact.ofFloat number with
  | .notANumber | .infinite _ => none
  | .finite negative mantissa exponent =>
      let size? : Option Nat :=
        match exponent with
        | .ofNat power => some (mantissa * Nat.pow 2 power)
        | .negSucc power =>
            let divisor := Nat.pow 2 (power + 1)
            if mantissa % divisor = 0 then some (mantissa / divisor) else none
      (size?.filter fun size => decide (size < fractionLimit)).map fun size =>
        if negative then -(size : Int) else size

def integer? : Json → Option Int
  | .number (.integer value) => some value
  | .number number => integerOfFloat? number.toFloat
  | .bool value => some (if value then 1 else 0)
  | .text value => value.text?.bind Text.userInteger?
  | .null | .array _ | .object _ => none

def limit? (value : Json) : Option Nat :=
  match integer? value with
  | some (.ofNat limit) => some limit
  | some (.negSucc _) | none => none

/-! ## Refusals -/

/-- Names that start so belong to bookkeeping, and their fields are never quoted. -/
def hiddenStart : LooseText := .ofText "_sa".toList

mutual

/-- Whether a value can be quoted: all numbers in it are finite, and no text holds a half. -/
def isQuotable : Json → Bool
  | .null | .bool _ => true
  | .number (.integer _) => true
  | .number value => Decimal.isFinite value.toFloat
  | .text value => !value.hasHalf
  | .array items => areQuotable items
  | .object fields => haveQuotable fields

def areQuotable : List Json → Bool
  | [] => true
  | item :: rest => isQuotable item && areQuotable rest

/-- Whether all fields can be quoted, apart from hidden ones and those that a later one replaces. -/
def haveQuotable : List (LooseText × Json) → Bool
  | [] => true
  | (name, value) :: rest =>
      (hiddenStart.isPrefixOf name || rest.any (fun field => field.1 == name) ||
        (!name.hasHalf && isQuotable value)) && haveQuotable rest

end

/-! ## Bodies -/

def queryName : Text := "query".toList

/-- The names of the field for the number of results, the one that wins first. -/
def limitNames : List Text := ["topK".toList, "top_k".toList]

def limitField? (body : Json) : Option Json :=
  limitNames.findSome? body.field?

/-- The query that a body asks for, or the value that is refused. -/
def queryOf (body : Json) : Except Json LooseText :=
  match body.field? queryName with
  | some (.text query) => .ok query
  | some value => .error value
  | none => .error body

/-- The number of results that a body asks for, or the value that is refused. -/
def limitOf (body : Json) : Except Json Nat :=
  match limitField? body with
  | none => .ok defaultLimit
  | some value =>
      match limit? value with
      | some limit => .ok limit
      | none => .error value

def refuse (values : List Json) : BodyError :=
  if values.all isQuotable then .invalid else .unquotable

def ofJson (body : Json) : Except BodyError SearchOrder :=
  match queryOf body, limitOf body with
  | .ok query, .ok limit => .ok ⟨query, limit⟩
  | .ok _, .error value => .error (refuse [value])
  | .error value, .ok _ => .error (refuse [value])
  | .error first, .error second => .error (refuse [first, second])

def ofBody (body : List UInt8) : Except BodyError SearchOrder :=
  match LooseText.ofBytes? body with
  | none => .error .unreadable
  | some text =>
      match Json.read text with
      | .error .malformed => .error .invalid
      | .error .numeralTooLong | .error .tooDeep => .error .unreadable
      | .ok value => ofJson value

end SearchOrder

end SnippetSearch
