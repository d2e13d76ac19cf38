import SnippetSearch.Json.Basic
import SnippetSearch.Text.Integer

/-!
# Reading JSON

A loose text is first cut into tokens and then read by a machine with a stack
of frames, one for every array and object that is still open.  A malformed
text is refused; an integer of too many digits and too many open frames are
refused for reasons of their own.
-/

namespace SnippetSearch

namespace Json

inductive ReadError where
  | malformed
  | numeralTooLong
  | tooDeep
deriving Repr, DecidableEq

/-- The tokens of JSON texts; a text that cannot be cut further ends in a broken one. -/
inductive Token where
  | openArray
  | closeArray
  | openObject
  | closeObject
  | comma
  | colon
  | text (value : LooseText)
  | scalar (value : Json)
  | broken (error : ReadError)
deriving Repr

/-! ## Strings -/

/-- A piece of a string: a code point that stands there, or a code that an escape writes. -/
inductive StringUnit where
  | plain (point : CodePoint)
  | escaped (code : Nat)
deriving Repr, DecidableEq

def shortEscape? : Char → Option Char
  | '"' => some '"'
  | '\\' => some '\\'
  | '/' => some '/'
  | 'b' => some '\x08'
  | 'f' => some '\x0C'
  | 'n' => some '\n'
  | 'r' => some '\r'
  | 't' => some '\t'
  | _ => none

/-- Whether a code point may stand in a string without an escape. -/
def isPlain (point : CodePoint) : Bool :=
  0x20 ≤ point.code && point != .whole '\\'

/-- The units of a string up to its closing quote, and what follows. -/
def stringUnits? : LooseText → Option (List StringUnit × LooseText)
  | [] => none
  | .whole '"' :: rest => some ([], rest)
  | .whole '\\' :: .whole 'u' :: .whole a :: .whole b :: .whole c :: .whole d :: rest => do
      let code :=
        (((← Text.hexValue? a) * 16 + (← Text.hexValue? b)) * 16 + (← Text.hexValue? c)) * 16 +
          (← Text.hexValue? d)
      let (units, following) ← stringUnits? rest
      some (.escaped code :: units, following)
  | .whole '\\' :: .whole letter :: rest => do
      let character ← shortEscape? letter
      let (units, following) ← stringUnits? rest
      some (.plain (.whole character) :: units, following)
  | point :: rest =>
      if isPlain point then
        (stringUnits? rest).map fun (units, following) => (.plain point :: units, following)
      else
        none

/-- The code points of the units; the escapes of two halves that belong together make one. -/
def joinEscapes : List StringUnit → LooseText
  | [] => []
  | .plain point :: rest => point :: joinEscapes rest
  | .escaped high :: .escaped low :: rest =>
      match CodePoint.joined? high low with
      | some character => .whole character :: joinEscapes rest
      | none => .ofCode high :: joinEscapes (.escaped low :: rest)
  | .escaped code :: rest => .ofCode code :: joinEscapes rest

/-! ## Numbers -/

def spanDigits : LooseText → Text × LooseText
  | .whole character :: rest =>
      if character.isDigit then
        let (digits, following) := spanDigits rest
        (character :: digits, following)
      else
        ([], .whole character :: rest)
  | source => ([], source)

def digitsValue (digits : Text) : Nat :=
  Text.ofDigits (digits.map fun digit => digit.toNat - '0'.toNat)

/-- The digits of the whole part at the start of a text, where none follows a leading zero. -/
def spanWhole : LooseText → Text × LooseText
  | .whole '0' :: rest => (['0'], rest)
  | source => spanDigits source

/-- The digits of a fraction at the start of a text, if there is one, and what follows. -/
def spanFraction : LooseText → Option Text × LooseText
  | .whole '.' :: rest =>
      let (digits, following) := spanDigits rest
      if digits.isEmpty then (none, .whole '.' :: rest) else (some digits, following)
  | source => (none, source)

/-- The sign at the start of a text, which is negative or not, and what follows. -/
def spanSign : LooseText → Bool × LooseText
  | .whole '-' :: rest => (true, rest)
  | .whole '+' :: rest => (false, rest)
  | source => (false, source)

/-- The exponent at the start of a text, if there is one, and what follows. -/
def spanExponent : LooseText → Option Int × LooseText
  | .whole mark :: rest =>
      let (negative, unsigned) := spanSign rest
      let (digits, following) := spanDigits unsigned
      if (mark == 'e' || mark == 'E') && !digits.isEmpty then
        let size : Int := digitsValue digits
        (some (if negative then -size else size), following)
      else
        (none, .whole mark :: rest)
  | source => (none, source)

/--
The number at the start of a text without sign, and what follows; an integer may
have so many digits at most.
-/
def spanNumber (maxDigits : Nat) (negative : Bool) (source : LooseText) : Token × LooseText :=
  let (whole, following) := spanWhole source
  if whole.isEmpty then
    (.broken .malformed, [])
  else
    let (fraction, following) := spanFraction following
    let (exponent, following) := spanExponent following
    if fraction.isNone && exponent.isNone then
      if maxDigits < whole.length then
        (.broken .numeralTooLong, [])
      else
        let size : Int := digitsValue whole
        (.scalar (.number (.integer (if negative then -size else size))), following)
    else
      let fraction := fraction.getD []
      let exponent := exponent.getD 0 - fraction.length
      (.scalar (.number (.decimal negative (digitsValue (whole ++ fraction)) exponent)), following)

/-! ## Tokens -/

def isSpace (point : CodePoint) : Bool :=
  point == .whole ' ' || point == .whole '\t' || point == .whole '\n' || point == .whole '\r'

/-- The words that are values, longer ones before their beginnings. -/
def words : List (LooseText × Json) :=
  [(.ofText "null".toList, .null), (.ofText "true".toList, .bool true),
   (.ofText "false".toList, .bool false), (.ofText "NaN".toList, .number .notANumber),
   (.ofText "Infinity".toList, .number (.infinite false)),
   (.ofText "-Infinity".toList, .number (.infinite true))]

/-- The token at the start of a text that does not start with space, and what follows. -/
def spanToken (maxDigits : Nat) : LooseText → Token × LooseText
  | .whole '[' :: rest => (.openArray, rest)
  | .whole ']' :: rest => (.closeArray, rest)
  | .whole '\x7b' :: rest => (.openObject, rest)
  | .whole '\x7d' :: rest => (.closeObject, rest)
  | .whole ',' :: rest => (.comma, rest)
  | .whole ':' :: rest => (.colon, rest)
  | .whole '"' :: rest =>
      match stringUnits? rest with
      | none => (.broken .malformed, [])
      | some (units, following) => (.text (joinEscapes units), following)
  | source =>
      match words.find? fun word => word.1.isPrefixOf source with
      | some word => (.scalar word.2, source.drop word.1.length)
      | none =>
          match source with
          | .whole '-' :: unsigned => spanNumber maxDigits true unsigned
          | _ => spanNumber maxDigits false source

def tokensWithin (maxDigits : Nat) : Nat → LooseText → List Token
  | 0, _ => []
  | count + 1, source =>
      match source.dropWhile isSpace with
      | [] => []
      | point :: rest =>
          let (token, following) := spanToken maxDigits (point :: rest)
          token :: tokensWithin maxDigits count following

/-- The tokens of a text, each of which takes at least one code point. -/
def tokens (maxDigits : Nat) (text : LooseText) : List Token :=
  tokensWithin maxDigits text.length text

/-! ## Values -/

/-- An open array or object with what it holds so far, the newest first. -/
inductive Frame where
  | array (items : List Json)
  | object (fields : List (LooseText × Json)) (key : LooseText)
deriving Repr

/-- What the reader has just seen, or waits for. -/
inductive Reader where
  | beforeValue (frames : List Frame)
  | afterValue (value : Json) (frames : List Frame)
  | beforeKey (fields : List (LooseText × Json)) (frames : List Frame)
  | afterKey (fields : List (LooseText × Json)) (key : LooseText) (frames : List Frame)
deriving Repr

namespace Reader

/-- The reader inside one more array or object, if no more than the given number are open then. -/
def opened (levels : Nat) (frames : List Frame) (inside : Reader) : Except ReadError Reader :=
  if frames.length < levels then .ok inside else .error .tooDeep

/-- The reader after one more token, with at most so many arrays and objects open at once. -/
def step (levels : Nat) : Reader → Token → Except ReadError Reader
  | .beforeValue _, .broken error => .error error
  | .beforeValue frames, .scalar value => .ok (.afterValue value frames)
  | .beforeValue frames, .text value => .ok (.afterValue (.text value) frames)
  | .beforeValue frames, .openArray => opened levels frames (.beforeValue (.array [] :: frames))
  | .beforeValue frames, .openObject => opened levels frames (.beforeKey [] frames)
  | .beforeValue (.array [] :: frames), .closeArray => .ok (.afterValue (.array []) frames)
  | .afterValue value (.array items :: frames), .comma =>
      .ok (.beforeValue (.array (value :: items) :: frames))
  | .afterValue value (.array items :: frames), .closeArray =>
      .ok (.afterValue (.array (value :: items).reverse) frames)
  | .afterValue value (.object fields key :: frames), .comma =>
      .ok (.beforeKey ((key, value) :: fields) frames)
  | .afterValue value (.object fields key :: frames), .closeObject =>
      .ok (.afterValue (.object ((key, value) :: fields).reverse) frames)
  | .beforeKey [] frames, .closeObject => .ok (.afterValue (.object []) frames)
  | .beforeKey fields frames, .text key => .ok (.afterKey fields key frames)
  | .afterKey fields key frames, .colon => .ok (.beforeValue (.object fields key :: frames))
  | _, _ => .error .malformed

def result : Reader → Except ReadError Json
  | .afterValue value [] => .ok value
  | _ => .error .malformed

end Reader

/--
The value that a text writes with at most so many arrays and objects open at
once, and with integers of at most so many digits.
-/
def readBounded (levels maxDigits : Nat) (text : LooseText) : Except ReadError Json := do
  let reader ← (tokens maxDigits text).foldlM (Reader.step levels) (.beforeValue [])
  reader.result

/-- The value that a text writes with at most so many arrays and objects open at once. -/
def readWithin (levels : Nat) (text : LooseText) : Except ReadError Json :=
  readBounded levels Text.maxDigits text

def maxLevels : Nat := 950

def read (text : LooseText) : Except ReadError Json :=
  readWithin maxLevels text

end Json

end SnippetSearch
