import SnippetSearch.Text.Encoding
import SnippetSearch.Text.Loose

/-!
# Encoding forms

A text is sent as bytes in units of one, two or four of them.  Which form it
is in can be told from the bytes themselves: by a mark at their start, or by
the zero bytes among the first four, since a text in a data format starts
with an ASCII character.  Halves of surrogate pairs are let through in every
form; bytes that make no code point are refused.
-/

namespace SnippetSearch

/-- Which byte of a unit comes first. -/
inductive ByteOrder where
  | highFirst
  | lowFirst
deriving Repr, DecidableEq

/-- The form in which bytes write a text. -/
inductive EncodingForm where
  | utf8
  | utf16 (order : ByteOrder)
  | utf32 (order : ByteOrder)
deriving Repr, DecidableEq

namespace EncodingForm

/-! ## Units of one byte -/

/-- The lowest code that may be written with the given number of bytes after the first. -/
def lowestCode : Nat → Nat
  | 0 => 0
  | 1 => 0x80
  | 2 => 0x800
  | _ => 0x10000

def highestCode : Nat := 0x10FFFF

/-- What the first byte of a code point says: how many bytes follow, and its highest bits. -/
def leadByte? (byte : Nat) : Option (Nat × Nat) :=
  if byte < 0x80 then some (0, byte)
  else if byte < 0xC0 then none
  else if byte < 0xE0 then some (1, byte - 0xC0)
  else if byte < 0xF0 then some (2, byte - 0xE0)
  else if byte < 0xF8 then some (3, byte - 0xF0)
  else none

/-- The code whose highest bits are given and whose other bits the next bytes hold, and the rest. -/
def continued? : Nat → Nat → List UInt8 → Option (Nat × List UInt8)
  | 0, code, bytes => some (code, bytes)
  | _ + 1, _, [] => none
  | count + 1, code, byte :: rest =>
      if 0x80 ≤ byte.toNat ∧ byte.toNat < 0xC0 then
        continued? count (0x40 * code + (byte.toNat - 0x80)) rest
      else
        none

def firstPoint? : List UInt8 → Option (CodePoint × List UInt8)
  | [] => none
  | byte :: rest => do
      let (count, bits) ← leadByte? byte.toNat
      let (code, following) ← continued? count bits rest
      if lowestCode count ≤ code ∧ code ≤ highestCode then
        some (.ofCode code, following)
      else
        none

/-- The code points of bytes in the form of single bytes, each of which takes at least one. -/
def pointsWithin? : Nat → List UInt8 → Option LooseText
  | _, [] => some []
  | 0, _ :: _ => none
  | count + 1, byte :: rest => do
      let (point, following) ← firstPoint? (byte :: rest)
      (pointsWithin? count following).map (point :: ·)

/-! ## Wider units -/

def unitOf (order : ByteOrder) (bytes : List UInt8) : Nat :=
  let highFirst := match order with
    | .highFirst => bytes
    | .lowFirst => bytes.reverse
  highFirst.foldl (fun value byte => 0x100 * value + byte.toNat) 0

def shortUnits? (order : ByteOrder) : List UInt8 → Option (List Nat)
  | [] => some []
  | first :: second :: rest =>
      (shortUnits? order rest).map (unitOf order [first, second] :: ·)
  | [_] => none

def longUnits? (order : ByteOrder) : List UInt8 → Option (List Nat)
  | [] => some []
  | first :: second :: third :: fourth :: rest =>
      (longUnits? order rest).map (unitOf order [first, second, third, fourth] :: ·)
  | _ => none

/-- The code points of units of two bytes; two halves that belong together are one of them. -/
def joinUnits : List Nat → LooseText
  | [] => []
  | [unit] => [.ofCode unit]
  | first :: second :: rest =>
      match CodePoint.joined? first second with
      | some character => .whole character :: joinUnits rest
      | none => .ofCode first :: joinUnits (second :: rest)

/-! ## Decoding -/

def decode? : EncodingForm → List UInt8 → Option LooseText
  | .utf8, bytes => pointsWithin? bytes.length bytes
  | .utf16 order, bytes => (shortUnits? order bytes).map joinUnits
  | .utf32 order, bytes => do
      let units ← longUnits? order bytes
      if units.all fun unit => decide (unit ≤ highestCode) then
        some (units.map .ofCode)
      else
        none

/-- The marks that tell the form of the bytes after them, longer ones before their beginnings. -/
def marks : List (List UInt8 × EncodingForm) :=
  [([0x00, 0x00, 0xFE, 0xFF], .utf32 .highFirst), ([0xFF, 0xFE, 0x00, 0x00], .utf32 .lowFirst),
   ([0xFE, 0xFF], .utf16 .highFirst), ([0xFF, 0xFE], .utf16 .lowFirst),
   (Text.byteOrderMark, .utf8)]

/-- The form of bytes without a mark, told by the zeros among the first of them. -/
def ofZeros : List UInt8 → EncodingForm
  | first :: second :: third :: fourth :: _ =>
      if first = 0 then
        if second = 0 then .utf32 .highFirst else .utf16 .highFirst
      else if second = 0 then
        if third = 0 ∧ fourth = 0 then .utf32 .lowFirst else .utf16 .lowFirst
      else
        .utf8
  | [first, second] =>
      if first = 0 then .utf16 .highFirst
      else if second = 0 then .utf16 .lowFirst
      else .utf8
  | _ => .utf8

end EncodingForm

def LooseText.ofBytes? (bytes : List UInt8) : Option LooseText :=
  match EncodingForm.marks.find? fun mark => mark.1.isPrefixOf bytes with
  | some (mark, form) => form.decode? (bytes.drop mark.length)
  | none => (EncodingForm.ofZeros bytes).decode? bytes

end SnippetSearch
