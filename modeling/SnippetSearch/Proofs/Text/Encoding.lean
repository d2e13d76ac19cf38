import SnippetSearch.Text.Encoding

/-!
# Writing and reading files

A text can be written with line feeds, carriage returns or both at the ends
of its lines, and with or without a byte order mark.  Reading undoes each of
these ways, unless the text itself holds a carriage return or starts with the
character that the mark stands for.
-/

namespace SnippetSearch

namespace Text

def markCharacter : Char := '\uFEFF'

inductive Newline where
  | lineFeed
  | carriageReturn
  | both
deriving Repr, DecidableEq

def Newline.text : Newline → Text
  | .lineFeed => ['\n']
  | .carriageReturn => ['\r']
  | .both => ['\r', '\n']

def Newline.write (newline : Newline) (text : Text) : Text :=
  text.flatMap fun character => if character = '\n' then newline.text else [character]

/-- How a text is written to a file: its line feeds, and whether a mark comes first. -/
structure FileEncoding where
  newline : Newline
  marked : Bool
deriving Repr, DecidableEq

def FileEncoding.bytes (encoding : FileEncoding) (text : Text) : List UInt8 :=
  (if encoding.marked then byteOrderMark else []) ++ toUtf8 (encoding.newline.write text)

/-! ## Line feeds -/

namespace Newline

theorem write_cons (newline : Newline) (character : Char) (rest : Text) :
    newline.write (character :: rest) =
      (if character = '\n' then newline.text else [character]) ++ newline.write rest := rfl

theorem lineFeed_not_mem_write (text : Text) : '\n' ∉ carriageReturn.write text := by
  intro written
  obtain ⟨character, _, produced⟩ := List.mem_flatMap.mp written
  split at produced
  · simp [Newline.text] at produced
  · next other => exact other (List.mem_singleton.mp produced).symm

/-- However line feeds are written, a text starts with the character of the mark only by itself. -/
theorem head?_write_ne {text : Text} (unmarked : text.head? ≠ some markCharacter)
    (newline : Newline) : (newline.write text).head? ≠ some markCharacter := by
  cases text with
  | nil => exact unmarked
  | cons character rest =>
      rw [write_cons]
      split
      · have noFeed : '\n' ≠ markCharacter := by decide
        have noReturn : '\r' ≠ markCharacter := by decide
        cases newline with
        | lineFeed => exact fun same => noFeed (Option.some.inj same)
        | carriageReturn => exact fun same => noReturn (Option.some.inj same)
        | both => exact fun same => noReturn (Option.some.inj same)
      · exact unmarked

end Newline

theorem unifyNewlines_pair (rest : Text) :
    unifyNewlines ('\r' :: '\n' :: rest) = '\n' :: unifyNewlines rest := by
  rw [unifyNewlines]

theorem unifyNewlines_return {rest : Text} (alone : '\n' ∉ rest) :
    unifyNewlines ('\r' :: rest) = '\n' :: unifyNewlines rest := by
  rw [unifyNewlines, if_pos rfl]
  rintro after ⟨⟩ rfl
  exact alone List.mem_cons_self

theorem unifyNewlines_of_ne {character : Char} (other : character ≠ '\r') (rest : Text) :
    unifyNewlines (character :: rest) = character :: unifyNewlines rest := by
  rw [unifyNewlines, if_neg other]
  rintro after rfl
  exact absurd rfl other

/-- However line feeds are written, they are read again. -/
theorem unifyNewlines_write {text : Text} (plain : '\r' ∉ text) (newline : Newline) :
    unifyNewlines (newline.write text) = text := by
  induction text with
  | nil => rfl
  | cons character rest ih =>
      obtain ⟨other, plainRest⟩ := not_or.mp (mt List.mem_cons.mpr plain)
      have readRest := ih plainRest
      rw [Newline.write_cons]
      by_cases feed : character = '\n'
      · rw [if_pos feed, feed]
        cases newline with
        | lineFeed => exact (unifyNewlines_of_ne (by decide) _).trans (congrArg _ readRest)
        | both => exact (unifyNewlines_pair _).trans (congrArg _ readRest)
        | carriageReturn =>
            exact (unifyNewlines_return (Newline.lineFeed_not_mem_write rest)).trans
              (congrArg _ readRest)
      · rw [if_neg feed]
        exact (unifyNewlines_of_ne (Ne.symm other) _).trans (congrArg _ readRest)

/-! ## Bytes -/

theorem toUtf8_eq_flatMap (text : Text) : toUtf8 text = text.flatMap String.utf8EncodeChar := by
  rw [toUtf8, String.toByteArray_ofList, List.utf8Encode, List.data_toByteArray]

theorem toUtf8_cons (character : Char) (rest : Text) :
    toUtf8 (character :: rest) = String.utf8EncodeChar character ++ toUtf8 rest := by
  rw [toUtf8_eq_flatMap, toUtf8_eq_flatMap, List.flatMap_cons]

/-- The bytes of a text are read again. -/
theorem ofUtf8?_toUtf8 (text : Text) : ofUtf8? (toUtf8 text) = some text := by
  have bytes_eq : (toUtf8 text).toByteArray = (String.ofList text).toByteArray :=
    ByteArray.ext List.data_toByteArray
  rw [ofUtf8?, bytes_eq, String.fromUTF8?, dif_pos (String.isValidUTF8 _)]
  exact congrArg some String.toList_ofList

theorem utf8EncodeChar_markCharacter : String.utf8EncodeChar markCharacter = byteOrderMark := by
  decide

/-- Bytes that start with those of a character, and with the mark, start with its character. -/
theorem eq_markCharacter_of_append_eq {character : Char} {rest bytes : List UInt8}
    (same : String.utf8EncodeChar character ++ rest = byteOrderMark ++ bytes) :
    character = markCharacter := by
  have first (character : Char) (rest : List UInt8) :
      (String.utf8EncodeChar character ++ rest).toByteArray.utf8DecodeChar? 0 =
        some character := by
    rw [List.toByteArray_append]
    exact ByteArray.utf8DecodeChar?_utf8EncodeChar_append
  have decoded := first character rest
  rw [same, ← utf8EncodeChar_markCharacter, first] at decoded
  exact (Option.some.inj decoded).symm

/-- A text that does not start with the character of the mark shares no bytes with the mark. -/
theorem not_prefix_mark {character : Char} (unmarked : character ≠ markCharacter) (rest : Text) :
    ¬ toUtf8 (character :: rest) <+: byteOrderMark ∧
      ¬ byteOrderMark <+: toUtf8 (character :: rest) := by
  rw [toUtf8_cons]
  constructor
  · rintro ⟨bytes, same⟩
    rw [List.append_assoc, ← List.append_nil byteOrderMark] at same
    exact unmarked (eq_markCharacter_of_append_eq same)
  · rintro ⟨bytes, same⟩
    exact unmarked (eq_markCharacter_of_append_eq same.symm)

/-! ## Files -/

theorem ofFileBytes?_toUtf8 {text : Text} (unmarked : text.head? ≠ some markCharacter) :
    ofFileBytes? (toUtf8 text) = some (unifyNewlines text) := by
  cases text with
  | nil => rfl
  | cons character rest =>
      obtain ⟨notWithin, notBefore⟩ :=
        not_prefix_mark (fun same => unmarked (congrArg some same)) rest
      rw [ofFileBytes?, if_neg (mt List.isPrefixOf_iff_prefix.mp notWithin),
        if_neg (mt List.isPrefixOf_iff_prefix.mp notBefore), ofUtf8?_toUtf8]
      rfl

theorem ofFileBytes?_mark_append (text : Text) :
    ofFileBytes? (byteOrderMark ++ toUtf8 text) = some (unifyNewlines text) := by
  cases text with
  | nil => rfl
  | cons character rest =>
      have longer : ¬ byteOrderMark ++ toUtf8 (character :: rest) <+: byteOrderMark := by
        intro within
        have bounded := within.length_le
        have positive := character.utf8Size_pos
        rw [List.length_append, toUtf8_cons, List.length_append,
          String.length_utf8EncodeChar] at bounded
        omega
      rw [ofFileBytes?, if_neg (mt List.isPrefixOf_iff_prefix.mp longer),
        if_pos (List.isPrefixOf_iff_prefix.mpr (List.prefix_append _ _)), List.drop_left,
        ofUtf8?_toUtf8]
      rfl

/-- However a text is written to a file, it is read from it again. -/
theorem ofFileBytes?_bytes {text : Text} (plain : '\r' ∉ text)
    (unmarked : text.head? ≠ some markCharacter) (encoding : FileEncoding) :
    ofFileBytes? (encoding.bytes text) = some text := by
  obtain ⟨newline, marked⟩ := encoding
  cases marked with
  | true =>
      refine (ofFileBytes?_mark_append _).trans ?_
      rw [unifyNewlines_write plain]
  | false =>
      refine (ofFileBytes?_toUtf8 (newline.head?_write_ne unmarked)).trans ?_
      rw [unifyNewlines_write plain]

end Text

end SnippetSearch
