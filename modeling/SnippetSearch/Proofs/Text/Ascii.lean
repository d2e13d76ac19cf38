import SnippetSearch.Proofs.Text.Encoding
import SnippetSearch.Text.EncodingForm

/-!
# Printable ASCII

A text of printable ASCII characters is sent as one byte for each of them.
None of these bytes is zero or belongs to a mark, so that the form is told from
them, and each byte stands for its character again.
-/

namespace SnippetSearch

namespace Text

def isPrintable (character : Char) : Bool :=
  decide (0x20 ≤ character.toNat) && decide (character.toNat < 0x7F)

theorem isPrintable_iff {character : Char} :
    isPrintable character = true ↔ 0x20 ≤ character.toNat ∧ character.toNat < 0x7F := by
  rw [isPrintable, Bool.and_eq_true, decide_eq_true_eq, decide_eq_true_eq]

theorem isPrintable_of_between (low high : Char) {character : Char} (lowest : 0x20 ≤ low.toNat)
    (highest : high.toNat < 0x7F) (above : low.val ≤ character.val)
    (below : character.val ≤ high.val) : isPrintable character = true := by
  have large : low.toNat ≤ character.toNat := UInt32.le_iff_toNat_le.mp above
  have small : character.toNat ≤ high.toNat := UInt32.le_iff_toNat_le.mp below
  exact isPrintable_iff.mpr ⟨Nat.le_trans lowest large, Nat.lt_of_le_of_lt small highest⟩

theorem isPrintable_of_isAlphanum {character : Char} (plain : character.isAlphanum = true) :
    isPrintable character = true := by
  obtain isAlpha | isDigit := (Bool.or_eq_true _ _).mp plain
  · obtain isUpper | isLower := (Bool.or_eq_true _ _).mp isAlpha
    · obtain ⟨above, below⟩ := of_decide_eq_true isUpper
      exact isPrintable_of_between 'A' 'Z' (by decide) (by decide) above below
    · obtain ⟨above, below⟩ := (Bool.and_eq_true _ _).mp isLower
      exact isPrintable_of_between 'a' 'z' (by decide) (by decide) (of_decide_eq_true above)
        (of_decide_eq_true below)
  · obtain ⟨above, below⟩ := (Bool.and_eq_true _ _).mp isDigit
    exact isPrintable_of_between '0' '9' (by decide) (by decide) (of_decide_eq_true above)
      (of_decide_eq_true below)

theorem exists_code_of_isPrintable {character : Char} (printable : isPrintable character = true) :
    ∃ code < 0x7F, character = Char.ofNat code :=
  ⟨character.toNat, (isPrintable_iff.mp printable).2, (Char.ofNat_toNat character).symm⟩

def IsPrintable (text : Text) : Prop :=
  ∀ character ∈ text, isPrintable character = true

theorem IsPrintable.append {text more : Text} (printable : IsPrintable text)
    (printableMore : IsPrintable more) : IsPrintable (text ++ more) :=
  List.forall_mem_append.mpr ⟨printable, printableMore⟩

theorem IsPrintable.cons {character : Char} {text : Text} (isFirst : isPrintable character = true)
    (printable : IsPrintable text) : IsPrintable (character :: text) :=
  List.forall_mem_cons.mpr ⟨isFirst, printable⟩

/-! ## Bytes -/

theorem toUInt8_of_isPrintable {character : Char} (printable : isPrintable character = true) :
    0x20 ≤ character.toUInt8.toNat ∧ character.toUInt8.toNat < 0x7F ∧
      CodePoint.ofCode character.toUInt8.toNat = .whole character := by
  obtain ⟨large, small⟩ := isPrintable_iff.mp printable
  have same : character.toUInt8.toNat = character.toNat := by
    rw [Char.toUInt8, UInt32.toNat_toUInt8]
    exact Nat.mod_eq_of_lt (Nat.lt_trans small (by decide))
  rw [same]
  refine ⟨large, small, ?_⟩
  rw [CodePoint.ofCode, CodePoint.isHalf, if_neg, Char.ofNat_toNat]
  rw [Bool.and_eq_true, decide_eq_true_eq, decide_eq_true_eq]
  omega

theorem utf8EncodeChar_of_isPrintable {character : Char}
    (printable : isPrintable character = true) :
    String.utf8EncodeChar character = [character.toUInt8] := by
  have small := (isPrintable_iff.mp printable).2
  refine String.utf8EncodeChar_eq_singleton (Char.utf8Size_eq_one_iff.mpr ?_)
  exact UInt32.le_iff_toNat_le.mpr (Nat.le_of_lt small)

theorem toUtf8_of_isPrintable {text : Text} (printable : IsPrintable text) :
    toUtf8 text = text.map Char.toUInt8 := by
  induction text with
  | nil => rfl
  | cons character rest ih =>
      obtain ⟨isFirst, printableRest⟩ := List.forall_mem_cons.mp printable
      rw [toUtf8_cons, utf8EncodeChar_of_isPrintable isFirst, ih printableRest]
      rfl

end Text

/-! ## Decoding -/

namespace EncodingForm

open Text

theorem firstPoint?_toUInt8 {character : Char} (printable : isPrintable character = true)
    (rest : List UInt8) :
    firstPoint? (character.toUInt8 :: rest) = some (.whole character, rest) := by
  obtain ⟨-, small, isPoint⟩ := toUInt8_of_isPrintable printable
  have lead : leadByte? character.toUInt8.toNat = some (0, character.toUInt8.toNat) :=
    if_pos (Nat.lt_trans small (by decide))
  rw [firstPoint?, lead]
  simp only [Option.bind_eq_bind, Option.bind_some, continued?, lowestCode, highestCode]
  rw [if_pos ⟨Nat.zero_le _, Nat.le_of_lt (Nat.lt_trans small (by decide))⟩, isPoint]

theorem pointsWithin?_map_toUInt8 {text : Text} (printable : IsPrintable text) :
    pointsWithin? (text.map Char.toUInt8).length (text.map Char.toUInt8) = some (.ofText text) := by
  induction text with
  | nil => rfl
  | cons character rest ih =>
      obtain ⟨isFirst, printableRest⟩ := List.forall_mem_cons.mp printable
      rw [List.map_cons, List.length_cons, pointsWithin?, firstPoint?_toUInt8 isFirst]
      simp only [Option.bind_eq_bind, Option.bind_some]
      rw [ih printableRest]
      rfl

/-- Bytes without a zero are in the form of single bytes. -/
theorem ofZeros_of_ne_zero {bytes : List UInt8} (nonzero : ∀ byte ∈ bytes, byte ≠ 0) :
    ofZeros bytes = .utf8 := by
  unfold ofZeros
  split
  · rw [if_neg (nonzero _ (by simp)), if_neg (nonzero _ (by simp))]
  · rw [if_neg (nonzero _ (by simp)), if_neg (nonzero _ (by simp))]
  · rfl

theorem find?_marks_eq_none {text : Text} (printable : IsPrintable text) :
    marks.find? (fun mark => mark.1.isPrefixOf (text.map Char.toUInt8)) = none := by
  refine List.find?_eq_none.mpr fun mark isMark isPrefix => ?_
  have outside : ∀ mark ∈ marks, ∃ byte rest, mark.1 = byte :: rest ∧
      (byte.toNat < 0x20 ∨ 0x7F ≤ byte.toNat) := by
    simp [marks, byteOrderMark]
  obtain ⟨byte, rest, isCons, isOutside⟩ := outside mark isMark
  rw [isCons] at isPrefix
  cases text with
  | nil => cases isPrefix
  | cons character others =>
      rw [List.map_cons, List.isPrefixOf, Bool.and_eq_true, beq_iff_eq] at isPrefix
      obtain ⟨large, small, -⟩ := toUInt8_of_isPrintable (printable character List.mem_cons_self)
      rw [isPrefix.1] at isOutside
      omega

end EncodingForm

theorem LooseText.ofBytes?_toUtf8 {text : Text} (printable : text.IsPrintable) :
    LooseText.ofBytes? text.toUtf8 = some (.ofText text) := by
  have nonzero : ∀ byte ∈ text.map Char.toUInt8, byte ≠ 0 := by
    intro byte member isZero
    obtain ⟨character, isCharacter, rfl⟩ := List.mem_map.mp member
    have large := (Text.toUInt8_of_isPrintable (printable character isCharacter)).1
    rw [isZero] at large
    exact absurd large (by decide)
  rw [ofBytes?, Text.toUtf8_of_isPrintable printable, EncodingForm.find?_marks_eq_none printable,
    EncodingForm.ofZeros_of_ne_zero nonzero]
  exact EncodingForm.pointsWithin?_map_toUInt8 printable

end SnippetSearch
