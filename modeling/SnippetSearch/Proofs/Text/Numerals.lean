import Mathlib.Data.List.TakeWhile
import Mathlib.Data.Nat.Notation
import SnippetSearch.Decimal
import SnippetSearch.Proofs.Text.Lines
import SnippetSearch.Text.UserInteger

/-!
# Numerals that are read back

The decimal digits of a natural number have that number as their value, and
none of them but a single zero starts with a zero.  So whoever reads integers
as users write them reads a numeral as the number that it was made of, unless
it is too long.
-/

namespace SnippetSearch

namespace Text

/-! ## Digits -/

theorem exists_eq_digitChar {character : Char} (isDigit : character.isDigit = true) :
    ∃ digit < 10, character = Nat.digitChar digit := by
  obtain ⟨low, high⟩ : 48 ≤ character.toNat ∧ character.toNat ≤ 57 :=
    Char.isDigit_iff_toNat.mp isDigit
  refine ⟨character.toNat - 48, by omega, Char.toNat_inj.mp ?_⟩
  rw [Nat.toNat_digitChar_of_lt_ten (by omega)]
  omega

theorem ofDigits_map_sub (digits : Text) :
    ofDigits (digits.map fun digit => digit.toNat - '0'.toNat) = Nat.ofDigitChars 10 digits 0 := by
  rw [ofDigits, List.foldl_map]
  rfl

/-! ## Numerals of natural numbers -/

theorem ofNat_ne_nil (number : Nat) : ofNat number ≠ [] :=
  Nat.toDigits_ne_nil

theorem isDigit_of_mem_ofNat {number : Nat} {character : Char} (member : character ∈ ofNat number) :
    character.isDigit = true :=
  Nat.isDigit_of_mem_toDigits (by decide) (by decide) member

theorem forall_mem_ofNat {holds : Char → Prop} (digits : ∀ digit < 10, holds (Nat.digitChar digit))
    (number : Nat) : ∀ character ∈ ofNat number, holds character := by
  intro character member
  obtain ⟨digit, small, rfl⟩ := exists_eq_digitChar (isDigit_of_mem_ofNat member)
  exact digits digit small

theorem ofDigitChars_ofNat (number : Nat) : Nat.ofDigitChars 10 (ofNat number) 0 = number :=
  Nat.ofDigitChars_ten_toDigits

theorem exists_ofNat_eq_cons {number : Nat} (positive : 0 < number) :
    ∃ first rest, ofNat number = first :: rest ∧ first ≠ '0' := by
  induction number using Nat.strongRecOn with
  | ind number ih =>
      unfold ofNat
      by_cases small : number < 10
      · rw [Nat.toDigits_of_lt_base small]
        exact ⟨_, [], rfl, fun isZero => positive.ne' (Nat.digitChar_eq_zero.mp isZero)⟩
      · rw [Nat.toDigits_of_base_le (by decide) (not_lt.mp small)]
        obtain ⟨first, rest, isCons, nonzero⟩ := ih (number / 10) (by omega) (by omega)
        exact ⟨first, rest ++ [Nat.digitChar (number % 10)], by rw [← ofNat, isCons]; rfl, nonzero⟩

/-! ## Numerals as users write them -/

theorem dropWhile_eq_self {text : Text} {passed : Char → Bool}
    (none : ∀ character ∈ text, passed character = false) : text.dropWhile passed = text := by
  cases text with
  | nil => rfl
  | cons first rest =>
      rw [List.dropWhile_cons, none first List.mem_cons_self]
      rfl

theorem isCountingDigit_of_mem_ofNat (number : Nat) :
    ∀ character ∈ ofNat number, character ≠ '0' → isCountingDigit character = true :=
  forall_mem_ofNat (by decide) number

theorem withoutZeros?_ofNat (number : Nat) :
    withoutZeros? (ofNat number) = some (ofNat number) := by
  cases number with
  | zero => rfl
  | succ number =>
      obtain ⟨first, rest, isCons, nonzero⟩ := exists_ofNat_eq_cons number.succ_pos
      have counts := isCountingDigit_of_mem_ofNat (number + 1) first
        (isCons ▸ List.mem_cons_self) nonzero
      rw [isCons, withoutZeros?, if_neg nonzero, counts]
      rfl

theorem withoutFraction?_ofNat (number : Nat) :
    withoutFraction? (ofNat number) = some (ofNat number) := by
  have noPoint : (ofNat number).dropWhile (· != '.') = [] :=
    List.dropWhile_eq_nil_iff.mpr (forall_mem_ofNat (by decide) number)
  rw [withoutFraction?, noPoint]

theorem withoutUnderscores?_ofNat (number : Nat) :
    withoutUnderscores? (ofNat number) = some (ofNat number) := by
  have single : cut '_' (ofNat number) = [ofNat number] := by
    have joined := cut_join '_' (List.cons_ne_nil (ofNat number) [])
      (List.forall_mem_singleton.mpr Nat.underscore_not_in_toDigits)
    rwa [join, List.intercalate_singleton] at joined
  rw [withoutUnderscores?, single]
  simp [ofNat_ne_nil]

theorem ofNat_ne_cons {sign : Char} (isSign : sign = '-' ∨ sign = '+') (number : Nat)
    (rest : Text) : ofNat number ≠ sign :: rest := by
  intro same
  have noSign : ∀ character ∈ ofNat number, character ≠ '-' ∧ character ≠ '+' :=
    forall_mem_ofNat (by decide) number
  obtain ⟨notMinus, notPlus⟩ := noSign sign (same ▸ List.mem_cons_self)
  exact isSign.elim notMinus notPlus

/-- A numeral of a natural number has digits alone, and none of them is a zero too many. -/
theorem wellFormed_ofNat (number : Nat) :
    (ofNat number == ['0'] ||
      ((ofNat number).head?.any isCountingDigit && (ofNat number).all Char.isDigit)) = true := by
  cases number with
  | zero => rfl
  | succ number =>
      obtain ⟨first, rest, isCons, nonzero⟩ := exists_ofNat_eq_cons number.succ_pos
      have counts := isCountingDigit_of_mem_ofNat (number + 1) first
        (isCons ▸ List.mem_cons_self) nonzero
      have digits : (ofNat (number + 1)).all Char.isDigit = true :=
        List.all_eq_true.mpr fun character => isDigit_of_mem_ofNat
      rw [digits, isCons, List.head?_cons, Option.any_some, counts]
      exact Bool.or_true _

theorem plainInteger?_ofNat (number : Nat) :
    plainInteger? (ofNat number) =
      if (ofNat number).length ≤ maxDigits then some (number : Int) else none := by
  rw [plainInteger?]
  · dsimp only
    rw [wellFormed_ofNat, Bool.true_and, ofDigits_map_sub, ofDigitChars_ofNat]
    simp only [decide_eq_true_eq, Bool.false_eq_true, if_false]
  · exact fun digits => ofNat_ne_cons (.inl rfl) number digits

/-- The numeral of a natural number is read as the number, unless it is too long. -/
theorem userInteger?_ofNat (number : Nat) :
    userInteger? (ofNat number) =
      if (ofNat number).length ≤ maxDigits then some (number : Int) else none := by
  have noBlank : ∀ character ∈ ofNat number, isNumeralBlank character = false :=
    forall_mem_ofNat (by decide) number
  have core : (((ofNat number).dropWhile isNumeralBlank).reverse.dropWhile isNumeralBlank).reverse =
      ofNat number := by
    rw [dropWhile_eq_self noBlank, dropWhile_eq_self, List.reverse_reverse]
    exact fun character member => noBlank character (List.mem_reverse.mp member)
  unfold userInteger?
  dsimp only
  rw [core]
  split
  · next same => exact absurd same (ofNat_ne_cons (.inl rfl) number _)
  · next same => exact absurd same (ofNat_ne_cons (.inr rfl) number _)
  · next same => exact absurd same (ofNat_ne_cons (.inr rfl) number _)
  · simp only [withoutZeros?_ofNat, withoutFraction?_ofNat, withoutUnderscores?_ofNat,
      Option.bind_eq_bind, Option.bind_some, List.nil_append, plainInteger?_ofNat]

end Text

end SnippetSearch
