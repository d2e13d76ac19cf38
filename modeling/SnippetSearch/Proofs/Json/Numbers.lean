import Mathlib.Tactic.IntervalCases
import SnippetSearch.Json.Printer
import SnippetSearch.Json.Reader
import SnippetSearch.Proofs.Text.Numerals

/-!
# Numbers that are read back

A number is written in digits, with a point or an exponent in some cases, and
read up to the mark that ends it.  What is read has the sign, the digits and
the exponent of what was written, unless an integer has too many digits.
-/

namespace SnippetSearch

namespace Json

/-! ## Where a number ends -/

def endMarks : List Char := [',', ']', '\x7d', '\n', ' ']

def EndsValue (rest : LooseText) : Prop :=
  ∀ point ∈ rest.head?, ∃ mark ∈ endMarks, point = .whole mark

theorem endsValue_nil : EndsValue [] := nofun

theorem endsValue_cons {mark : Char} (isMark : mark ∈ endMarks) (rest : LooseText) :
    EndsValue (.whole mark :: rest) := by
  rintro _ ⟨⟩
  exact ⟨mark, isMark, rfl⟩

theorem EndsValue.span {rest : LooseText} (ends : EndsValue rest) :
    spanDigits rest = ([], rest) ∧ spanFraction rest = (none, rest) ∧
      spanExponent rest = (none, rest) := by
  cases rest with
  | nil => exact ⟨rfl, rfl, rfl⟩
  | cons point rest =>
      obtain ⟨mark, isMark, rfl⟩ := ends point rfl
      have stops : ∀ mark ∈ endMarks, mark.isDigit = false ∧ mark ≠ '.' ∧
          (mark == 'e' || mark == 'E') = false := by simp [endMarks]
      obtain ⟨noDigit, noPoint, noExponent⟩ := stops mark isMark
      refine ⟨?_, ?_, ?_⟩
      · rw [spanDigits, noDigit]
        rfl
      · rw [spanFraction]
        rintro _ ⟨⟩
        exact noPoint rfl
      · rw [spanExponent, noExponent]
        rfl

/-! ## Digits -/

theorem spanDigits_append {digits : Text} (areDigits : ∀ digit ∈ digits, digit.isDigit = true)
    {rest : LooseText} (stops : spanDigits rest = ([], rest)) :
    spanDigits (.ofText digits ++ rest) = (digits, rest) := by
  induction digits with
  | nil => exact stops
  | cons digit others ih =>
      obtain ⟨isDigit, areOthers⟩ := List.forall_mem_cons.mp areDigits
      rw [LooseText.ofText_cons, List.cons_append, spanDigits, if_pos isDigit, ih areOthers]

theorem spanWhole_ofNat (number : Nat) {rest : LooseText}
    (stops : spanDigits rest = ([], rest)) :
    spanWhole (.ofText (Text.ofNat number) ++ rest) = (Text.ofNat number, rest) := by
  cases number with
  | zero => rfl
  | succ number =>
      have areDigits : ∀ digit ∈ Text.ofNat (number + 1), digit.isDigit = true :=
        fun _ => Text.isDigit_of_mem_ofNat
      have taken := spanDigits_append areDigits stops
      obtain ⟨first, others, isCons, nonzero⟩ := Text.exists_ofNat_eq_cons number.succ_pos
      rw [isCons, LooseText.ofText_cons, List.cons_append] at taken ⊢
      rw [spanWhole]
      · exact taken
      · rintro _ ⟨⟩
        exact nonzero rfl

theorem spanFraction_digits {digits : Text} (areDigits : ∀ digit ∈ digits, digit.isDigit = true)
    (nonempty : digits ≠ []) {rest : LooseText} (stops : spanDigits rest = ([], rest)) :
    spanFraction (.whole '.' :: (LooseText.ofText digits ++ rest)) = (some digits, rest) := by
  rw [spanFraction, spanDigits_append areDigits stops]
  dsimp only
  rw [List.isEmpty_eq_false_iff.mpr nonempty, if_neg Bool.false_ne_true]

/-- A single digit is the whole part of a number if no other one follows it. -/
theorem spanWhole_digit {digit : Char} (isDigit : digit.isDigit = true) {rest : LooseText}
    (stops : spanDigits rest = ([], rest)) :
    spanWhole (.whole digit :: rest) = ([digit], rest) := by
  by_cases isZero : digit = '0'
  · rw [isZero]
    rfl
  · rw [spanWhole]
    · exact spanDigits_append (List.forall_mem_singleton.mpr isDigit) stops
    · rintro _ ⟨⟩
      exact isZero rfl

theorem digitsValue_eq (digits : Text) : digitsValue digits = Nat.ofDigitChars 10 digits 0 :=
  Text.ofDigits_map_sub digits

/-! ## Fractions -/

theorem length_paddedDigits {places units : Nat} (positive : 0 < places)
    (small : units < 10 ^ places) : (Decimal.paddedDigits places units).length = places := by
  have short : (Text.ofNat units).length ≤ places :=
    (Nat.length_toDigits_le_iff (by decide) positive).mpr small
  rw [Decimal.paddedDigits, List.length_append, List.length_replicate]
  omega

theorem isDigit_of_mem_paddedDigits {places units : Nat} :
    ∀ digit ∈ Decimal.paddedDigits places units, digit.isDigit = true := by
  intro digit member
  rcases List.mem_append.mp member with isZero | inNumeral
  · rw [(List.mem_replicate.mp isZero).2]
    rfl
  · exact Text.isDigit_of_mem_ofNat inNumeral

theorem ofDigitChars_paddedDigits (places units : Nat) :
    Nat.ofDigitChars 10 (Decimal.paddedDigits places units) 0 = units := by
  rw [Decimal.paddedDigits, Nat.ofDigitChars_append, Nat.ofDigitChars_replicate_zero, Nat.mul_zero]
  exact Text.ofDigitChars_ofNat units

theorem digitsValue_parts {places : Nat} (positive : 0 < places) (units : Nat) :
    digitsValue (Text.ofNat (units / 10 ^ places) ++
      Decimal.paddedDigits places (units % 10 ^ places)) = units := by
  rw [digitsValue_eq, Nat.ofDigitChars_append, Text.ofDigitChars_ofNat,
    Nat.ofDigitChars_eq_ofDigitChars_zero, ofDigitChars_paddedDigits,
    length_paddedDigits positive (Nat.mod_lt _ (Nat.pow_pos (by decide)))]
  exact Nat.div_add_mod units (10 ^ places)

/-! ## Numbers without sign -/

/-- A number with a point or an exponent is made of the parts that are read one after the other. -/
theorem spanNumber_of_parts {maxDigits : Nat} {negative : Bool} {source : LooseText} {whole : Text}
    {fraction? : Option Text} {power? : Option Int} {behindWhole behindFraction rest : LooseText}
    (isWhole : spanWhole source = (whole, behindWhole)) (nonempty : whole ≠ [])
    (isFraction : spanFraction behindWhole = (fraction?, behindFraction))
    (isExponent : spanExponent behindFraction = (power?, rest))
    (noInteger : (fraction?.isNone && power?.isNone) = false) :
    spanNumber maxDigits negative source =
      (.scalar (.number (.decimal negative (digitsValue (whole ++ fraction?.getD []))
        (power?.getD 0 - (fraction?.getD []).length))), rest) := by
  rw [spanNumber, isWhole]
  dsimp only
  rw [List.isEmpty_eq_false_iff.mpr nonempty, if_neg Bool.false_ne_true, isFraction]
  dsimp only
  rw [isExponent]
  dsimp only
  rw [noInteger, if_neg Bool.false_ne_true]

section

variable {maxDigits : Nat} {rest : LooseText} (ends : EndsValue rest) (negative : Bool)

include ends

/-- The digits of an integer are read up to what follows them, unless they are too many. -/
theorem spanNumber_ofNat (number : Nat) :
    spanNumber maxDigits negative (.ofText (Text.ofNat number) ++ rest) =
      if (Text.ofNat number).length ≤ maxDigits then
        (.scalar (.number (.integer (if negative then -(number : Int) else number))), rest)
      else
        (.broken .numeralTooLong, []) := by
  obtain ⟨noDigits, noFraction, noExponent⟩ := ends.span
  have nonempty : (Text.ofNat number).isEmpty = false :=
    List.isEmpty_eq_false_iff.mpr (Text.ofNat_ne_nil number)
  rw [spanNumber, spanWhole_ofNat number noDigits]
  dsimp only
  rw [nonempty, if_neg Bool.false_ne_true, noFraction]
  dsimp only
  rw [noExponent]
  simp only [Option.isNone_none, Bool.and_self, if_true, digitsValue_eq, Text.ofDigitChars_ofNat]
  by_cases short : (Text.ofNat number).length ≤ maxDigits
  · rw [if_pos short, if_neg (Nat.not_lt.mpr short)]
  · rw [if_neg short, if_pos (Nat.lt_of_not_le short)]

theorem spanNumber_unsignedText {places : Nat} (positive : 0 < places) (units : Nat) :
    spanNumber maxDigits negative (.ofText (Decimal.unsignedText places units) ++ rest) =
      (.scalar (.number (.decimal negative units (-(places : Int)))), rest) := by
  obtain ⟨noDigits, -, noExponent⟩ := ends.span
  have padded := length_paddedDigits positive (Nat.mod_lt units (Nat.pow_pos (by decide)))
  have fraction := spanFraction_digits
    (@isDigit_of_mem_paddedDigits places (units % 10 ^ places))
    (List.ne_nil_of_length_pos (padded.symm ▸ positive)) noDigits
  rw [Decimal.unsignedText, if_neg positive.ne', Nat.pow_eq, LooseText.ofText_append,
    List.append_assoc, LooseText.ofText_cons, List.cons_append,
    spanNumber_of_parts (spanWhole_ofNat (units / 10 ^ places) rfl) (Text.ofNat_ne_nil _) fraction
      noExponent rfl,
    Option.getD_some, Option.getD_none, padded, digitsValue_parts positive, Int.zero_sub]

theorem spanExponent_exponentText (power : Int) :
    spanExponent (.ofText (exponentText power) ++ rest) = (some power, rest) := by
  let digits := Decimal.paddedDigits 2 power.natAbs
  have isSign : spanSign
      (.whole (if power < 0 then '-' else '+') :: (LooseText.ofText digits ++ rest)) =
        (decide (power < 0), .ofText digits ++ rest) := by
    by_cases isNegative : power < 0
    · rw [if_pos isNegative, decide_eq_true isNegative]
      rfl
    · rw [if_neg isNegative, decide_eq_false isNegative]
      rfl
  have taken : spanDigits (.ofText digits ++ rest) = (digits, rest) :=
    spanDigits_append isDigit_of_mem_paddedDigits ends.span.1
  have nonempty : digits.isEmpty = false :=
    List.isEmpty_eq_false_iff.mpr (List.append_ne_nil_of_right_ne_nil _ (Text.ofNat_ne_nil _))
  have value : digitsValue digits = power.natAbs := by
    rw [digitsValue_eq, ofDigitChars_paddedDigits]
  have isPower : (if power < 0 then -(power.natAbs : Int) else power.natAbs) = power := by
    split <;> omega
  rw [exponentText, LooseText.ofText_cons, LooseText.ofText_cons, List.cons_append,
    List.cons_append, spanExponent, isSign]
  dsimp only
  rw [taken]
  simp only [beq_self_eq_true, Bool.true_or, nonempty, Bool.not_false, Bool.and_self, if_true,
    value, decide_eq_true_eq, isPower]

theorem spanNumber_scientificText (mantissa : Nat) (exponent : Int) :
    spanNumber maxDigits negative (.ofText (scientificText mantissa exponent) ++ rest) =
      (.scalar (.number (.decimal negative mantissa exponent)), rest) := by
  obtain ⟨first, others, isCons⟩ := List.exists_cons_of_ne_nil (Text.ofNat_ne_nil mantissa)
  have areDigits : ∀ digit ∈ first :: others, digit.isDigit = true :=
    isCons ▸ fun _ => Text.isDigit_of_mem_ofNat
  obtain ⟨isDigit, areOthers⟩ := List.forall_mem_cons.mp areDigits
  have value : digitsValue (first :: others) = mantissa := by
    rw [digitsValue_eq, ← isCons, Text.ofDigitChars_ofNat]
  rw [scientificText, isCons]
  cases others with
  | nil =>
      have noFraction : spanFraction (.ofText (exponentText exponent) ++ rest) =
          (none, .ofText (exponentText exponent) ++ rest) := rfl
      dsimp only
      rw [LooseText.ofText_cons, List.cons_append,
        spanNumber_of_parts (spanWhole_digit isDigit rfl) (List.cons_ne_nil _ _) noFraction
          (spanExponent_exponentText ends exponent) rfl,
        Option.getD_none, Option.getD_some, List.append_nil, value, List.length_nil,
        Int.natCast_zero, Int.sub_zero]
  | cons next others =>
      dsimp only
      rw [LooseText.ofText_cons, LooseText.ofText_cons, LooseText.ofText_append, List.cons_append,
        List.cons_append, List.append_assoc,
        spanNumber_of_parts (spanWhole_digit isDigit rfl) (List.cons_ne_nil _ _)
          (spanFraction_digits areOthers (List.cons_ne_nil next others) rfl)
          (spanExponent_exponentText ends _) rfl,
        Option.getD_some, Option.getD_some, List.singleton_append, value, Int.add_sub_cancel]

end

/-! ## Tokens -/

/-- A text that starts with a digit, with or without a minus sign in front, is a number. -/
theorem spanToken_of_isDigit (maxDigits : Nat) {first : Char} (isDigit : first.isDigit = true)
    (rest : LooseText) :
    spanToken maxDigits (.whole first :: rest) =
        spanNumber maxDigits false (.whole first :: rest) ∧
      spanToken maxDigits (.whole '-' :: .whole first :: rest) =
        spanNumber maxDigits true (.whole first :: rest) := by
  obtain ⟨digit, small, rfl⟩ := Text.exists_eq_digitChar isDigit
  interval_cases digit <;> exact ⟨rfl, rfl⟩

def StartsWithDigit (text : Text) : Prop :=
  ∃ first others, text = first :: others ∧ first.isDigit = true

theorem startsWithDigit_ofNat_append (number : Nat) (more : Text) :
    StartsWithDigit (Text.ofNat number ++ more) := by
  obtain ⟨first, others, isCons⟩ := List.exists_cons_of_ne_nil (Text.ofNat_ne_nil number)
  have isFirst : first ∈ Text.ofNat number := isCons ▸ List.mem_cons_self
  exact ⟨first, others ++ more, by rw [isCons]; rfl, Text.isDigit_of_mem_ofNat isFirst⟩

theorem startsWithDigit_ofNat (number : Nat) : StartsWithDigit (Text.ofNat number) :=
  List.append_nil (Text.ofNat number) ▸ startsWithDigit_ofNat_append number []

/-- With or without a minus sign in front, a text that starts with a digit is a number. -/
theorem spanToken_signed (maxDigits : Nat) (negative : Bool) {text : Text}
    (starts : StartsWithDigit text) (rest : LooseText) :
    spanToken maxDigits (.ofText (if negative then '-' :: text else text) ++ rest) =
      spanNumber maxDigits negative (.ofText text ++ rest) := by
  obtain ⟨first, others, rfl, isDigit⟩ := starts
  obtain ⟨unsigned, signed⟩ := spanToken_of_isDigit maxDigits isDigit (.ofText others ++ rest)
  cases negative with
  | false => exact unsigned
  | true => exact signed

/-- Whether a number has so many digits at most, if it is an integer. -/
def Number.fits (maxDigits : Nat) : Number → Bool
  | .integer value => decide ((Text.ofNat value.natAbs).length ≤ maxDigits)
  | .decimal .. | .notANumber | .infinite _ => true

theorem startsWithDigit_scientificText (mantissa : Nat) (exponent : Int) :
    StartsWithDigit (scientificText mantissa exponent) := by
  obtain ⟨first, others, isCons, isDigit⟩ := startsWithDigit_ofNat mantissa
  rw [scientificText, isCons]
  cases others with
  | nil => exact ⟨first, _, rfl, isDigit⟩
  | cons next others => exact ⟨first, _, rfl, isDigit⟩

theorem startsWithDigit_decimalText (mantissa : Nat) (exponent : Int) :
    StartsWithDigit (decimalText mantissa exponent) := by
  rw [decimalText]
  split
  · next near =>
      simp only [Bool.and_eq_true, decide_eq_true_eq] at near
      have places_pos : 0 < exponent.natAbs := by omega
      rw [Decimal.unsignedText, if_neg places_pos.ne']
      exact startsWithDigit_ofNat_append _ _
  · exact startsWithDigit_scientificText mantissa exponent

/-- Whichever way a number with a point or an exponent is written, it is read as what it is. -/
theorem spanNumber_decimalText {maxDigits : Nat} {rest : LooseText} (ends : EndsValue rest)
    (negative : Bool) (mantissa : Nat) (exponent : Int) :
    spanNumber maxDigits negative (.ofText (decimalText mantissa exponent) ++ rest) =
      (.scalar (.number (.decimal negative mantissa exponent)), rest) := by
  rw [decimalText]
  split
  · next near =>
      simp only [Bool.and_eq_true, decide_eq_true_eq] at near
      have places_pos : 0 < exponent.natAbs := by omega
      have isExponent : -(exponent.natAbs : Int) = exponent := by omega
      rw [spanNumber_unsignedText ends negative places_pos, isExponent]
  · exact spanNumber_scientificText ends negative mantissa exponent

theorem spanToken_numberText {maxDigits : Nat} {number : Number}
    (fits : number.fits maxDigits = true) {rest : LooseText} (ends : EndsValue rest) :
    spanToken maxDigits (.ofText (numberText number) ++ rest) =
      (.scalar (.number number), rest) := by
  cases number with
  | integer value =>
      cases value with
      | ofNat number =>
          have short : (Text.ofNat number).length ≤ maxDigits := of_decide_eq_true fits
          refine (spanToken_signed maxDigits false (startsWithDigit_ofNat number) rest).trans ?_
          rw [spanNumber_ofNat ends, if_pos short]
          rfl
      | negSucc number =>
          have short : (Text.ofNat (number + 1)).length ≤ maxDigits := of_decide_eq_true fits
          refine
            (spanToken_signed maxDigits true (startsWithDigit_ofNat (number + 1)) rest).trans ?_
          rw [spanNumber_ofNat ends, if_pos short]
          rfl
  | decimal negative mantissa exponent =>
      rw [numberText, spanToken_signed maxDigits negative (startsWithDigit_decimalText ..),
        spanNumber_decimalText ends]
  | notANumber => rfl
  | infinite negative => cases negative <;> rfl

end Json

end SnippetSearch
