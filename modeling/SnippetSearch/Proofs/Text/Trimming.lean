import Mathlib.Data.List.Infix
import Mathlib.Data.List.TakeWhile
import SnippetSearch.Text.Basic

/-!
# Texts without blank space around them

Trimming cuts blank space off both ends of a text and nothing else, and it
leaves a text that has none there as it is.
-/

namespace SnippetSearch

namespace Text

structure IsTrimmed (text : Text) : Prop where
  starts : ∀ character ∈ text.head?, isBlank character = false
  ends : ∀ character ∈ text.getLast?, isBlank character = false

theorem isTrimmed_nil : IsTrimmed [] where
  starts _ first := nomatch first
  ends _ last := nomatch last

/-! ## One end -/

theorem trimStart_suffix (text : Text) : trimStart text <:+ text :=
  List.dropWhile_suffix _

theorem trimEnd_isPrefix (text : Text) : trimEnd text <+: text := by
  rw [trimEnd, ← List.reverse_suffix, List.reverse_reverse]
  exact List.dropWhile_suffix _

theorem isBlank_head?_trimStart {text : Text} {character : Char}
    (first : character ∈ (trimStart text).head?) : isBlank character = false := by
  have stops := List.head?_dropWhile_not isBlank text
  rw [trimStart] at first
  rwa [Option.mem_def.mp first] at stops

theorem trimStart_of_head? {text : Text}
    (starts : ∀ character ∈ text.head?, isBlank character = false) : trimStart text = text := by
  cases text with
  | nil => rfl
  | cons first rest =>
      rw [trimStart, List.dropWhile_cons_of_neg (Bool.eq_false_iff.mp (starts first rfl))]

theorem reverse_trimEnd (text : Text) : (trimEnd text).reverse = trimStart text.reverse :=
  List.reverse_reverse _

/-! ## Both ends -/

theorem trim_isInfix (text : Text) : trim text <:+: text :=
  (trimEnd_isPrefix _).isInfix.trans (trimStart_suffix text).isInfix

theorem isTrimmed_trim (text : Text) : (trim text).IsTrimmed where
  starts character first := by
    obtain ⟨behind, whole⟩ := trimEnd_isPrefix (trimStart text)
    have first : character ∈ (trimStart text).head? := by
      rw [← whole, List.head?_append, Option.mem_def, Option.or_eq_some_iff]
      exact .inl first
    exact isBlank_head?_trimStart first
  ends character last := by
    rw [trim, ← List.head?_reverse, reverse_trimEnd] at last
    exact isBlank_head?_trimStart last

/-- A text without blank space around it stays as it is. -/
theorem IsTrimmed.trim_eq {text : Text} (trimmed : text.IsTrimmed) : trim text = text := by
  have fromEnd : trimStart text.reverse = text.reverse :=
    trimStart_of_head? fun character last => trimmed.ends character (by rwa [← List.head?_reverse])
  rw [trim, trimStart_of_head? trimmed.starts, ← List.reverse_inj, reverse_trimEnd, fromEnd]

theorem exists_blank_around_trim (text : Text) :
    ∃ before behind, text = before ++ trim text ++ behind ∧ before.isAllBlank = true ∧
      behind.isAllBlank = true := by
  have split (text : Text) : text = text.takeWhile isBlank ++ trimStart text :=
    List.takeWhile_append_dropWhile.symm
  have back : trimStart text =
      trim text ++ ((trimStart text).reverse.takeWhile isBlank).reverse := by
    rw [← List.reverse_inj, List.reverse_append, List.reverse_reverse, trim, reverse_trimEnd]
    exact split _
  refine ⟨text.takeWhile isBlank, ((trimStart text).reverse.takeWhile isBlank).reverse, ?_,
    List.all_takeWhile, ?_⟩
  · rw [List.append_assoc, ← back]
    exact split text
  · rw [isAllBlank, List.all_reverse]
    exact List.all_takeWhile

theorem isAllBlank_append (first second : Text) :
    (first ++ second).isAllBlank = (first.isAllBlank && second.isAllBlank) :=
  List.all_append

theorem trim_eq_nil_iff (text : Text) : trim text = [] ↔ text.isAllBlank = true := by
  constructor
  · intro nothing
    obtain ⟨before, behind, whole, blankBefore, blankBehind⟩ := exists_blank_around_trim text
    rw [whole, nothing, List.append_nil, isAllBlank_append, blankBefore, blankBehind, Bool.and_true]
  · intro blank
    cases trimmed : trim text with
    | nil => rfl
    | cons first rest =>
        have visible := (isTrimmed_trim text).starts first (by rw [trimmed]; rfl)
        have held : first ∈ text := (trim_isInfix text).subset (trimmed ▸ List.mem_cons_self)
        rw [List.all_eq_true.mp blank first held] at visible
        cases visible

/-- Behind a text without blank space at its ends, only what follows it is trimmed. -/
theorem trim_append {text : Text} (nonempty : text ≠ [])
    (plain : ∀ character ∈ text, isBlank character = false) (more : Text) :
    trim (text ++ more) = text ++ trimEnd more := by
  have fromStart : trimStart (text ++ more) = text ++ more := by
    obtain ⟨first, rest, rfl⟩ := List.exists_cons_of_ne_nil nonempty
    rw [trimStart, List.cons_append, List.dropWhile_cons_of_neg]
    exact Bool.eq_false_iff.mp (plain first List.mem_cons_self)
  have fromEnd : text.reverse.dropWhile isBlank = text.reverse := by
    obtain ⟨last, rest, isReverse⟩ :=
      List.exists_cons_of_ne_nil (List.reverse_ne_nil_iff.mpr nonempty)
    have held : last ∈ text := List.mem_reverse.mp (isReverse ▸ List.mem_cons_self)
    rw [isReverse, List.dropWhile_cons_of_neg (Bool.eq_false_iff.mp (plain last held))]
  rw [trim, fromStart, trimEnd, List.reverse_append, List.dropWhile_append, fromEnd, trimEnd]
  split
  · next nothing =>
      rw [List.isEmpty_iff.mp nothing, List.reverse_reverse, List.reverse_nil, List.append_nil]
  · rw [List.reverse_append, List.reverse_reverse]

end Text

end SnippetSearch
