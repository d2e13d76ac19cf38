import Mathlib.Data.List.Forall2
import SnippetSearch.Text.Case

/-!
# Texts that differ in case

Two texts have the same letters if their characters are the same up to case,
one by one.  The tables of letter case lead to no code point below that of the
small `a`, so a character that is the same letter as a separator, a star or any
other character that far down is that character itself.
-/

namespace SnippetSearch

namespace Text

def SameLetters (left right : Text) : Prop :=
  List.Forall₂ (fun first second => sameLetter first second = true) left right

instance : DecidableRel SameLetters := fun left right =>
  inferInstanceAs (Decidable (List.Forall₂ _ left right))

def EndsLike (ending text : Text) : Prop :=
  ∃ start stop, text = start ++ stop ∧ SameLetters ending stop

/-! ## Characters without case -/

def firstLower : Nat := 0x61

theorem lowerIn_eq_or_le {runs : List CaseRun} {bound : Nat}
    (above : ∀ run ∈ runs, bound ≤ run.lower) (code : Nat) :
    lowerIn runs code = code ∨ bound ≤ lowerIn runs code := by
  fun_induction lowerIn runs code with
  | case1 => exact .inl rfl
  | case2 => exact .inl rfl
  | case3 run =>
      exact .inr (Nat.le_add_right_of_le (above run List.mem_cons_self))
  | case4 => exact .inl rfl
  | case5 run rest _ _ _ ih =>
      exact ih fun other member => above other (List.mem_cons_of_mem run member)

theorem firstLower_le_lower : ∀ run ∈ lowerRuns, firstLower ≤ run.lower := by
  decide +kernel

theorem firstLower_le_variant : ∀ variant ∈ caseVariants, firstLower ≤ variant.2 := by
  decide

/-- The case key of a character is its code point, or that of some letter. -/
theorem caseKey_eq_or_le (character : Char) :
    caseKey character = character.toNat ∨ firstLower ≤ caseKey character := by
  rw [caseKey]
  cases found : caseVariants.lookup (lowerCode character.toNat) with
  | none => exact lowerIn_eq_or_le firstLower_le_lower character.toNat
  | some key =>
      obtain ⟨earlier, later, table, _⟩ := List.lookup_eq_some_iff.mp found
      have listed : (lowerCode character.toNat, key) ∈ caseVariants := by simp [table]
      exact .inr (firstLower_le_variant _ listed)

/-- Below all letters that anything is lower-cased to, no two characters are the same letter. -/
theorem eq_of_sameLetter {left right : Char} (same : sameLetter left right = true)
    (low : caseKey right < firstLower) : left = right := by
  rw [sameLetter_iff] at same
  have keyLeft := (caseKey_eq_or_le left).resolve_right (by omega)
  have keyRight := (caseKey_eq_or_le right).resolve_right (by omega)
  rw [keyLeft, keyRight] at same
  exact Char.toNat_inj.mp same

/-- A text holds a character without case if one with the same letters does. -/
theorem SameLetters.mem_of_mem {left right : Text} (same : SameLetters left right)
    {character : Char} (low : caseKey character < firstLower) (held : character ∈ right) :
    character ∈ left := by
  induction same with
  | nil => cases held
  | cons letter _ ih =>
      rcases List.mem_cons.mp held with rfl | held
      · rw [eq_of_sameLetter letter low]
        exact List.mem_cons_self
      · exact List.mem_cons_of_mem _ (ih held)

end Text

end SnippetSearch
