import Mathlib.Logic.Relation
import SnippetSearch.Proofs.Json.Numbers
import SnippetSearch.Proofs.Json.Strings

/-!
# Reading step by step

A reader goes through a text by passing over spaces and by taking one token
after the other.  What it has seen and what is left to read lead to the same
value, or to the same refusal, after each of these steps, so that the reading
of a text can be followed from one of its parts to the next.
-/

namespace SnippetSearch

namespace Json

/-- What a reader has seen, and what is left to read. -/
abbrev Progress := Reader × LooseText

/-- A space is passed over, or a token is taken. -/
inductive ReadStep (levels maxDigits : Nat) : Progress → Progress → Prop where
  | space (reader : Reader) {point : CodePoint} (space : isSpace point = true)
      (rest : LooseText) : ReadStep levels maxDigits (reader, point :: rest) (reader, rest)
  | token {reader after : Reader} {point : CodePoint} {rest following : LooseText} {token : Token}
      (solid : isSpace point = false)
      (spans : spanToken maxDigits (point :: rest) = (token, following))
      (shorter : following.length ≤ rest.length) (step : reader.step levels token = .ok after) :
      ReadStep levels maxDigits (reader, point :: rest) (after, following)

/-- Any number of spaces and tokens are read. -/
abbrev Reads (levels maxDigits : Nat) : Progress → Progress → Prop :=
  Relation.ReflTransGen (ReadStep levels maxDigits)

def Progress.outcome (levels maxDigits count : Nat) (progress : Progress) :
    Except ReadError Json := do
  let reader ← (tokensWithin maxDigits count progress.2).foldlM (Reader.step levels) progress.1
  reader.result

variable {levels maxDigits : Nat} {before after : Progress}

/-! ## Steps keep the outcome -/

theorem tokensWithin_of_solid {point : CodePoint} {rest following : LooseText} {token : Token}
    (solid : isSpace point = false)
    (spans : spanToken maxDigits (point :: rest) = (token, following)) (count : Nat) :
    tokensWithin maxDigits (count + 1) (point :: rest) =
      token :: tokensWithin maxDigits count following := by
  rw [tokensWithin, List.dropWhile_cons_of_neg (Bool.eq_false_iff.mp solid)]
  dsimp only
  rw [spans]

/-- As long as there may be so many tokens as there is text, a step does not change the outcome. -/
theorem ReadStep.outcome_eq (step : ReadStep levels maxDigits before after) {count : Nat}
    (enough : before.2.length ≤ count) :
    ∃ left, after.2.length ≤ left ∧
      before.outcome levels maxDigits count = after.outcome levels maxDigits left := by
  cases count with
  | zero => cases step <;> exact absurd enough (Nat.not_succ_le_zero _)
  | succ count =>
      cases step with
      | space reader space rest =>
          refine ⟨count + 1, Nat.le_of_succ_le enough, ?_⟩
          rw [Progress.outcome, Progress.outcome, tokensWithin, tokensWithin,
            List.dropWhile_cons_of_pos space]
      | token solid spans shorter step =>
          refine ⟨count, shorter.trans (Nat.le_of_succ_le_succ enough), ?_⟩
          rw [Progress.outcome, Progress.outcome, tokensWithin_of_solid solid spans,
            List.foldlM_cons, step]
          rfl

theorem Reads.outcome_eq (reads : Reads levels maxDigits before after) {count : Nat}
    (enough : before.2.length ≤ count) :
    ∃ left, after.2.length ≤ left ∧
      before.outcome levels maxDigits count = after.outcome levels maxDigits left := by
  induction reads with
  | refl => exact ⟨count, enough, rfl⟩
  | tail _ step ih =>
      obtain ⟨left, enoughLeft, same⟩ := ih
      obtain ⟨fewer, enoughFewer, next⟩ := step.outcome_eq enoughLeft
      exact ⟨fewer, enoughFewer, same.trans next⟩

/-- A text is read as a value if reading leads to the value and to the end of the text. -/
theorem readBounded_of_reads {text : LooseText} {value : Json}
    (reads : Reads levels maxDigits (.beforeValue [], text) (.afterValue value [], [])) :
    readBounded levels maxDigits text = .ok value := by
  obtain ⟨left, -, same⟩ := reads.outcome_eq (Nat.le_refl text.length)
  refine Eq.trans same ?_
  cases left with
  | zero => rfl
  | succ left => rfl

/-- A text is refused if reading leads to a place where a value is wanted and broken. -/
theorem readBounded_of_reads_broken {text : LooseText} {frames : List Frame} {point : CodePoint}
    {rest following : LooseText} {error : ReadError} (solid : isSpace point = false)
    (reads : Reads levels maxDigits (.beforeValue [], text) (.beforeValue frames, point :: rest))
    (spans : spanToken maxDigits (point :: rest) = (.broken error, following)) :
    readBounded levels maxDigits text = .error error := by
  obtain ⟨left, enough, same⟩ := reads.outcome_eq (Nat.le_refl text.length)
  refine Eq.trans same ?_
  cases left with
  | zero => exact absurd enough (Nat.not_succ_le_zero _)
  | succ left =>
      rw [Progress.outcome, tokensWithin_of_solid solid spans]
      rfl

theorem readBounded_escape (levels maxDigits : Nat) (rest : LooseText) :
    readBounded levels maxDigits (.whole '\x1b' :: rest) = .error .malformed :=
  readBounded_of_reads_broken rfl .refl rfl

end Json

end SnippetSearch
