import SnippetSearch.Proofs.Json.Steps

/-!
# How values are spelled

A text spells a value if a reader that waits for a value has it after reading
the text, wherever the value stands.  Spellings of items make the spelling of
an array, and spellings of fields that of an object, with any spaces between
the parts.  So each way of writing values is read back if it puts them together
from spellings.
-/

namespace SnippetSearch

namespace Json

variable {maxDigits below levels : Nat}

/--
Whether a text is read as a value wherever one is wanted, if so many more
arrays and objects may be open there.
-/
def Spells (maxDigits below : Nat) (text : Text) (value : Json) : Prop :=
  ∀ (levels : Nat) (frames : List Frame) (rest : LooseText), frames.length + below ≤ levels →
    EndsValue rest →
    Reads levels maxDigits (.beforeValue frames, .ofText text ++ rest)
      (.afterValue value frames, rest)

def SpellsField (maxDigits below : Nat) (text : Text) (field : LooseText × Json) : Prop :=
  ∀ (levels : Nat) (fields : List (LooseText × Json)) (frames : List Frame) (rest : LooseText),
    frames.length + 1 + below ≤ levels → EndsValue rest →
    Reads levels maxDigits (.beforeKey fields frames, .ofText text ++ rest)
      (.afterValue field.2 (.object fields field.1 :: frames), rest)

/-! ## Single tokens -/

def StartsSolid (text : Text) : Prop :=
  ∃ first others, text = first :: others ∧ isSpace (.whole first) = false

theorem reads_of_spanToken {reader after : Reader} {text : Text} {rest : LooseText} {token : Token}
    (starts : StartsSolid text)
    (spans : spanToken maxDigits (.ofText text ++ rest) = (token, rest))
    (step : reader.step levels token = .ok after) :
    Reads levels maxDigits (reader, .ofText text ++ rest) (after, rest) := by
  obtain ⟨first, others, rfl, solid⟩ := starts
  refine .single (.token solid spans ?_ step)
  exact List.length_append ▸ Nat.le_add_left _ _

theorem reads_mark {reader after : Reader} {mark : Char} {rest : LooseText} {token : Token}
    (solid : isSpace (.whole mark) = false)
    (spans : spanToken maxDigits (.whole mark :: rest) = (token, rest))
    (step : reader.step levels token = .ok after) :
    Reads levels maxDigits (reader, .whole mark :: rest) (after, rest) :=
  .single (.token solid spans (Nat.le_refl _) step)

/-! ## Spaces -/

/-- Whether a text has nothing but spaces and line feeds. -/
def IsBlank (text : Text) : Prop :=
  ∀ character ∈ text, character = ' ' ∨ character = '\n'

theorem reads_blank {blank : Text} (isBlank : IsBlank blank) (reader : Reader)
    (rest : LooseText) : Reads levels maxDigits (reader, .ofText blank ++ rest) (reader, rest) := by
  induction blank with
  | nil => exact .refl
  | cons character others ih =>
      obtain ⟨isFirst, areOthers⟩ := List.forall_mem_cons.mp isBlank
      have space : isSpace (.whole character) = true := by
        rcases isFirst with rfl | rfl <;> rfl
      exact (ih areOthers).head (.space reader space _)

theorem endsValue_blank {blank : Text} (isBlank : IsBlank blank) {rest : LooseText}
    (ends : EndsValue rest) : EndsValue (.ofText blank ++ rest) := by
  cases blank with
  | nil => exact ends
  | cons character others =>
      rcases isBlank character List.mem_cons_self with rfl | rfl
      · exact endsValue_cons (by decide) _
      · exact endsValue_cons (by decide) _

theorem Spells.blank {text blank : Text} {value : Json} (spells : Spells maxDigits below text value)
    (isBlank : IsBlank blank) : Spells maxDigits below (blank ++ text) value := by
  intro levels frames rest room ends
  rw [LooseText.ofText_append, List.append_assoc]
  exact (reads_blank isBlank _ _).trans (spells levels frames rest room ends)

theorem SpellsField.blank {text blank : Text} {field : LooseText × Json}
    (spells : SpellsField maxDigits below text field) (isBlank : IsBlank blank) :
    SpellsField maxDigits below (blank ++ text) field := by
  intro levels fields frames rest room ends
  rw [LooseText.ofText_append, List.append_assoc]
  exact (reads_blank isBlank _ _).trans (spells levels fields frames rest room ends)

/-! ## Values without parts -/

theorem spells_of_spanToken {text : Text} {value : Json} (starts : StartsSolid text)
    (spans : ∀ rest, EndsValue rest →
      spanToken maxDigits (.ofText text ++ rest) = (.scalar value, rest)) :
    Spells maxDigits below text value := by
  intro levels frames rest _ ends
  exact reads_of_spanToken starts (spans rest ends) rfl

theorem spells_null : Spells maxDigits below "null".toList .null :=
  spells_of_spanToken ⟨_, _, rfl, rfl⟩ fun _ _ => rfl

theorem spells_bool (value : Bool) :
    Spells maxDigits below (if value then "true".toList else "false".toList) (.bool value) := by
  cases value with
  | false => exact spells_of_spanToken ⟨_, _, rfl, rfl⟩ fun _ _ => rfl
  | true => exact spells_of_spanToken ⟨_, _, rfl, rfl⟩ fun _ _ => rfl

theorem startsSolid_signed (negative : Bool) {text : Text} (starts : StartsWithDigit text) :
    StartsSolid (if negative then '-' :: text else text) := by
  obtain ⟨first, others, rfl, isDigit⟩ := starts
  cases negative with
  | true => exact ⟨'-', _, rfl, rfl⟩
  | false =>
      obtain ⟨digit, small, rfl⟩ := Text.exists_eq_digitChar isDigit
      have solid : ∀ digit < 10, isSpace (.whole (Nat.digitChar digit)) = false := by decide
      exact ⟨_, _, rfl, solid digit small⟩

theorem startsSolid_numberText (number : Number) : StartsSolid (numberText number) := by
  cases number with
  | integer value =>
      cases value with
      | ofNat number => exact startsSolid_signed false (startsWithDigit_ofNat number)
      | negSucc number => exact startsSolid_signed true (startsWithDigit_ofNat (number + 1))
  | decimal negative mantissa exponent =>
      exact startsSolid_signed negative (startsWithDigit_decimalText mantissa exponent)
  | notANumber => exact ⟨_, _, rfl, rfl⟩
  | infinite negative => cases negative <;> exact ⟨_, _, rfl, rfl⟩

theorem spells_number {number : Number} (fits : number.fits maxDigits = true) :
    Spells maxDigits below (numberText number) (.number number) :=
  spells_of_spanToken (startsSolid_numberText number) fun _ => spanToken_numberText fits

theorem startsSolid_stringText (text : LooseText) : StartsSolid (stringText text) :=
  ⟨_, _, rfl, rfl⟩

theorem spells_text (text : Text) :
    Spells maxDigits below (stringText (.ofText text)) (.text (.ofText text)) := by
  intro levels frames rest _ _
  exact reads_of_spanToken (startsSolid_stringText _) (spanToken_stringText maxDigits text rest) rfl

theorem reads_key (levels : Nat) (fields : List (LooseText × Json)) (key : Text)
    (frames : List Frame) (rest : LooseText) :
    Reads levels maxDigits
      (.beforeKey fields frames, .ofText (stringText (.ofText key)) ++ .whole ':' :: rest)
      (.beforeValue (.object fields (.ofText key) :: frames), rest) := by
  have readsText : Reads levels maxDigits
      (.beforeKey fields frames, .ofText (stringText (.ofText key)) ++ .whole ':' :: rest)
      (.afterKey fields (.ofText key) frames, .whole ':' :: rest) := by
    refine reads_of_spanToken (startsSolid_stringText _) (spanToken_stringText maxDigits key _) ?_
    cases fields <;> rfl
  exact readsText.trans (reads_mark rfl rfl rfl)

/-- A text between quotes, a colon and a value spell a field. -/
theorem spellsField (key : Text) {text : Text} {value : Json}
    (spells : Spells maxDigits below text value) :
    SpellsField maxDigits below (stringText (.ofText key) ++ ':' :: text) (.ofText key, value) := by
  intro levels fields frames rest room ends
  rw [LooseText.ofText_append, List.append_assoc, LooseText.ofText_cons, List.cons_append]
  exact (reads_key levels fields key frames _).trans
    (spells levels (.object fields (.ofText key) :: frames) rest room ends)

/-! ## Arrays and objects -/

theorem join_singleton (separator piece : Text) : Text.join separator [piece] = piece :=
  List.intercalate_singleton

theorem join_cons (separator first : Text) {pieces : List Text} (more : pieces ≠ []) :
    Text.join separator (first :: pieces) = first ++ (separator ++ Text.join separator pieces) := by
  rw [← List.singleton_append, Text.join_append separator [first] more]
  simp

/--
Where parts are read: inside, with the parts that have been read, the newest
first, or after one more of them; and after all of them.
-/
structure Enclosure (Part : Type) where
  opening : Char
  closing : Char
  outside : Reader
  inside : List Part → Reader
  afterPart : Part → List Part → Reader
  enclosed : List Part → Reader

def arrayIn (frames : List Frame) : Enclosure Json :=
  { opening := '['
    closing := ']'
    outside := .beforeValue frames
    inside := fun read => .beforeValue (.array read :: frames)
    afterPart := fun item read => .afterValue item (.array read :: frames)
    enclosed := fun items => .afterValue (.array items) frames }

def objectIn (frames : List Frame) : Enclosure (LooseText × Json) :=
  { opening := '\x7b'
    closing := '\x7d'
    outside := .beforeValue frames
    inside := fun read => .beforeKey read frames
    afterPart := fun field read => .afterValue field.2 (.object read field.1 :: frames)
    enclosed := fun fields => .afterValue (.object fields) frames }

namespace Enclosure

variable {Part : Type}

/-- Whether the marks lead from one place to the next. -/
structure Holds (enclosure : Enclosure Part) (levels maxDigits : Nat) : Prop where
  opens : ∀ rest, Reads levels maxDigits (enclosure.outside, .whole enclosure.opening :: rest)
    (enclosure.inside [], rest)
  separates : ∀ part read rest, Reads levels maxDigits
    (enclosure.afterPart part read, .whole ',' :: rest) (enclosure.inside (part :: read), rest)
  closesEmpty : ∀ rest, Reads levels maxDigits
    (enclosure.inside [], .whole enclosure.closing :: rest) (enclosure.enclosed [], rest)
  closes : ∀ part read rest, Reads levels maxDigits
    (enclosure.afterPart part read, .whole enclosure.closing :: rest)
    (enclosure.enclosed (part :: read).reverse, rest)
  isMark : enclosure.closing ∈ endMarks

theorem holds_arrayIn {frames : List Frame} (room : frames.length < levels) :
    (arrayIn frames).Holds levels maxDigits where
  opens _ := reads_mark rfl rfl (if_pos room)
  separates _ _ _ := reads_mark rfl rfl rfl
  closesEmpty _ := reads_mark rfl rfl rfl
  closes _ _ _ := reads_mark rfl rfl rfl
  isMark := (by decide : ']' ∈ endMarks)

theorem holds_objectIn {frames : List Frame} (room : frames.length < levels) :
    (objectIn frames).Holds levels maxDigits where
  opens _ := reads_mark rfl rfl (if_pos room)
  separates _ _ _ := reads_mark rfl rfl rfl
  closesEmpty _ := reads_mark rfl rfl rfl
  closes _ _ _ := reads_mark rfl rfl rfl
  isMark := (by decide : '\x7d' ∈ endMarks)

variable {enclosure : Enclosure Part} (holds : enclosure.Holds levels maxDigits)
  {pieces : List (Text × Part)}
  (spelled : ∀ piece ∈ pieces, ∀ read rest, EndsValue rest →
    Reads levels maxDigits (enclosure.inside read, .ofText piece.1 ++ rest)
      (enclosure.afterPart piece.2 read, rest))

include holds spelled

/-- Whatever parts have been read, the texts of further ones are read as these. -/
theorem reads_parts (nonempty : pieces ≠ []) (read : List Part) {rest : LooseText}
    (ends : EndsValue rest) :
    ∃ part others, read.reverse ++ pieces.map Prod.snd = (part :: others).reverse ∧
      Reads levels maxDigits
        (enclosure.inside read, .ofText (Text.join [','] (pieces.map Prod.fst)) ++ rest)
        (enclosure.afterPart part others, rest) := by
  induction pieces generalizing read with
  | nil => exact absurd rfl nonempty
  | cons piece following ih =>
      obtain ⟨spells, spelledOthers⟩ := List.forall_mem_cons.mp spelled
      cases following with
      | nil =>
          refine ⟨piece.2, read, by simp, ?_⟩
          rw [List.map_singleton, join_singleton]
          exact spells read rest ends
      | cons next more =>
          have nonemptyTexts : (next :: more).map Prod.fst ≠ [] := List.cons_ne_nil _ _
          obtain ⟨part, others, areParts, reads⟩ :=
            ih spelledOthers (List.cons_ne_nil next more) (piece.2 :: read)
          refine ⟨part, others, by rw [← areParts]; simp, ?_⟩
          rw [List.map_cons, join_cons _ _ nonemptyTexts, LooseText.ofText_append,
            List.append_assoc]
          have endsFirst := endsValue_cons (by decide : ',' ∈ endMarks)
            (.ofText (Text.join [','] ((next :: more).map Prod.fst)) ++ rest)
          exact (spells read _ endsFirst).trans ((holds.separates piece.2 read _).trans reads)

/-- Parts with commas between them are read from the mark that opens them to the one that closes. -/
theorem reads_enclosed {blank : Text} (isBlank : IsBlank blank) (rest : LooseText) :
    Reads levels maxDigits
      (enclosure.outside, .ofText (enclosure.opening ::
        (Text.join [','] (pieces.map Prod.fst) ++ blank ++ [enclosure.closing])) ++ rest)
      (enclosure.enclosed (pieces.map Prod.snd), rest) := by
  rw [LooseText.ofText_cons, LooseText.ofText_append, LooseText.ofText_append, List.cons_append,
    List.append_assoc, List.append_assoc]
  refine (holds.opens _).trans ?_
  cases pieces with
  | nil => exact (reads_blank isBlank _ _).trans (holds.closesEmpty rest)
  | cons piece others =>
      obtain ⟨part, others, areParts, reads⟩ := reads_parts holds spelled
        (List.cons_ne_nil piece others) []
        (endsValue_blank isBlank (endsValue_cons holds.isMark rest))
      have closed := holds.closes part others rest
      rw [← areParts] at closed
      exact reads.trans ((reads_blank isBlank _ _).trans closed)

end Enclosure

/-- The texts of items with commas between them and brackets around them spell an array. -/
theorem spells_array {pieces : List (Text × Json)} {blank : Text}
    (spelled : ∀ piece ∈ pieces, Spells maxDigits below piece.1 piece.2)
    (isBlank : IsBlank blank) :
    Spells maxDigits (below + 1) ('[' :: (Text.join [','] (pieces.map Prod.fst) ++ blank ++ [']']))
      (.array (pieces.map Prod.snd)) := by
  intro levels frames rest room _
  apply Enclosure.reads_enclosed (Enclosure.holds_arrayIn (by omega)) ?_ isBlank rest
  intro piece member read rest
  apply spelled piece member levels (.array read :: frames) rest
  rw [List.length_cons]
  omega

/-- The texts of fields with commas between them and braces around them spell an object. -/
theorem spells_object {pieces : List (Text × (LooseText × Json))} {blank : Text}
    (spelled : ∀ piece ∈ pieces, SpellsField maxDigits below piece.1 piece.2)
    (isBlank : IsBlank blank) :
    Spells maxDigits (below + 1)
      ('\x7b' :: (Text.join [','] (pieces.map Prod.fst) ++ blank ++ ['\x7d']))
      (.object (pieces.map Prod.snd)) := by
  intro levels frames rest room _
  apply Enclosure.reads_enclosed (Enclosure.holds_objectIn (by omega)) ?_ isBlank rest
  intro piece member read rest
  apply spelled piece member levels read frames rest
  omega

/-! ## Whole texts -/

/-- What spells a value is read as the value, if so many arrays and objects may be open. -/
theorem Spells.readBounded_eq {text : Text} {value : Json}
    (spells : Spells maxDigits below text value) (room : below ≤ levels) {blank : Text}
    (isBlank : IsBlank blank) :
    readBounded levels maxDigits (.ofText (text ++ blank)) = .ok value := by
  have readsBlank : Reads levels maxDigits (.afterValue value [], .ofText blank)
      (.afterValue value [], []) :=
    List.append_nil (LooseText.ofText blank) ▸ reads_blank isBlank (.afterValue value []) []
  have ends : EndsValue (.ofText blank) :=
    List.append_nil (LooseText.ofText blank) ▸ endsValue_blank isBlank endsValue_nil
  rw [LooseText.ofText_append]
  exact readBounded_of_reads
    ((spells levels [] _ ((Nat.zero_add below).symm ▸ room) ends).trans readsBlank)

end Json

end SnippetSearch
