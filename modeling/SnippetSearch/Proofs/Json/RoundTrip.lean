import SnippetSearch.Proofs.Json.Spelling

/-!
# Values that are read back

A value that is written over several lines is read back as it was, whatever
characters stand in its texts, if none of them holds the half of a surrogate
pair.  The reader must let as many arrays and objects be open at once as there
are in the value, and integers have as many digits.
-/

namespace SnippetSearch

theorem LooseText.exists_eq_ofText {loose : LooseText} (whole : loose.hasHalf = false) :
    ∃ text, loose = .ofText text := by
  induction loose with
  | nil => exact ⟨[], rfl⟩
  | cons point rest ih =>
      obtain ⟨isWhole, wholeRest⟩ := Bool.or_eq_false_iff.mp whole
      obtain ⟨text, rfl⟩ := ih wholeRest
      cases point with
      | whole character => exact ⟨character :: text, rfl⟩
      | half code => cases isWhole

namespace Json

variable {maxDigits : Nat}

/-! ## Values that can be read back -/

mutual

/--
Whether a value has no halves in its texts, no longer integers than allowed, and
no more arrays and objects inside each other.
-/
def fits (maxDigits : Nat) : Nat → Json → Bool
  | _, .null | _, .bool _ => true
  | _, .number value => value.fits maxDigits
  | _, .text value => !value.hasHalf
  | 0, .array _ | 0, .object _ => false
  | below + 1, .array items => itemsFit maxDigits below items
  | below + 1, .object fields => fieldsFit maxDigits below fields

def itemsFit (maxDigits : Nat) : Nat → List Json → Bool
  | _, [] => true
  | below, item :: rest => fits maxDigits below item && itemsFit maxDigits below rest

def fieldsFit (maxDigits : Nat) : Nat → List (LooseText × Json) → Bool
  | _, [] => true
  | below, (key, value) :: rest =>
      !key.hasHalf && fits maxDigits below value && fieldsFit maxDigits below rest

end

theorem itemsFit_eq_all (below : Nat) (items : List Json) :
    itemsFit maxDigits below items = items.all (fits maxDigits below) := by
  induction items with
  | nil => rfl
  | cons item rest ih => rw [itemsFit, ih, List.all_cons]

@[simp] theorem fits_number (below : Nat) (value : Number) :
    fits maxDigits below (.number value) = value.fits maxDigits := by
  cases below <;> rfl

@[simp] theorem fits_ofText (below : Nat) (text : Text) :
    fits maxDigits below (.ofText text) = true := by
  have whole : (!(LooseText.ofText text).hasHalf) = true := by rw [LooseText.hasHalf_ofText]; rfl
  cases below <;> exact whole

/-- An object whose keys are texts fits if its fields do. -/
theorem fits_record (below : Nat) (fields : List (Text × Json)) :
    fits maxDigits (below + 1) (.record fields) =
      fields.all fun field => fits maxDigits below field.2 := by
  rw [record, fits]
  induction fields with
  | nil => rfl
  | cons field rest ih =>
      rw [List.map_cons, fieldsFit, LooseText.hasHalf_ofText, ih]
      rfl

/-! ## Lines -/

def indentedItem (level : Nat) (item : Json) : Text :=
  newLine level ++ indented level item

def indentedField (level : Nat) (field : LooseText × Json) : Text :=
  newLine level ++ (stringText field.1 ++ ':' :: ([' '] ++ indented level field.2))

theorem indentedItems_eq_join (level : Nat) (items : List Json) :
    indentedItems level items = Text.join [','] (items.map (indentedItem level)) := by
  induction items with
  | nil => rfl
  | cons item others ih =>
      cases others with
      | nil => exact (join_singleton [','] (indentedItem level item)).symm
      | cons next rest =>
          have more : (next :: rest).map (indentedItem level) ≠ [] := List.cons_ne_nil _ _
          rw [indentedItems, ih]
          exact (join_cons [','] (indentedItem level item) more).symm

theorem indentedFields_eq_join (level : Nat) (fields : List (LooseText × Json)) :
    indentedFields level fields = Text.join [','] (fields.map (indentedField level)) := by
  induction fields with
  | nil => rfl
  | cons field others ih =>
      obtain ⟨key, value⟩ := field
      have line : newLine level ++ stringText key ++ ": ".toList ++ indented level value =
          indentedField level (key, value) := by
        rw [List.append_assoc, List.append_assoc]
        rfl
      cases others with
      | nil =>
          rw [indentedFields, line]
          exact (join_singleton [','] _).symm
      | cons next rest =>
          have more : (next :: rest).map (indentedField level) ≠ [] := List.cons_ne_nil _ _
          rw [indentedFields, line, ih]
          exact (join_cons [','] (indentedField level (key, value)) more).symm

def withText {Part : Type} (text : Part → Text) (parts : List Part) : List (Text × Part) :=
  parts.map fun part => (text part, part)

theorem map_fst_withText {Part : Type} (text : Part → Text) (parts : List Part) :
    (withText text parts).map Prod.fst = parts.map text :=
  List.map_map

theorem map_snd_withText {Part : Type} (text : Part → Text) (parts : List Part) :
    (withText text parts).map Prod.snd = parts :=
  List.map_map.trans (List.map_id parts)

theorem isBlank_nil : IsBlank [] := nofun

theorem isBlank_newLine (level : Nat) : IsBlank (newLine level) := by
  intro character member
  rcases List.mem_cons.mp member with feed | space
  · exact .inr feed
  · exact .inl (List.mem_replicate.mp space).2

/-! ## Values over several lines -/

mutual

theorem spells_indented : ∀ {below : Nat} {value : Json}, fits maxDigits below value = true →
    ∀ level, Spells maxDigits below (indented level value) value
  | _, .null, _, _ => spells_null
  | _, .bool value, _, _ => spells_bool value
  | below, .number value, fit, _ => spells_number (fits_number below value ▸ fit)
  | below, .text value, fit, _ => by
      have whole : value.hasHalf = false := by
        cases below <;> exact (Bool.not_eq_true' _).mp fit
      obtain ⟨text, rfl⟩ := LooseText.exists_eq_ofText whole
      exact spells_text text
  | below + 1, .array items, fit, level => by
      have spelled := spells_indentedItems fit (level + 1)
      cases items with
      | nil => exact spells_array spelled isBlank_nil
      | cons item rest =>
          rw [indented, indentedItems_eq_join]
          have spells := spells_array spelled (isBlank_newLine level)
          rwa [map_fst_withText, map_snd_withText] at spells
  | below + 1, .object fields, fit, level => by
      have spelled := spells_indentedFields fit (level + 1)
      cases fields with
      | nil => exact spells_object spelled isBlank_nil
      | cons field rest =>
          rw [indented, indentedFields_eq_join]
          have spells := spells_object spelled (isBlank_newLine level)
          rwa [map_fst_withText, map_snd_withText] at spells

theorem spells_indentedItems : ∀ {below : Nat} {items : List Json},
    itemsFit maxDigits below items = true → ∀ level,
    ∀ piece ∈ withText (indentedItem level) items,
      Spells maxDigits below piece.1 piece.2
  | _, [], _, _ => nofun
  | below, first :: rest, fit, level => by
      obtain ⟨fitFirst, fitRest⟩ := Bool.and_eq_true_iff.mp fit
      refine List.forall_mem_cons.mpr ⟨?_, spells_indentedItems fitRest level⟩
      exact (spells_indented fitFirst level).blank (isBlank_newLine level)

theorem spells_indentedFields : ∀ {below : Nat} {fields : List (LooseText × Json)},
    fieldsFit maxDigits below fields = true → ∀ level,
    ∀ piece ∈ withText (indentedField level) fields,
      SpellsField maxDigits below piece.1 piece.2
  | _, [], _, _ => nofun
  | below, (key, value) :: rest, fit, level => by
      obtain ⟨fitFirst, fitRest⟩ := Bool.and_eq_true_iff.mp fit
      obtain ⟨wholeKey, fitValue⟩ := Bool.and_eq_true_iff.mp fitFirst
      refine List.forall_mem_cons.mpr ⟨?_, spells_indentedFields fitRest level⟩
      obtain ⟨text, rfl⟩ := LooseText.exists_eq_ofText ((Bool.not_eq_true' _).mp wholeKey)
      have isSpace : IsBlank [' '] := by simp [IsBlank]
      exact (spellsField text ((spells_indented fitValue level).blank isSpace)).blank
        (isBlank_newLine level)

end

/-- A value that fits is read back after it has been written, with spaces around it or none. -/
theorem readBounded_pretty {levels : Nat} {value : Json}
    (fit : fits maxDigits levels value = true) {before after : Text} (isBefore : IsBlank before)
    (isAfter : IsBlank after) :
    readBounded levels maxDigits (.ofText (before ++ (value.pretty ++ after))) = .ok value := by
  rw [← List.append_assoc]
  exact ((spells_indented fit 0).blank isBefore).readBounded_eq (Nat.le_refl levels) isAfter

/-- A quote, a backslash and a character of two halves. -/
example :
    readBounded 1 1 (.ofText (pretty (.ofText ['"', '\\', '😀']))) =
      .ok (.ofText ['"', '\\', '😀']) := by
  rfl

end Json

end SnippetSearch
