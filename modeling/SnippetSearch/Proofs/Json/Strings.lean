import SnippetSearch.Json.Printer
import SnippetSearch.Json.Reader

/-!
# Strings that are read back

Each character of a text is written in a way of its own: as it is, as an escape
of one letter, as the escape of its code, or as the escapes of two halves.
Reading turns each of these ways back into the character, so that a text is
read as it was, whatever characters it holds.
-/

namespace SnippetSearch

namespace Json

/-! ## Escapes -/

def withUnits (units : List StringUnit) (read : List StringUnit × LooseText) :
    List StringUnit × LooseText :=
  (units ++ read.1, read.2)

theorem stringUnits?_short {letter character : Char}
    (short : shortEscape? letter = some character) (rest : LooseText) :
    stringUnits? (.whole '\\' :: .whole letter :: rest) =
      (stringUnits? rest).map (withUnits [.plain (.whole character)]) := by
  have notCode : letter ≠ 'u' := by
    rintro rfl
    cases short
  rw [stringUnits?]
  · rw [short]
    cases stringUnits? rest <;> rfl
  · exact fun _ _ _ _ _ _ isCode => notCode isCode

theorem stringUnits?_plain {point : CodePoint} (plain : isPlain point = true)
    (notQuote : point ≠ .whole '"') (rest : LooseText) :
    stringUnits? (point :: rest) = (stringUnits? rest).map (withUnits [.plain point]) := by
  have notBackslash : point ≠ .whole '\\' := by
    rintro rfl
    cases plain
  rw [stringUnits?]
  · rw [if_pos plain]
    cases stringUnits? rest <;> rfl
  · exact notQuote
  · exact fun _ _ _ _ _ isBackslash _ => notBackslash isBackslash
  · exact fun _ _ isBackslash _ => notBackslash isBackslash

theorem hexValue?_digitChar {digit : Nat} (small : digit < 16) :
    Text.hexValue? (Nat.digitChar digit) = some digit := by
  have all : ∀ digit < 16, Text.hexValue? (Nat.digitChar digit) = some digit := by decide
  exact all digit small

theorem stringUnits?_unitEscape {code : Nat} (short : code < 0x10000) (rest : LooseText) :
    stringUnits? (.ofText (unitEscape code) ++ rest) =
      (stringUnits? rest).map (withUnits [.escaped code]) := by
  have digits : Text.hexDigits 4 code = [Nat.digitChar (code / 16 / 16 / 16 % 16),
    Nat.digitChar (code / 16 / 16 % 16), Nat.digitChar (code / 16 % 16),
    Nat.digitChar (code % 16)] := rfl
  rw [unitEscape, digits]
  simp only [LooseText.ofText_cons, LooseText.ofText_nil, List.cons_append, List.nil_append]
  rw [stringUnits?]
  rw [hexValue?_digitChar (Nat.mod_lt _ (by decide)),
    hexValue?_digitChar (Nat.mod_lt _ (by decide)),
    hexValue?_digitChar (Nat.mod_lt _ (by decide)), hexValue?_digitChar (Nat.mod_lt _ (by decide))]
  have whole : ((code / 16 / 16 / 16 % 16 * 16 + code / 16 / 16 % 16) * 16 + code / 16 % 16) * 16 +
      code % 16 = code := by omega
  cases stringUnits? rest with
  | none => rfl
  | some read =>
    simp only [Option.bind_eq_bind, Option.bind_some, Option.map_some, withUnits]
    rw [whole]
    rfl

/-! ## Characters -/

theorem toNat_lt (character : Char) : character.toNat < 0x110000 :=
  character.valid.elim (fun low => Nat.lt_trans low (by decide)) And.right

/-- The escape of a character that takes one code stands for it, whatever follows. -/
theorem joinEscapes_escaped (character : Char) (more : List StringUnit) :
    joinEscapes (.escaped character.toNat :: more) = .whole character :: joinEscapes more := by
  have valid : character.toNat < 0xD800 ∨ 0xDFFF < character.toNat :=
    character.valid.imp id And.left
  have isWhole : CodePoint.ofCode character.toNat = .whole character := by
    rw [CodePoint.ofCode, CodePoint.isHalf, if_neg, Char.ofNat_toNat]
    rw [Bool.and_eq_true, decide_eq_true_eq, decide_eq_true_eq]
    omega
  have noPair (low : Nat) : CodePoint.joined? character.toNat low = none :=
    if_neg (by omega)
  cases more with
  | nil => exact congrArg (List.cons · _) isWhole
  | cons unit rest =>
      cases unit with
      | plain point => exact congrArg (List.cons · _) isWhole
      | escaped low => rw [joinEscapes, noPair, isWhole]

theorem joinEscapes_halves {character : Char} (large : 0x10000 ≤ character.toNat)
    (more : List StringUnit) :
    joinEscapes (.escaped (0xD800 + (character.toNat - 0x10000) / 0x400) ::
      .escaped (0xDC00 + (character.toNat - 0x10000) % 0x400) :: more) =
        .whole character :: joinEscapes more := by
  have small := toNat_lt character
  have joined : CodePoint.joined? (0xD800 + (character.toNat - 0x10000) / 0x400)
      (0xDC00 + (character.toNat - 0x10000) % 0x400) = some character := by
    rw [CodePoint.joined?, if_pos (by omega)]
    have whole : 0x10000 + (0xD800 + (character.toNat - 0x10000) / 0x400 - 0xD800) * 0x400 +
        (0xDC00 + (character.toNat - 0x10000) % 0x400 - 0xDC00) = character.toNat := by omega
    rw [whole, Char.ofNat_toNat]
  rw [joinEscapes, joined]

/-- The ways in which a character is written in a string. -/
inductive WrittenAs (character : Char) : Text → Prop where
  | short {letter : Char} (shown : 0x20 ≤ letter.toNat ∧ letter.toNat < 0x7F)
      (stands : shortEscape? letter = some character) : WrittenAs character ['\\', letter]
  | plain (shown : 0x20 ≤ character.toNat ∧ character.toNat < 0x7F)
      (noQuote : character ≠ '"') (noBackslash : character ≠ '\\') :
      WrittenAs character [character]
  | code (small : character.toNat < 0x10000) : WrittenAs character (unitEscape character.toNat)
  | halves (large : 0x10000 ≤ character.toNat) :
      WrittenAs character
        (unitEscape (0xD800 + (character.toNat - 0x10000) / 0x400) ++
          unitEscape (0xDC00 + (character.toNat - 0x10000) % 0x400))

theorem writtenAs_stringChar (character : Char) : WrittenAs character (stringChar character) := by
  unfold stringChar
  by_cases quote : character = '"'
  · rw [if_pos quote]
    exact .short (by decide) (congrArg some quote.symm)
  rw [if_neg quote]
  by_cases backslash : character = '\\'
  · rw [if_pos backslash]
    exact .short (by decide) (congrArg some backslash.symm)
  rw [if_neg backslash]
  by_cases feed : character = '\n'
  · rw [if_pos feed]
    exact .short (by decide) (congrArg some feed.symm)
  rw [if_neg feed]
  by_cases ret : character = '\r'
  · rw [if_pos ret]
    exact .short (by decide) (congrArg some ret.symm)
  rw [if_neg ret]
  by_cases tab : character = '\t'
  · rw [if_pos tab]
    exact .short (by decide) (congrArg some tab.symm)
  rw [if_neg tab]
  by_cases bell : character = '\x08'
  · rw [if_pos bell]
    exact .short (by decide) (congrArg some bell.symm)
  rw [if_neg bell]
  by_cases form : character = '\x0C'
  · rw [if_pos form]
    exact .short (by decide) (congrArg some form.symm)
  rw [if_neg form]
  by_cases shown : 0x20 ≤ character.toNat ∧ character.toNat < 0x7F
  · rw [if_pos shown]
    exact .plain shown quote backslash
  rw [if_neg shown]
  by_cases small : character.toNat < 0x10000
  · rw [if_pos small]
    exact .code small
  · rw [if_neg small]
    exact .halves (Nat.le_of_not_lt small)

/-- However a character is written in a string, it is read as some units that stand for it. -/
theorem WrittenAs.exists_units {character : Char} {text : Text}
    (written : WrittenAs character text) :
    ∃ units, (∀ rest, stringUnits? (.ofText text ++ rest) =
        (stringUnits? rest).map (withUnits units)) ∧
      ∀ more, joinEscapes (units ++ more) = .whole character :: joinEscapes more := by
  cases written with
  | short _ stands =>
      exact ⟨[.plain (.whole character)], stringUnits?_short stands, fun _ => rfl⟩
  | plain shown noQuote noBackslash =>
      refine ⟨[.plain (.whole character)], fun rest => stringUnits?_plain ?_ ?_ rest, fun _ => rfl⟩
      · rw [isPlain, Bool.and_eq_true, decide_eq_true_eq, bne_iff_ne]
        exact ⟨shown.1, fun same => noBackslash (CodePoint.whole.inj same)⟩
      · exact fun same => noQuote (CodePoint.whole.inj same)
  | code small =>
      exact ⟨[.escaped character.toNat], stringUnits?_unitEscape small,
        joinEscapes_escaped character⟩
  | halves large =>
      have bounded := toNat_lt character
      refine ⟨[.escaped _, .escaped _], fun rest => ?_, joinEscapes_halves large⟩
      rw [LooseText.ofText_append, List.append_assoc, stringUnits?_unitEscape (by omega),
        stringUnits?_unitEscape (by omega), Option.map_map]
      rfl

/-! ## Texts -/

theorem exists_units_of_text (text : Text) (rest : LooseText) :
    ∃ units, stringUnits? (.ofText (text.flatMap stringChar) ++ .whole '"' :: rest) =
        some (units, rest) ∧ joinEscapes units = .ofText text := by
  induction text with
  | nil => exact ⟨[], by rw [List.flatMap_nil]; rfl, rfl⟩
  | cons character following ih =>
      obtain ⟨units, areRead, stand⟩ := ih
      obtain ⟨first, isRead, standsFor⟩ := (writtenAs_stringChar character).exists_units
      refine ⟨first ++ units, ?_, ?_⟩
      · rw [List.flatMap_cons, LooseText.ofText_append, List.append_assoc, isRead, areRead]
        rfl
      · rw [standsFor, stand]
        rfl

theorem stringText_ofText (text : Text) :
    stringText (.ofText text) = '"' :: (text.flatMap stringChar ++ ['"']) := by
  rw [stringText, LooseText.ofText, List.flatMap_map]
  rfl

/-- A text between quotes is read as the text, and nothing after it is. -/
theorem spanToken_stringText (maxDigits : Nat) (text : Text) (rest : LooseText) :
    spanToken maxDigits (.ofText (stringText (.ofText text)) ++ rest) =
      (.text (.ofText text), rest) := by
  obtain ⟨units, areRead, stand⟩ := exists_units_of_text text rest
  rw [stringText_ofText, LooseText.ofText_cons, LooseText.ofText_append, List.cons_append,
    List.append_assoc, LooseText.ofText_cons, LooseText.ofText_nil, List.singleton_append,
    spanToken,
    areRead]
  dsimp only
  rw [stand]

end Json

end SnippetSearch
