import Mathlib.Data.List.Find
import Mathlib.Data.List.Infix
import Mathlib.Data.List.TakeWhile
import SnippetSearch.Proofs.Text.Ascii
import SnippetSearch.Proofs.Text.Trimming
import SnippetSearch.Scope

/-!
# Declarations of types

The keywords of types are tried in a fixed order, and each is looked for in the
whole line, with a space behind it but in the middle of a word as well.  Words
in front of the own keyword of a declaration do no harm, and the name behind it
ends where it should.  But a keyword that is tried earlier and stands further
behind, at the end of the name itself or in what follows it, comes first.
-/

namespace SnippetSearch

/-! ## Words in front of a text -/

namespace Text

theorem takeWhile_word {word : Text} (single : ' ' ∉ word) (rest : Text) :
    (word ++ ' ' :: rest).takeWhile (· != ' ') = word := by
  have inWord : ∀ character ∈ word, (character != ' ') = true := by
    intro character held
    rw [bne_iff_ne]
    rintro rfl
    exact single held
  rw [List.takeWhile_append_of_pos inWord, List.takeWhile_cons_of_neg (by decide),
    List.append_nil]

/-- A word with a space stands in front of a text only if it is the first word of the text. -/
theorem isPrefixOf_word_iff {keyword word : Text} (oneWord : ' ' ∉ keyword) (single : ' ' ∉ word)
    (rest : Text) :
    (keyword ++ [' ']).isPrefixOf (word ++ ' ' :: rest) = true ↔ keyword = word := by
  rw [List.isPrefixOf_iff_prefix]
  constructor
  · rintro ⟨more, same⟩
    rw [List.append_assoc, List.singleton_append] at same
    rw [← takeWhile_word oneWord more, same, takeWhile_word single]
  · rintro rfl
    exact ⟨rest, by rw [List.append_assoc, List.singleton_append]⟩

theorem after?_word {keyword word : Text} (oneWord : ' ' ∉ keyword) (nonempty : keyword ≠ [])
    (single : ' ' ∉ word) (rest : Text) :
    after? (keyword ++ [' ']) (word ++ ' ' :: rest) =
      if keyword <:+ word then some rest else after? (keyword ++ [' ']) rest := by
  induction word with
  | nil =>
      have absent := (isPrefixOf_word_iff oneWord single rest).not.mpr nonempty
      rw [List.nil_append] at absent ⊢
      rw [after?, if_neg absent, if_neg (List.suffix_nil.not.mpr nonempty)]
  | cons character more ih =>
      have starts := isPrefixOf_word_iff oneWord single rest
      rw [List.cons_append] at starts ⊢
      rw [after?]
      by_cases whole : keyword = character :: more
      · rw [if_pos (starts.mpr whole), if_pos (whole ▸ List.suffix_rfl), whole]
        simp
      · rw [if_neg (starts.not.mpr whole), ih (List.not_mem_of_not_mem_cons single)]
        simp only [List.suffix_cons_iff, whole, false_or]

theorem after?_words {keyword : Text} (oneWord : ' ' ∉ keyword) (nonempty : keyword ≠ [])
    {words : List Text} (passed : ∀ word ∈ words, ' ' ∉ word ∧ ¬ keyword <:+ word) (rest : Text) :
    after? (keyword ++ [' ']) (words.flatMap (· ++ [' ']) ++ rest) =
      after? (keyword ++ [' ']) rest := by
  induction words with
  | nil => rfl
  | cons word others ih =>
      obtain ⟨⟨single, other⟩, passed⟩ := List.forall_mem_cons.mp passed
      rw [List.flatMap_cons, List.append_assoc, List.append_assoc, List.singleton_append,
        after?_word oneWord nonempty single, if_neg other, ih passed]

end Text

/-- The first element to pass a test stands before a given one that passes it, or is that one. -/
theorem find?_eq_of_mem {α : Type} [BEq α] [LawfulBEq α] {test : α → Bool} {elements : List α}
    {element : α} (member : element ∈ elements) (passes : test element = true) :
    elements.find? test =
      some (((elements.takeWhile (· != element)).find? test).getD element) := by
  induction elements with
  | nil => cases member
  | cons first rest ih =>
      by_cases same : first = element
      · subst same
        rw [List.find?_cons_of_pos passes, List.takeWhile_cons_of_neg (by simp)]
        rfl
      · have member := (List.mem_cons.mp member).resolve_left (Ne.symm same)
        rw [List.takeWhile_cons_of_pos (by simpa using same), List.find?_cons, List.find?_cons,
          ih member]
        cases test first <;> rfl

namespace Scope

/-! ## Lines that declare a type -/

/-- Whether a word can stand in front of the keyword of a type. -/
structure IsModifier (word : Text) : Prop where
  single : ' ' ∉ word
  otherThanNamespace : word ≠ "namespace".toList
  otherThanTypes : ∀ keyword ∈ typeKeywords, ¬ keyword <:+ word

instance : DecidablePred IsModifier := fun word =>
  decidable_of_iff
    (' ' ∉ word ∧ word ≠ "namespace".toList ∧ ∀ keyword ∈ typeKeywords, ¬ keyword <:+ word)
    ⟨fun ⟨single, notNamespace, notType⟩ => ⟨single, notNamespace, notType⟩,
      fun ⟨single, notNamespace, notType⟩ => ⟨single, notNamespace, notType⟩⟩

/-- Whether a word is made of letters, digits and underscores. -/
structure IsIdentifier (word : Text) : Prop where
  nonempty : word ≠ []
  plain : ∀ character ∈ word, character.isAlphanum = true ∨ character = '_'

instance : DecidablePred IsIdentifier := fun word =>
  decidable_of_iff
    (word ≠ [] ∧ word.all (fun character => character.isAlphanum || character == '_') = true) <| by
      simp only [List.all_eq_true, Bool.or_eq_true, beq_iff_eq]
      exact ⟨fun ⟨nonempty, plain⟩ => ⟨nonempty, plain⟩,
        fun ⟨nonempty, plain⟩ => ⟨nonempty, plain⟩⟩

/-- The parts of a line that declares a type. -/
structure TypeDeclaration where
  modifiers : List Text
  keyword : Text
  name : Text
  tail : Text
  areModifiers : ∀ word ∈ modifiers, IsModifier word
  isKeyword : keyword ∈ typeKeywords
  isIdentifier : IsIdentifier name
  tailEnds : tail.head?.all endsName = true

example : ∀ word ∈ ["public", "private", "protected", "internal", "file", "abstract", "sealed",
    "static", "partial", "readonly", "ref", "unsafe", "new", "async", "const", "event", "extern",
    "override", "required", "virtual", "volatile", "record"], IsModifier word.toList := by
  decide

theorem forall_mem_typeKeywords : ∀ keyword ∈ typeKeywords,
    keyword ≠ [] ∧ ' ' ∉ keyword ∧ keyword ≠ "namespace".toList ∧
      ∀ other ∈ typeKeywords, other <:+ keyword → other = keyword := by
  decide

theorem IsIdentifier.not_blank {word : Text} (isIdentifier : IsIdentifier word)
    {character : Char} (held : character ∈ word) :
    Text.isBlank character = false ∧ endsName character = false := by
  have checked : ∀ code < 0x7F, (Char.ofNat code).isAlphanum = true →
      Text.isBlank (Char.ofNat code) = false ∧ endsName (Char.ofNat code) = false := by
    decide +kernel
  rcases isIdentifier.plain character held with plain | rfl
  · obtain ⟨code, small, rfl⟩ :=
      Text.exists_code_of_isPrintable (Text.isPrintable_of_isAlphanum plain)
    exact checked code small plain
  · decide

theorem nameAfter_of_after? {keyword line name tail : Text} (isIdentifier : IsIdentifier name)
    (tailEnds : tail.head?.all endsName = true)
    (found : Text.after? (keyword ++ [' ']) line = some (name ++ tail)) :
    nameAfter keyword line = name := by
  have plain : ∀ character ∈ name, Text.isBlank character = false :=
    fun character held => (isIdentifier.not_blank held).1
  have inName : ∀ character ∈ name, (!endsName character) = true := by
    intro character held
    rw [(isIdentifier.not_blank held).2, Bool.not_false]
  have nothingMore : (Text.trimEnd tail).takeWhile (fun character => !endsName character) = [] := by
    cases trimmed : Text.trimEnd tail with
    | nil => rfl
    | cons first rest =>
        obtain ⟨more, same⟩ := Text.trimEnd_isPrefix tail
        rw [← same, trimmed, List.cons_append, List.head?_cons, Option.all_some] at tailEnds
        rw [List.takeWhile_cons_of_neg]
        rw [tailEnds]
        decide
  have alone : Text.trim name = name := by
    have trimmed := Text.trim_append isIdentifier.nonempty plain []
    rw [List.append_nil] at trimmed
    exact trimmed.trans (List.append_nil name)
  rw [nameAfter, found]
  dsimp only
  rw [Text.trim_append isIdentifier.nonempty plain, List.takeWhile_append_of_pos inName,
    nothingMore, List.append_nil, alone]

namespace TypeDeclaration

def behind (declaration : TypeDeclaration) : Text :=
  declaration.name ++ declaration.tail

def line (declaration : TypeDeclaration) : Text :=
  declaration.modifiers.flatMap (· ++ [' ']) ++
    (declaration.keyword ++ ' ' :: declaration.behind)

def earlierKeywords (declaration : TypeDeclaration) : List Text :=
  typeKeywords.takeWhile (· != declaration.keyword)

/--
The keyword that hides the own one: of those that are tried earlier, the first that
stands, with a space, somewhere behind the own one.
-/
def hidingKeyword? (declaration : TypeDeclaration) : Option Text :=
  declaration.earlierKeywords.find? fun keyword => declaration.behind.includes (keyword ++ [' '])

variable (declaration : TypeDeclaration)

theorem of_mem_earlierKeywords {keyword : Text} (member : keyword ∈ declaration.earlierKeywords) :
    keyword ∈ typeKeywords ∧ keyword ≠ declaration.keyword := by
  have passes := List.mem_takeWhile_imp member
  exact ⟨(List.takeWhile_prefix _).subset member, bne_iff_ne.mp passes⟩

/-- A keyword of types is found where it is the own one, or else behind that. -/
theorem after?_line {keyword : Text} (isKeyword : keyword ∈ typeKeywords) :
    Text.after? (keyword ++ [' ']) declaration.line =
      if keyword = declaration.keyword then some declaration.behind
      else Text.after? (keyword ++ [' ']) declaration.behind := by
  obtain ⟨nonempty, oneWord, -, -⟩ := forall_mem_typeKeywords keyword isKeyword
  obtain ⟨-, single, -, distinct⟩ :=
    forall_mem_typeKeywords declaration.keyword declaration.isKeyword
  have passed : ∀ word ∈ declaration.modifiers, ' ' ∉ word ∧ ¬ keyword <:+ word :=
    fun word member => ⟨(declaration.areModifiers word member).single,
      (declaration.areModifiers word member).otherThanTypes keyword isKeyword⟩
  have ownOnly : keyword <:+ declaration.keyword ↔ keyword = declaration.keyword :=
    ⟨distinct keyword isKeyword, fun same => same ▸ List.suffix_rfl⟩
  rw [line, Text.after?_words oneWord nonempty passed, Text.after?_word oneWord nonempty single]
  simp only [ownOnly]

theorem not_namespace_line : ¬ "namespace ".toList.isPrefixOf declaration.line = true := by
  have starts (word rest : Text) (single : ' ' ∉ word) :
      "namespace ".toList.isPrefixOf (word ++ ' ' :: rest) = true ↔ "namespace".toList = word := by
    have oneWord : ' ' ∉ "namespace".toList := by decide
    exact Text.isPrefixOf_word_iff oneWord single rest
  rw [line]
  cases first : declaration.modifiers with
  | nil =>
      obtain ⟨-, single, notNamespace, -⟩ :=
        forall_mem_typeKeywords declaration.keyword declaration.isKeyword
      rw [List.flatMap_nil, List.nil_append, starts _ _ single]
      exact notNamespace.symm
  | cons word others =>
      have isModifier := declaration.areModifiers word (first ▸ List.mem_cons_self)
      rw [List.flatMap_cons, List.append_assoc, List.append_assoc, List.singleton_append,
        starts _ _ isModifier.single]
      exact isModifier.otherThanNamespace.symm

/-- The name that is read off the line stands behind the keyword that hides the own one. -/
theorem declaredName?_line :
    declaredName? declaration.line =
      some ((declaration.hidingKeyword?.map fun other =>
        nameAfter other declaration.behind).getD declaration.name) := by
  have includes_eq (keyword : Text) (isKeyword : keyword ∈ typeKeywords) :
      declaration.line.includes (keyword ++ [' ']) =
        (keyword == declaration.keyword || declaration.behind.includes (keyword ++ [' '])) := by
    rw [Text.includes, declaration.after?_line isKeyword, Text.includes]
    by_cases own : keyword = declaration.keyword
    · rw [if_pos own, beq_iff_eq.mpr own, Bool.true_or, Option.isSome_some]
    · rw [if_neg own, beq_eq_false_iff_ne.mpr own, Bool.false_or]
  have ownFound : declaration.line.includes (declaration.keyword ++ [' ']) = true := by
    rw [includes_eq _ declaration.isKeyword, beq_self_eq_true, Bool.true_or]
  have sameTests : ∀ keyword ∈ declaration.earlierKeywords,
      declaration.line.includes (keyword ++ [' ']) =
        declaration.behind.includes (keyword ++ [' ']) := by
    intro keyword member
    obtain ⟨isKeyword, other⟩ := declaration.of_mem_earlierKeywords member
    rw [includes_eq keyword isKeyword, beq_eq_false_iff_ne.mpr other, Bool.false_or]
  rw [declaredName?, if_neg declaration.not_namespace_line,
    find?_eq_of_mem declaration.isKeyword ownFound, ← earlierKeywords,
    List.find?_congr sameTests, ← hidingKeyword?, Option.map_some]
  cases hidden : declaration.hidingKeyword? with
  | none =>
      have found := declaration.after?_line declaration.isKeyword
      rw [if_pos rfl] at found
      exact congrArg some
        (nameAfter_of_after? declaration.isIdentifier declaration.tailEnds found)
  | some other =>
      obtain ⟨isKeyword, distinct⟩ :=
        declaration.of_mem_earlierKeywords (List.mem_of_find?_eq_some hidden)
      rw [Option.getD_some, Option.map_some, Option.getD_some, nameAfter, nameAfter,
        declaration.after?_line isKeyword, if_neg distinct]

theorem hidingKeyword?_of_class (isClass : declaration.keyword = "class".toList) :
    declaration.hidingKeyword? = none := by
  rw [hidingKeyword?, earlierKeywords, isClass]
  rfl

end TypeDeclaration

/-- A line that declares a namespace or a type adds its name, if it has one. -/
theorem step_of_declared {line name : Text} (declared : declaredName? line = some name)
    (parts : List Text) :
    Scan.step ⟨.seekingDeclaration, parts⟩ line =
      ⟨.seekingDeclaration, if name.isEmpty then parts else name :: parts⟩ := by
  rw [Scan.step, declared]
  cases name with
  | nil => rfl
  | cons first rest => rfl

/--
What the search reads off a line that declares a type.  It goes on with the name of
the type in front, unless a keyword that is tried earlier hides the own one: then it
goes on with the name behind that keyword, if there is one.  So it finds the name of
the type exactly if its keyword is not hidden or if the same name happens to stand
there, and the name of a class always.
-/
theorem declared_types_have_own_names (declaration : TypeDeclaration) (parts : List Text) :
    let next := Scan.step ⟨.seekingDeclaration, parts⟩ declaration.line
    (next = ⟨.seekingDeclaration, declaration.name :: parts⟩ ↔
      ∀ other ∈ declaration.hidingKeyword?,
        nameAfter other declaration.behind = declaration.name) ∧
    (∀ other ∈ declaration.hidingKeyword?,
      let name := nameAfter other declaration.behind
      next = ⟨.seekingDeclaration, if name.isEmpty then parts else name :: parts⟩) ∧
    (declaration.keyword = "class".toList → declaration.hidingKeyword? = none) := by
  intro next
  have next_eq : next = _ := step_of_declared declaration.declaredName?_line parts
  refine ⟨?_, ?_, declaration.hidingKeyword?_of_class⟩
  · have named : declaration.name ≠ [] := declaration.isIdentifier.nonempty
    rw [next_eq]
    cases declaration.hidingKeyword? with
    | none => simp [named]
    | some other =>
        simp only [Option.map_some, Option.getD_some, Option.mem_some_iff, forall_eq',
          Scan.mk.injEq, true_and, List.isEmpty_iff]
        split
        · next nameless =>
            rw [nameless]
            exact iff_of_false (List.cons_ne_self _ _).symm named.symm
        · rw [List.cons.injEq, and_iff_left rfl]
  · intro other hides
    rw [next_eq, Option.mem_def.mp hides]
    rfl

/-- A structure, with a class of the same name in the comment behind it. -/
def commentedNode : TypeDeclaration where
  modifiers := ["internal".toList, "readonly".toList]
  keyword := "struct".toList
  name := "Node".toList
  tail := " // was a class Node once".toList
  areModifiers := by decide
  isKeyword := by decide
  isIdentifier := by decide
  tailEnds := by decide

/-- The name of the structure is read off the comment, where it stands again. -/
theorem declared_types_have_own_names_commented :
    commentedNode.line = "internal readonly struct Node // was a class Node once".toList ∧
      "class".toList ∈ commentedNode.hidingKeyword? ∧
      Scan.step Scan.start commentedNode.line = ⟨.seekingDeclaration, ["Node".toList]⟩ := by
  have hides : "class".toList ∈ commentedNode.hidingKeyword? := by decide
  refine ⟨by decide, hides, ?_⟩
  refine (declared_types_have_own_names commentedNode []).1.mpr fun other member => ?_
  obtain rfl := Option.mem_unique hides member
  decide

def subclassEnum : TypeDeclaration where
  modifiers := ["public".toList]
  keyword := "enum".toList
  name := "Subclass".toList
  tail := " { Small, Large }".toList
  areModifiers := by decide
  isKeyword := by decide
  isIdentifier := by decide
  tailEnds := by decide

/-- The search goes on without a name: there is none between the end of the name and the brace. -/
theorem subclassEnum_has_no_name :
    subclassEnum.line = "public enum Subclass { Small, Large }".toList ∧
      Scan.step Scan.start subclassEnum.line = Scan.start ∧
      Scan.step Scan.start subclassEnum.line ≠ ⟨.seekingDeclaration, ["Subclass".toList]⟩ := by
  decide

end Scope

end SnippetSearch
