import SnippetSearch.Proofs.Scope.Descent
import SnippetSearch.Proofs.Text.Pieces
import SnippetSearch.Proofs.Text.Trimming

/-!
# Names in scopes

Whatever the lines are, each of them puts at most one name in front of those
found below it.  The name is a piece of its line without blank space around it,
without a space and without a parenthesis, and it ends the search exactly if it
is that of a method.
-/

namespace SnippetSearch

namespace Text

theorem after?_suffix {needle text rest : Text} (found : after? needle text = some rest) :
    rest <:+ text := by
  induction text with
  | nil =>
      rw [after?] at found
      split at found
      · obtain rfl := Option.some.inj found
        exact List.suffix_rfl
      · cases found
  | cons character others ih =>
      rw [after?] at found
      split at found
      · obtain rfl := Option.some.inj found
        exact List.drop_suffix _ _
      · exact (ih found).trans (List.suffix_cons character others)

theorem afterLast_suffix (separator : Char) (text : Text) : text.afterLast separator <:+ text := by
  rw [afterLast, ← List.reverse_prefix, List.reverse_reverse]
  exact List.takeWhile_prefix _

end Text

namespace Scope

/-- Whether a name can have been read off a line. -/
structure IsNameOn (line name : Text) : Prop where
  nonempty : name ≠ []
  stands : name <:+: line
  trimmed : name.IsTrimmed
  noSpace : ' ' ∉ name
  noParenthesis : '(' ∉ name

/-! ## Reading names -/

/-- What is read behind a keyword stands on the line and goes no further than a name can. -/
theorem nameAfter_spec (keyword line : Text) :
    nameAfter keyword line <:+: line ∧ (nameAfter keyword line).IsTrimmed ∧
      ∀ character ∈ nameAfter keyword line, endsName character = false := by
  rw [nameAfter]
  cases found : Text.after? (keyword ++ [' ']) line with
  | none => exact ⟨List.nil_infix, Text.isTrimmed_nil, List.forall_mem_nil _⟩
  | some rest =>
      dsimp only
      have behind : rest <:+ line := Text.after?_suffix found
      have start : rest.trim.takeWhile (fun character => !endsName character) <+: rest.trim :=
        List.takeWhile_prefix _
      refine ⟨?_, Text.isTrimmed_trim _, fun character held => ?_⟩
      · exact (Text.trim_isInfix _).trans (start.isInfix.trans
          ((Text.trim_isInfix rest).trans behind.isInfix))
      · have passes := List.mem_takeWhile_imp ((Text.trim_isInfix _).subset held)
        exact (Bool.not_eq_true' _).mp passes

/-- What is read before a parenthesis stands on the line, behind the last space. -/
theorem methodName_spec (line : Text) :
    methodName line <:+: line ∧ (methodName line).IsTrimmed ∧
      ' ' ∉ methodName line ∧ '(' ∉ methodName line := by
  have nothing : [] <:+: line ∧ Text.IsTrimmed [] ∧ ' ' ∉ ([] : Text) ∧ '(' ∉ ([] : Text) :=
    ⟨List.nil_infix, Text.isTrimmed_nil, List.not_mem_nil, List.not_mem_nil⟩
  rw [methodName]
  split
  · dsimp only
    split
    · have start : line.takeWhile (· != '(') <+: line := List.takeWhile_prefix _
      generalize isBefore : line.takeWhile (· != '(') = before at start ⊢
      have whole : Text.trim ((Text.trim before).afterLast ' ') <:+: before :=
        (Text.trim_isInfix _).trans ((Text.afterLast_suffix ' ' _).isInfix.trans
          (Text.trim_isInfix before))
      refine ⟨whole.trans start.isInfix, Text.isTrimmed_trim _, fun held => ?_, fun held => ?_⟩
      · exact Text.not_mem_afterLast ' ' _ ((Text.trim_isInfix _).subset held)
      · have held := whole.subset held
        rw [← isBefore] at held
        have passes := List.mem_takeWhile_imp held
        exact bne_iff_ne.mp passes rfl
    · exact nothing
  · exact nothing

theorem exists_keyword_of_declaredName? {line name : Text}
    (declared : declaredName? line = some name) : ∃ keyword, name = nameAfter keyword line := by
  rw [declaredName?] at declared
  split at declared
  · exact ⟨_, (Option.some.inj declared).symm⟩
  · obtain ⟨keyword, -, read⟩ := Option.map_eq_some_iff.mp declared
    exact ⟨keyword, read.symm⟩

theorem isNameOn_of_declared {line name : Text} (declared : declaredName? line = some name)
    (nonempty : name ≠ []) : IsNameOn line name ∧ '\x7b' ∉ name ∧ ':' ∉ name := by
  obtain ⟨keyword, rfl⟩ := exists_keyword_of_declaredName? declared
  obtain ⟨stands, trimmed, plain⟩ := nameAfter_spec keyword line
  have absent (character : Char) (ends : endsName character = true) :
      character ∉ nameAfter keyword line := by
    intro held
    rw [plain character held] at ends
    cases ends
  exact ⟨⟨nonempty, stands, trimmed, absent ' ' rfl, absent '(' rfl⟩, absent '\x7b' rfl,
    absent ':' rfl⟩

theorem isNameOn_methodName {line : Text} (nonempty : methodName line ≠ []) :
    IsNameOn line (methodName line) := by
  obtain ⟨stands, trimmed, noSpace, noParenthesis⟩ := methodName_spec line
  exact ⟨nonempty, stands, trimmed, noSpace, noParenthesis⟩

/-! ## One line and many -/

/-- What one line does: it adds at most one name, and a method ends the search. -/
theorem Scan.step_adds (scan : Scan) (line : Text) :
    (∃ state, state ≠ .foundMethod ∧ scan.step line = ⟨state, scan.parts⟩) ∨
      (∃ name, declaredName? line = some name ∧ name ≠ [] ∧
        scan.step line = ⟨.seekingDeclaration, name :: scan.parts⟩) ∨
      (declaredName? line = none ∧ isMethodDeclaration line = true ∧ methodName line ≠ [] ∧
        scan.step line = ⟨.foundMethod, methodName line :: scan.parts⟩) := by
  obtain ⟨state, parts⟩ := scan
  by_cases seeking : state = .seekingDeclaration
  · subst seeking
    cases declared : declaredName? line with
    | some name =>
        simp only [step, declared]
        split
        · exact .inl ⟨_, ScanState.noConfusion, rfl⟩
        · next nonempty =>
            exact .inr (.inl ⟨name, rfl, fun empty => nonempty (List.isEmpty_iff.mpr empty), rfl⟩)
    | none =>
        simp only [step, declared]
        split
        · next named =>
            rw [Bool.and_eq_true, Bool.not_eq_true', List.isEmpty_eq_false_iff] at named
            exact .inr (.inr ⟨trivial, named.1, named.2, rfl⟩)
        · exact .inl ⟨_, ScanState.noConfusion, rfl⟩
  · exact .inl ⟨.done, ScanState.noConfusion, step_of_stopped seeking line⟩

/-- The name that a line puts in front is well formed, and tells whether the search goes on. -/
theorem Scan.exists_added (scan : Scan) (line : Text) :
    ∃ added : Option Text, (scan.step line).parts = added.toList ++ scan.parts ∧
      (∀ name ∈ added, IsNameOn line name ∧
        (declaredName? line = some name ∧ '\x7b' ∉ name ∧ ':' ∉ name ∨
          declaredName? line = none ∧ isMethodDeclaration line = true ∧
            name = methodName line)) ∧
      ((scan.step line).state = .foundMethod ↔ ∃ name ∈ added, declaredName? line = none) := by
  rcases scan.step_adds line with
    ⟨state, isNotFound, next⟩ | ⟨name, declared, nonempty, next⟩ |
      ⟨undeclared, isMethod, nonempty, next⟩
  · rw [next]
    refine ⟨none, rfl, fun name member => ?_, iff_of_false isNotFound ?_⟩
    · cases member
    · rintro ⟨_, member, -⟩
      cases member
  · rw [next]
    refine ⟨some name, rfl, fun other member => ?_, ?_⟩
    · obtain rfl := Option.some.inj member
      obtain ⟨isName, plain⟩ := isNameOn_of_declared declared nonempty
      exact ⟨isName, .inl ⟨declared, plain⟩⟩
    · rw [declared]
      refine iff_of_false ScanState.noConfusion ?_
      rintro ⟨_, -, absent⟩
      cases absent
  · rw [next]
    refine ⟨some (methodName line), rfl, fun other member => ?_, ?_⟩
    · obtain rfl := Option.some.inj member
      exact ⟨isNameOn_methodName nonempty, .inr ⟨undeclared, isMethod, rfl⟩⟩
    · exact iff_of_true rfl ⟨_, rfl, undeclared⟩

theorem Scan.exists_line_of_mem_parts (lines : List Text) :
    ∀ name ∈ (lines.foldl step start).parts, ∃ line ∈ lines, IsNameOn line name := by
  induction lines using List.reverseRecOn with
  | nil => exact List.forall_mem_nil _
  | append_singleton before line ih =>
      have earlier : ∀ name ∈ (before.foldl step start).parts,
          ∃ other ∈ before ++ [line], IsNameOn other name := by
        intro name member
        obtain ⟨other, isBefore, isName⟩ := ih name member
        exact ⟨other, List.mem_append_left _ isBefore, isName⟩
      have isLast : line ∈ before ++ [line] := List.mem_concat_self
      rw [List.foldl_append, List.foldl_cons, List.foldl_nil]
      rcases (before.foldl step start).step_adds line with
        ⟨state, -, next⟩ | ⟨name, declared, nonempty, next⟩ | ⟨-, -, nonempty, next⟩
      · rw [next]
        exact earlier
      · rw [next, List.forall_mem_cons]
        exact ⟨⟨line, isLast, (isNameOn_of_declared declared nonempty).1⟩, earlier⟩
      · rw [next, List.forall_mem_cons]
        exact ⟨⟨line, isLast, isNameOn_methodName nonempty⟩, earlier⟩

/--
The names of a scope are well formed.  In every search and at each of its lines, at most
one name is put in front of those found so far: the name of a namespace or type, which
has neither a brace nor a colon, or that of a method.  It is a nonempty piece of the
line, with neither a space nor a parenthesis in it and no blank space at its ends.  The
search has found a method exactly if the name is that of a method, and from then on the
names stay as they are.
-/
theorem scope_names_are_well_formed (before : List Text) (line : Text) (rest : List Text) :
    let earlier := before.foldl Scan.step Scan.start
    let later := earlier.step line
    let final := (before ++ line :: rest).foldl Scan.step Scan.start
    (∃ added : Option Text, later.parts = added.toList ++ earlier.parts ∧
      (∀ name ∈ added, IsNameOn line name ∧
        (declaredName? line = some name ∧ '\x7b' ∉ name ∧ ':' ∉ name ∨
          declaredName? line = none ∧ isMethodDeclaration line = true ∧
            name = methodName line)) ∧
      (later.state = .foundMethod ↔ ∃ name ∈ added, declaredName? line = none)) ∧
    (later.state ≠ .seekingDeclaration → final.parts = later.parts) ∧
    ∀ name ∈ final.parts, ∃ other ∈ before ++ line :: rest, IsNameOn other name := by
  intro earlier later final
  refine ⟨earlier.exists_added line, fun stopped => ?_, Scan.exists_line_of_mem_parts _⟩
  have final_eq : final = rest.foldl Scan.step later :=
    List.foldl_append.trans List.foldl_cons
  rw [final_eq, Scan.parts_foldl_step_of_stopped stopped]

end Scope

end SnippetSearch
