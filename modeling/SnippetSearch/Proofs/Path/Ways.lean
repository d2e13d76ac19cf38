import Mathlib.Data.List.Basic
import Mathlib.Data.List.Infix
import Mathlib.Data.List.Induction
import SnippetSearch.Path
import SnippetSearch.Proofs.Text.Lines
import SnippetSearch.Proofs.Text.Pieces

/-!
# Ways from one place to another

A path leads along its components, and a component that stands for the folder
above takes the last name away.  The way from a base to a place goes up to what
the two have in common and down from there: it leads to the place, it goes up
at its start only, and it goes up at all exactly if the place is not below the
base.
-/

namespace SnippetSearch

namespace Path

/-! ## Components -/

/-- What can be told of a text that stands between the slashes of a path and leads somewhere. -/
structure IsComponent (component : Text) : Prop where
  ne_nil : component ≠ []
  no_slash : '/' ∉ component
  ne_self : component ≠ self

theorem IsComponent.leads {component : Text} (isComponent : IsComponent component) :
    (component.isEmpty || component == self) = false := by
  rw [List.isEmpty_eq_false_iff.mpr isComponent.ne_nil, beq_false_of_ne isComponent.ne_self]
  rfl

theorem isComponent_parent : IsComponent parent :=
  ⟨by decide, by decide, by decide⟩

theorem components_eq_filter (path : Text) :
    components path =
      (path.splitOn '/').filter fun component => !component.isEmpty && component != self := by
  rw [components, Text.cut_eq_splitOn]

theorem isComponent_of_mem_components {path component : Text}
    (member : component ∈ components path) : IsComponent component := by
  rw [components_eq_filter, List.mem_filter, Bool.and_eq_true, Bool.not_eq_true',
    List.isEmpty_eq_false_iff, bne_iff_ne] at member
  obtain ⟨isPiece, nonempty, notSelf⟩ := member
  refine ⟨nonempty, fun slash => ?_, notSelf⟩
  have plain : ('/' == '/') = false := Text.not_of_mem_splitOnP isPiece slash
  cases plain

theorem hasNull_of_mem_components {path component : Text} (noNull : hasNull path = false)
    (member : component ∈ components path) : hasNull component = false := by
  rw [hasNull, ← Bool.not_eq_true, List.contains_iff_mem] at noNull ⊢
  exact fun held => noNull ((Text.infix_of_mem_cut (List.mem_filter.mp member).1).subset held)

theorem components_append_slash (path rest : Text) :
    components (path ++ '/' :: rest) = components path ++ components rest := by
  rw [components_eq_filter, List.splitOn_append_cons_self, List.filter_append,
    ← components_eq_filter, ← components_eq_filter]

theorem components_nil : components [] = [] := rfl

theorem components_join {parts : List Text} (areComponents : ∀ part ∈ parts, IsComponent part) :
    components (Text.join ['/'] parts) = parts := by
  cases parts with
  | nil => rfl
  | cons first rest =>
      rw [components, Text.cut_join '/' (List.cons_ne_nil first rest)
        fun part member => (areComponents part member).no_slash]
      refine List.filter_eq_self.mpr fun part member => ?_
      rw [bne, ← Bool.not_or, (areComponents part member).leads]
      rfl

/-- A path behind another one leads on from there, unless it starts at the root. -/
theorem components_append {path rest : Text} (isRelative : isAbsolute rest = false) :
    components (append path rest) = components path ++ components rest := by
  rw [append, isRelative, if_neg Bool.false_ne_true]
  split
  · next joins =>
      rw [Bool.or_eq_true, List.isEmpty_iff, beq_iff_eq] at joins
      rcases joins with rfl | endsWithSlash
      · rfl
      · obtain ⟨start, rfl⟩ := List.getLast?_eq_some_iff.mp endsWithSlash
        rw [List.append_assoc, List.singleton_append, components_append_slash,
          components_append_slash, components_nil, List.append_nil]
  · exact components_append_slash path rest

/-! ## Following steps -/

def startOf (workingFolder : Place) (path : Text) : Place :=
  if isAbsolute path then [] else workingFolder

theorem steps_eq (workingFolder : Place) (path : Text) :
    steps workingFolder path = startOf workingFolder path ++ components path := by
  rw [steps, startOf]
  split <;> rfl

theorem startOf_subset (workingFolder : Place) (path : Text) :
    startOf workingFolder path ⊆ workingFolder := by
  rw [startOf]
  split
  · exact List.nil_subset _
  · exact List.Subset.refl _

theorem foldl_stepFrom_of_names {names : List Text} (downwards : parent ∉ names) (here : Place) :
    names.foldl stepFrom here = here ++ names := by
  induction names generalizing here with
  | nil => exact (List.append_nil here).symm
  | cons name rest ih =>
      rw [List.mem_cons, not_or] at downwards
      rw [List.foldl_cons, ih downwards.2, stepFrom, if_neg (Ne.symm downwards.1),
        List.append_assoc, List.singleton_append]

theorem foldl_stepFrom_replicate (ups : Nat) (here : Place) :
    (List.replicate ups parent).foldl stepFrom here = here.take (here.length - ups) := by
  induction ups generalizing here with
  | zero => exact (List.take_length).symm
  | succ ups ih =>
      rw [List.replicate_succ, List.foldl_cons, ih, stepFrom, if_pos rfl, List.length_dropLast,
        List.dropLast_eq_take, List.take_take]
      congr 1
      omega

theorem normalize_of_names {names : List Text} (downwards : parent ∉ names) :
    normalize names = names :=
  foldl_stepFrom_of_names downwards []

theorem normalize_append (first second : List Text) :
    normalize (first ++ second) = second.foldl stepFrom (normalize first) :=
  List.foldl_append

/-- What steps lead to is named by some of them, none of which goes up. -/
theorem mem_normalize {steps : List Text} {name : Text} (member : name ∈ normalize steps) :
    name ∈ steps ∧ name ≠ parent := by
  induction steps using List.reverseRecOn with
  | nil => cases member
  | append_singleton steps last ih =>
      rw [normalize_append, List.foldl_cons, List.foldl_nil, stepFrom] at member
      rw [List.mem_append]
      split at member
      · obtain ⟨isStep, downwards⟩ := ih (List.dropLast_subset _ member)
        exact ⟨.inl isStep, downwards⟩
      · next notUp =>
          rcases List.mem_append.mp member with earlier | isLast
          · obtain ⟨isStep, downwards⟩ := ih earlier
            exact ⟨.inl isStep, downwards⟩
          · rw [List.mem_singleton.mp isLast]
            exact ⟨.inr List.mem_cons_self, notUp⟩

/-- On the way to where steps lead, nothing is passed that the steps do not pass. -/
theorem exists_prefix_of_prefix_normalize {steps : List Text} {way : Place}
    (isWay : way <+: normalize steps) : ∃ first, first <+: steps ∧ normalize first = way := by
  induction steps using List.reverseRecOn with
  | nil => exact ⟨[], List.nil_prefix, (List.prefix_nil.mp isWay).symm⟩
  | append_singleton steps last ih =>
      have earlier (isWay : way <+: normalize steps) :
          ∃ first, first <+: steps ++ [last] ∧ normalize first = way := by
        obtain ⟨first, isFirst, same⟩ := ih isWay
        exact ⟨first, isFirst.trans (List.prefix_append _ _), same⟩
      have whole := normalize_append steps [last]
      rw [List.foldl_cons, List.foldl_nil, stepFrom] at whole
      rw [whole] at isWay
      split at isWay
      · exact earlier (isWay.trans (List.dropLast_prefix _))
      · next notUp =>
          rw [if_neg notUp] at whole
          rcases List.prefix_concat_iff.mp isWay with same | isWay
          · exact ⟨_, List.prefix_rfl, whole.trans same.symm⟩
          · exact earlier isWay

/-! ## The way from a base to a place -/

theorem take_commonLength (left right : Place) :
    left.take (commonLength left right) = right.take (commonLength left right) := by
  fun_induction commonLength left right with
  | case1 left leftRest rightRest ih =>
      rw [List.take_succ_cons, List.take_succ_cons, ih]
  | case2 => rfl
  | case3 => rfl

theorem commonLength_le (left right : Place) : commonLength left right ≤ left.length := by
  fun_induction commonLength left right with
  | case1 left leftRest rightRest ih => exact Nat.succ_le_succ ih
  | case2 => exact Nat.zero_le _
  | case3 => exact Nat.zero_le _

/-- Two places have the whole of the first in common exactly if the second lies below it. -/
theorem commonLength_eq_length_iff (base place : Place) :
    commonLength base place = base.length ↔ base <+: place := by
  constructor
  · intro whole
    have common := take_commonLength base place
    rw [whole, List.take_length] at common
    rw [common]
    exact List.take_prefix _ _
  · rintro ⟨below, rfl⟩
    induction base with
    | nil => cases below <;> rfl
    | cons name rest ih => rw [List.cons_append, commonLength, if_pos rfl, ih, List.length_cons]

theorem foldl_stepFrom_way {target : Place} (downwards : parent ∉ target) (base : Place) :
    (way base target).foldl stepFrom base = target := by
  have notBelow : parent ∉ target.drop (commonLength base target) :=
    fun member => downwards (List.mem_of_mem_drop member)
  rw [way, List.foldl_append, foldl_stepFrom_replicate, foldl_stepFrom_of_names notBelow,
    Nat.sub_sub_self (commonLength_le base target), take_commonLength,
    List.take_append_drop]

/-- The way goes up at its start exactly if the place is not below the base. -/
theorem head?_way_ne_parent_iff {target : Place} (downwards : parent ∉ target) (base : Place) :
    (way base target).head? ≠ some parent ↔ base <+: target := by
  rw [← commonLength_eq_length_iff, way]
  have bounded := commonLength_le base target
  cases ups : base.length - commonLength base target with
  | zero =>
      have notUp : (target.drop (commonLength base target)).head? ≠ some parent :=
        fun first => downwards (List.mem_of_mem_drop (List.mem_of_head? first))
      exact iff_of_true notUp (by omega)
  | succ ups =>
      exact iff_of_false (fun notUp => notUp rfl) (by omega)

/-! ## Ways as texts -/

section

variable {parts : List Text} (areComponents : ∀ part ∈ parts, IsComponent part)

include areComponents

/-- The text of a way has its parts between its slashes, or is a single dot. -/
theorem cut_wayText : Text.cut '/' (wayText parts) = if parts = [] then [self] else parts := by
  rw [wayText]
  cases parts with
  | nil => rfl
  | cons first rest =>
      exact Text.cut_join '/' (List.cons_ne_nil first rest)
        fun part member => (areComponents part member).no_slash

theorem components_wayText : components (wayText parts) = parts := by
  rw [wayText]
  cases parts with
  | nil => rfl
  | cons first rest => exact components_join areComponents

theorem exists_join_eq_cons (nonempty : parts ≠ []) :
    ∃ first rest, Text.join ['/'] parts = first :: rest ∧ first ≠ '/' := by
  obtain ⟨part, others, rfl⟩ := List.exists_cons_of_ne_nil nonempty
  have isComponent := areComponents part List.mem_cons_self
  obtain ⟨first, more, rfl⟩ := List.exists_cons_of_ne_nil isComponent.ne_nil
  have notSlash : first ≠ '/' := fun same => isComponent.no_slash (same ▸ List.mem_cons_self)
  cases others with
  | nil => exact ⟨first, more, List.intercalate_singleton, notSlash⟩
  | cons next others => exact ⟨first, _, List.intercalate_cons_cons, notSlash⟩

theorem head?_wayText_ne : (wayText parts).head? ≠ some '/' := by
  rw [wayText]
  split
  · decide
  · next someParts =>
      obtain ⟨first, rest, joined, notSlash⟩ :=
        exists_join_eq_cons areComponents (fun empty => someParts (List.isEmpty_iff.mpr empty))
      rw [joined, List.head?_cons]
      exact fun slash => notSlash (Option.some.inj slash)

end

theorem isAbsolute_eq_false_iff (path : Text) :
    isAbsolute path = false ↔ path.head? ≠ some '/' := by
  rw [isAbsolute, beq_eq_false_iff_ne]

theorem startsDoubled_of_head?_ne {rest : Text} (single : rest.head? ≠ some '/') :
    startsDoubled ('/' :: rest) = false := by
  cases rest with
  | nil => rfl
  | cons character more =>
      have notSlash : (character == '/') = false :=
        beq_eq_false_iff_ne.mpr fun same => single (congrArg some same)
      rw [startsDoubled, List.takeWhile_cons_of_pos rfl,
        List.takeWhile_cons_of_neg (by rw [notSlash]; exact Bool.false_ne_true)]
      rfl

/-! ## Places and their paths -/

section

variable {place : Place} (areComponents : ∀ name ∈ place, IsComponent name)

include areComponents

theorem components_placePath : components place.path = place := by
  have rooted := components_append_slash [] (Text.join ['/'] place)
  rw [List.nil_append, components_nil, List.nil_append, components_join areComponents] at rooted
  exact rooted

theorem lexicalPlace_placePath (workingFolder : Place) (downwards : parent ∉ place) :
    lexicalPlace workingFolder place.path = place := by
  have rooted : isAbsolute place.path = true := rfl
  rw [lexicalPlace, steps, rooted, if_pos rfl, components_placePath areComponents,
    normalize_of_names downwards]

theorem lexicalPlace_append (workingFolder : Place) (downwards : parent ∉ place) {rest : Text}
    (relative : isAbsolute rest = false) :
    lexicalPlace workingFolder (append place.path rest) =
      (components rest).foldl stepFrom place := by
  have rooted : isAbsolute (append place.path rest) = true := by
    rw [append, relative, if_neg Bool.false_ne_true]
    split <;> rfl
  rw [lexicalPlace, steps, rooted, if_pos rfl, components_append relative,
    components_placePath areComponents, normalize_append, normalize_of_names downwards]

theorem startsDoubled_append {rest : Text} (relative : isAbsolute rest = false) :
    startsDoubled (append place.path rest) = false := by
  have single := (isAbsolute_eq_false_iff rest).mp relative
  rw [append, relative, if_neg Bool.false_ne_true]
  cases place with
  | nil => exact startsDoubled_of_head?_ne single
  | cons name others =>
      obtain ⟨first, more, joined, notSlash⟩ :=
        exists_join_eq_cons areComponents (List.cons_ne_nil name others)
      have alone (tail : Text) : startsDoubled ('/' :: (first :: more ++ tail)) = false :=
        startsDoubled_of_head?_ne fun slash => notSlash (Option.some.inj slash)
      rw [Place.path, joined]
      split
      · exact alone rest
      · exact alone ('/' :: rest)

end

/-! ## Plain names -/

/-- What can be told of the names of the place that a path leads to. -/
structure IsPlainName (name : Text) : Prop extends IsComponent name where
  ne_parent : name ≠ parent
  no_null : hasNull name = false

def IsPlainPlace (place : Place) : Prop :=
  ∀ name ∈ place, IsPlainName name

namespace IsPlainPlace

variable {place : Place} (plain : IsPlainPlace place)

include plain

theorem areComponents : ∀ name ∈ place, IsComponent name :=
  fun name member => (plain name member).toIsComponent

theorem downwards : parent ∉ place :=
  fun member => (plain parent member).ne_parent rfl

/-- Where a path leads is named by plain names, if the working folder is. -/
theorem lexicalPlace {path : Text} (noNull : hasNull path = false) :
    IsPlainPlace (Path.lexicalPlace place path) := by
  intro name member
  obtain ⟨isStep, notUp⟩ := mem_normalize member
  rw [steps_eq] at isStep
  rcases List.mem_append.mp isStep with above | isStep
  · exact plain name (startOf_subset place path above)
  · exact ⟨isComponent_of_mem_components isStep, notUp, hasNull_of_mem_components noNull isStep⟩

end IsPlainPlace

/-! ## Relative forms -/

section

variable {target : Place} (plain : IsPlainPlace target) (base : Place)

include plain

theorem areComponents_way : ∀ part ∈ way base target, IsComponent part := by
  intro part member
  rcases List.mem_append.mp member with isUp | isName
  · rw [List.eq_of_mem_replicate isUp]
    exact isComponent_parent
  · exact plain.areComponents part (List.mem_of_mem_drop isName)

/-- The text of the way starts with a step upwards unless the place lies below the base. -/
theorem head?_cut_wayText_ne_parent_iff :
    (Text.cut '/' (wayText (way base target))).head? ≠ some parent ↔ base <+: target := by
  rw [← head?_way_ne_parent_iff plain.downwards,
    cut_wayText (areComponents_way plain base)]
  split
  · next noStep =>
      rw [noStep]
      exact iff_of_true (by decide) nofun
  · rfl

theorem exists_cut_wayText_eq :
    ∃ ups names, Text.cut '/' (wayText (way base target)) =
      List.replicate ups parent ++ names ∧ parent ∉ names := by
  rw [cut_wayText (areComponents_way plain base)]
  split
  · exact ⟨0, [self], rfl, by decide⟩
  · exact ⟨_, _, rfl, fun member => plain.downwards (List.mem_of_mem_drop member)⟩

theorem isAbsolute_wayText : isAbsolute (wayText (way base target)) = false :=
  (isAbsolute_eq_false_iff _).mpr
    (head?_wayText_ne (areComponents_way plain base))

/-- Joined to the path of the base, the text of the way spells the place. -/
theorem lexicalLocation_append_wayText {base : Place} (plainBase : IsPlainPlace base)
    (workingFolder : Place) :
    lexicalLocation workingFolder (append base.path (wayText (way base target))) =
      ⟨target, false⟩ := by
  have relative := isAbsolute_wayText plain base
  rw [lexicalLocation, lexicalPlace_append plainBase.areComponents _ plainBase.downwards relative,
    startsDoubled_append plainBase.areComponents relative,
    components_wayText (areComponents_way plain base),
    foldl_stepFrom_way plain.downwards]

end

end Path

end SnippetSearch
