import SnippetSearch.Proofs.FileTree.Resolved
import SnippetSearch.Proofs.Path.Ways

/-!
# Paths that pass no link

Where no link stands at any place that a path passes, following the path is
reading it: it leads to the place that its components spell, whether anything
stands there or not.
-/

namespace SnippetSearch

namespace FileTree

def PassesNoLink (root : FileTree) (steps : List Text) : Prop :=
  ∀ first, first <+: steps → ∀ target, root.at? (Path.normalize first) ≠ some (.link target)

instance (root : FileTree) (steps : List Text) : Decidable (root.PassesNoLink steps) :=
  decidable_of_iff (∀ first ∈ steps.inits,
      (root.at? (Path.normalize first)).any isLink = false) <| by
    simp only [List.mem_inits, PassesNoLink, Option.any_eq_false]
    refine forall₂_congr fun first _ => ?_
    constructor
    · intro noLink target stands
      exact Bool.noConfusion (noLink _ stands)
    · intro noLink tree stands
      cases tree with
      | link target => exact absurd stands (noLink target)
      | file bytes => rfl
      | folder entries => rfl

variable {root : FileTree} {workingFolder : Place}

theorem PassesNoLink.isLinkFree {steps : List Text} (unlinked : root.PassesNoLink steps) :
    root.IsLinkFree (Path.normalize steps) := by
  intro way isWay target
  obtain ⟨first, isFirst, rfl⟩ := Path.exists_prefix_of_prefix_normalize isWay
  exact unlinked first isFirst target

/-! ## Settling -/

namespace Spelling

theorem place_down (spelling : Spelling) (name : Text) :
    (spelling.down name).place workingFolder = spelling.place workingFolder ++ [name] := by
  rw [place_eq, place_eq, List.append_assoc]
  rfl

/-- The folder above is spelled by a name less, or by one step upwards more. -/
theorem place_up (spelling : Spelling) :
    spelling.up.place workingFolder = (spelling.place workingFolder).dropLast := by
  obtain ⟨fromRoot, ups, names⟩ := spelling
  cases names with
  | cons name rest =>
      have someNames : name :: rest ≠ [] := List.cons_ne_nil name rest
      rw [place_eq, place_eq, List.dropLast_append_of_ne_nil someNames]
      rfl
  | nil =>
      rw [place_eq _ ⟨fromRoot, ups, []⟩, List.append_nil]
      cases fromRoot with
      | true => rfl
      | false =>
          change workingFolder.take (workingFolder.length - (ups + 1)) ++ [] =
            (workingFolder.take (workingFolder.length - ups)).dropLast
          rw [List.append_nil, List.dropLast_eq_take, List.length_take, List.take_take]
          congr 1
          omega

theorem place_step {piece : Text} (isComponent : Path.IsComponent piece) (spelling : Spelling) :
    (spelling.step piece).place workingFolder =
      Path.stepFrom (spelling.place workingFolder) piece := by
  rw [step, isComponent.leads, if_neg Bool.false_ne_true, Path.stepFrom]
  split
  · exact place_up spelling
  · exact place_down spelling piece

theorem place_along {pieces : List Text}
    (areComponents : ∀ piece ∈ pieces, Path.IsComponent piece) (spelling : Spelling) :
    (spelling.along pieces).place workingFolder =
      pieces.foldl Path.stepFrom (spelling.place workingFolder) := by
  induction pieces generalizing spelling with
  | nil => rfl
  | cons piece rest ih =>
      obtain ⟨isComponent, areComponents⟩ := List.forall_mem_cons.mp areComponents
      rw [List.foldl_cons, ← place_step isComponent, ← ih areComponents]
      rfl

theorem place_startOf (path : Text) :
    (startOf path).place workingFolder = Path.startOf workingFolder path := by
  rw [startOf, Path.startOf]
  split
  · rfl
  · change workingFolder.take workingFolder.length ++ [] = workingFolder
    rw [List.append_nil, List.take_length]

end Spelling

theorem linkTarget?_eq_none {spelling : Spelling}
    (noLink : ∀ target, root.at? (spelling.place workingFolder) ≠ some (.link target)) :
    root.linkTarget? workingFolder spelling = none := by
  rw [linkTarget?]
  split
  · rfl
  · split
    · next target stands => exact absurd stands (noLink target)
    · rfl

/-! ## Walking -/

theorem walkWith_ne_tooManyLinks {follow : Place → List Text → Except WalkError Place}
    {here names : Place} (free : root.IsLinkFree (here ++ names))
    (leads : ∀ name ∈ names, name ≠ Path.self ∧ name ≠ Path.parent) :
    root.walkWith follow here names ≠ .error .tooManyLinks := by
  intro tooMany
  induction names generalizing here with
  | nil => cases tooMany
  | cons name rest ih =>
      obtain ⟨leadsFirst, leadsRest⟩ := List.forall_mem_cons.mp leads
      rw [List.append_cons] at free
      rw [walkWith] at tooMany
      split at tooMany
      · next entries isHere =>
          rw [if_neg leadsFirst.1, if_neg leadsFirst.2] at tooMany
          split at tooMany
          · cases tooMany
          split at tooMany
          · cases tooMany
          · next target isChild =>
              exact free _ (List.prefix_append _ _) target (at?_concat isHere isChild)
          · exact ih free leadsRest tooMany
          · exact ih free leadsRest tooMany
      · cases tooMany

/-! ## Resolving -/

/-- A place without links on the way to it can be asked for. -/
theorem checkLocation_of_isLinkFree {place : Place} (free : root.IsLinkFree place)
    (plain : Path.IsPlainPlace place) :
    root.checkLocation ⟨place, false⟩ = .ok ⟨place, false⟩ := by
  have noNull : place.any Path.hasNull = false :=
    List.any_eq_false.mpr fun name member => Bool.eq_false_iff.mp (plain name member).no_null
  have leads : ∀ name ∈ place, name ≠ Path.self ∧ name ≠ Path.parent :=
    fun name member => ⟨(plain name member).ne_self, (plain name member).ne_parent⟩
  have fromRoot : root.IsLinkFree ([] ++ place) := free
  have walks : root.walk place ≠ .error .tooManyLinks := walkWith_ne_tooManyLinks fromRoot leads
  rw [checkLocation, noNull, if_neg Bool.false_ne_true]
  split
  · rfl
  · split
    · next tooMany => exact absurd tooMany walks
    · rfl

theorem resolve_of_passesNoLink (plain : Path.IsPlainPlace workingFolder) {path : Text}
    (noNull : Path.hasNull path = false)
    (unlinked : root.PassesNoLink (Path.steps workingFolder path)) :
    root.resolve workingFolder path = .ok ⟨Path.lexicalPlace workingFolder path, false⟩ := by
  have downwards : Path.parent ∉ Path.startOf workingFolder path :=
    fun member => plain.downwards (Path.startOf_subset workingFolder path member)
  -- Each start of the components spells the place that it leads to.
  have spelled (pieces : List Text) (isStart : pieces <+: Path.components path) :
      ((Spelling.startOf path).along pieces).place workingFolder =
        Path.normalize (Path.startOf workingFolder path ++ pieces) := by
    rw [Spelling.place_along fun piece member =>
        Path.isComponent_of_mem_components (isStart.subset member),
      Spelling.place_startOf, Path.normalize_append, Path.normalize_of_names downwards]
  have free (way : List Text) (piece : Text) (isWay : way ++ [piece] <+: Path.components path) :
      root.linkTarget? workingFolder ((Spelling.startOf path).along (way ++ [piece])) = none := by
    refine linkTarget?_eq_none fun target => ?_
    rw [spelled _ isWay]
    rw [Path.steps_eq] at unlinked
    exact unlinked _ ((List.prefix_append_right_inj _).mpr isWay) target
  have settled : root.settle workingFolder path =
      .reached ((Spelling.startOf path).along (Path.components path)) := by
    have arrives : root.settleWith workingFolder (settleWithin root workingFolder
        (maxNestedLinks - 1)) [] (.startOf path) (Path.components path ++ []) = _ :=
      settleWith_append (fun piece member => Path.hasNull_of_mem_components noNull member) free []
    rw [List.append_nil] at arrives
    exact congrArg Prod.fst arrives
  rw [resolve_eq_locateSettled, settled, locateSettled, spelled _ List.prefix_rfl,
    ← Path.steps_eq]
  exact checkLocation_of_isLinkFree unlinked.isLinkFree (plain.lexicalPlace noNull)

end FileTree

end SnippetSearch
