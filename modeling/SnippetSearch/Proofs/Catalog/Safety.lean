import SnippetSearch.Proofs.Catalog.Boundary
import SnippetSearch.Proofs.FileTree.Unlinked

/-!
# Safe paths and relative paths

Whether a path is safe is found by following it, and its relative form by
comparing texts.  Where a path passes no link both come to the same: a path is
safe exactly if its relative form does not go up, and the relative form leads
from the folder back to where the path leads.
-/

namespace SnippetSearch

namespace FolderCatalog

variable {machine : Machine} {catalog : FolderCatalog}

/-- What is asked of a path so that following it is reading it. -/
structure IsPlainPath (machine : Machine) (path : Text) : Prop where
  nonempty : path ≠ []
  noNull : Path.hasNull path = false
  single : Path.startsDoubled path = false
  unlinked : machine.tree.PassesNoLink (Path.steps machine.workingFolder path)

instance (machine : Machine) (path : Text) : Decidable (IsPlainPath machine path) :=
  decidable_of_iff (path ≠ [] ∧ Path.hasNull path = false ∧ Path.startsDoubled path = false ∧
      machine.tree.PassesNoLink (Path.steps machine.workingFolder path))
    ⟨fun ⟨nonempty, noNull, single, unlinked⟩ => ⟨nonempty, noNull, single, unlinked⟩,
      fun ⟨nonempty, noNull, single, unlinked⟩ => ⟨nonempty, noNull, single, unlinked⟩⟩

theorem path_base (single : catalog.base.doubled = false) :
    catalog.base.path = catalog.base.place.path := by
  rw [Location.path, single, if_neg Bool.false_ne_true]

/-- A path that passes no link is safe exactly if it spells a place inside the folder. -/
theorem isSafe_of_isPlainPath (single : catalog.base.doubled = false)
    (plainFolder : Path.IsPlainPlace machine.workingFolder) {path : Text}
    (plain : IsPlainPath machine path) :
    catalog.isSafe machine path =
      .ok (catalog.base.place.isPrefixOf (Path.lexicalPlace machine.workingFolder path)) := by
  have leads := FileTree.resolve_of_passesNoLink plainFolder plain.noNull plain.unlinked
  rw [isSafe, List.isEmpty_eq_false_iff.mpr plain.nonempty, if_neg Bool.false_ne_true,
    Machine.resolve, leads]
  simp only [Except.mapError, Except.map, Location.isInside, single, beq_self_eq_true,
    Bool.true_and]

/-- The relative form of a path is the text of the way from the folder to where it leads. -/
theorem relative?_eq (single : catalog.base.doubled = false)
    (plainBase : Path.IsPlainPlace catalog.base.place) {path : Text} (nonempty : path ≠ []) :
    catalog.relative? machine path =
      some (Path.wayText (Path.way catalog.base.place
        (Path.lexicalPlace machine.workingFolder path))) := by
  rw [relative?, Path.relative?, List.isEmpty_eq_false_iff.mpr nonempty,
    if_neg Bool.false_ne_true, path_base single,
    Path.lexicalPlace_placePath plainBase.areComponents _ plainBase.downwards]

theorem not_prefix_of_longer_name {folder below : Place} {name extra : Text}
    (longer : extra ≠ []) : ¬ folder ++ [name] <+: folder ++ (name ++ extra) :: below := by
  rw [List.prefix_append_right_inj, List.cons_prefix_cons]
  exact fun ⟨same, _⟩ => longer (List.self_eq_append_right.mp same)

/--
For a path that passes no link, being safe and having a relative form that does not go
up are the same.  The relative form goes up at its start only, and joined to the path
of the folder it spells the location that the path spells.  So nothing at or below a
folder is safe whose name is longer than that of the folder of the catalog beside it.
-/
theorem safety_agrees_with_relative_form (proper : machine.tree.isProper = true)
    {entries : List (Text × FileTree)}
    (atWorkingFolder : machine.tree.at? machine.workingFolder = some (.folder entries))
    (resolved : catalog.IsResolved machine.tree) {path : Text}
    (plain : IsPlainPath machine path) :
    ∃ safe relative, catalog.isSafe machine path = .ok safe ∧
      catalog.relative? machine path = some relative ∧
      (safe = true ↔ (Text.cut '/' relative).head? ≠ some Path.parent) ∧
      (∃ ups names, Text.cut '/' relative = List.replicate ups Path.parent ++ names ∧
        Path.parent ∉ names) ∧
      Path.lexicalLocation machine.workingFolder (Path.append catalog.base.path relative) =
        Path.lexicalLocation machine.workingFolder path ∧
      ∀ folder name extra below, catalog.base.place = folder ++ [name] → extra ≠ [] →
        Path.lexicalPlace machine.workingFolder path = folder ++ (name ++ extra) :: below →
          safe = false := by
  obtain ⟨baseEntries, atBase⟩ := resolved.stands
  have plainBase := FileTree.isPlainPlace_of_at? proper atBase
  have plainFolder := FileTree.isPlainPlace_of_at? proper atWorkingFolder
  have plainTarget := plainFolder.lexicalPlace plain.noNull
  refine ⟨_, _, isSafe_of_isPlainPath resolved.single plainFolder plain,
    relative?_eq resolved.single plainBase plain.nonempty, ?_,
    Path.exists_cut_wayText_eq plainTarget _, ?_, ?_⟩
  · rw [List.isPrefixOf_iff_prefix, Path.head?_cut_wayText_ne_parent_iff plainTarget]
  · rw [path_base resolved.single, Path.lexicalLocation_append_wayText plainTarget plainBase,
      Path.lexicalLocation, plain.single]
  · intro folder name extra below isBase longer isTarget
    rw [isBase, isTarget, ← Bool.not_eq_true, List.isPrefixOf_iff_prefix]
    exact not_prefix_of_longer_name longer

def workingMachine : Machine :=
  { machineLinking "in.cs" with workingFolder := ["base".toList] }

/-- A path around the root back into a folder beside that of the catalog, with a longer name. -/
theorem safety_agrees_with_relative_form_beside :
    let path := "..//./../base2/x/..".toList
    workingMachine.tree.isProper = true ∧ linkingCatalog.IsResolved workingMachine.tree ∧
      IsPlainPath workingMachine path ∧
      linkingCatalog.relative? workingMachine path = some "../base2".toList ∧
      linkingCatalog.isSafe workingMachine path = .ok false := by
  intro path
  have proper : workingMachine.tree.isProper = true := by decide +kernel
  have resolved : linkingCatalog.IsResolved workingMachine.tree := ⟨rfl, _, rfl⟩
  have plain : IsPlainPath workingMachine path := by decide +kernel
  obtain ⟨safe, relative, isSafe, -, -, -, -, beside⟩ :=
    safety_agrees_with_relative_form proper rfl resolved plain
  have outside : safe = false :=
    beside [] "base".toList "2".toList [] rfl (by decide) (by decide +kernel)
  exact ⟨proper, resolved, plain, by decide +kernel, isSafe.trans (congrArg _ outside)⟩

end FolderCatalog

end SnippetSearch
