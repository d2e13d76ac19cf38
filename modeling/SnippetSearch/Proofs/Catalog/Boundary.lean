import SnippetSearch.Catalog
import SnippetSearch.Proofs.FileTree.Listing
import SnippetSearch.Proofs.FileTree.Resolved

/-!
# The boundary of a folder catalog

Whether a path is safe is decided by the place that it leads to.  The folder of
a catalog is resolved, so that no link stands on the way to it.  What is listed
is found below the folder, and a regular file is where it is found; but a link
is listed wherever it leads.  So the paths that are listed are safe exactly if
every listed link leads to the folder or to a place inside it.
-/

namespace SnippetSearch

theorem Machine.exists_resolve_of_locate {machine : Machine} {path : Text} {location : Location}
    (located : machine.locate path = .ok location) :
    ∃ expanded, Path.expandHome? machine.homeOf path = some expanded ∧
      machine.tree.resolve machine.workingFolder expanded = .ok location := by
  rw [locate] at located
  split at located
  · cases located
  split at located
  · cases located
  · next expanded expands =>
      refine ⟨expanded, expands, ?_⟩
      rw [resolve] at located
      cases leads : machine.tree.resolve machine.workingFolder expanded with
      | error reason => rw [leads] at located; cases located
      | ok other =>
          rw [leads] at located
          rw [Except.ok.inj located]

namespace FolderCatalog

variable {machine : Machine} {catalog : FolderCatalog}

/-! ## The folder of a catalog -/

/-- Whether the folder of a catalog is spelled with one slash and stands itself at its place. -/
structure IsResolved (catalog : FolderCatalog) (tree : FileTree) : Prop where
  single : catalog.base.doubled = false
  stands : ∃ entries, tree.at? catalog.base.place = some (.folder entries)

theorem leadsToFolder_of_hasFolder {location : Location}
    (has : machine.hasFolder location = .ok true) :
    machine.tree.leadsToFolder location.place = true := by
  rw [Machine.hasFolder] at has
  split at has
  · cases has
  split at has
  · cases has
  · exact Except.ok.inj has

/-- The folder of a catalog is the location of its path, and leads to a folder. -/
theorem located_of_ofPath {path : Text} {suffixes : List Text}
    (built : ofPath machine path suffixes = .ok catalog) :
    machine.locate path = .ok catalog.base ∧
      machine.tree.leadsToFolder catalog.base.place = true := by
  rw [ofPath] at built
  split at built
  · cases built
  · next base located =>
      split at built
      · cases built
      · next has =>
          obtain rfl := Except.ok.inj built
          exact ⟨located, leadsToFolder_of_hasFolder has⟩
      · cases built

/--
A catalog that is made of a path is resolved, if the path runs into no circle
of links and is not too long where its links have been followed.
-/
theorem isResolved_of_ofPath {path expanded : Text} {suffixes : List Text}
    {spelling : FileTree.Spelling} (proper : machine.tree.isProper = true)
    {entries : List (Text × FileTree)}
    (atWorkingFolder : machine.tree.at? machine.workingFolder = some (.folder entries))
    (built : ofPath machine path suffixes = .ok catalog)
    (expands : Path.expandHome? machine.homeOf path = some expanded)
    (settled : machine.tree.settle machine.workingFolder expanded = .reached spelling)
    (short : Path.isTooLong spelling.path = false) : catalog.IsResolved machine.tree := by
  obtain ⟨located, leadsOn⟩ := located_of_ofPath built
  obtain ⟨other, same, leads⟩ := Machine.exists_resolve_of_locate located
  obtain rfl := Option.some.inj (expands.symm.trans same)
  have unlinked := FileTree.isUnlinked_of_resolve
    (FileTree.isLinkFree_of_at? atWorkingFolder rfl) leads settled short
  exact ⟨unlinked.single, FileTree.exists_folder_of_leadsToFolder unlinked.free
    (FileTree.leads_of_resolve (FileTree.leads_of_at? proper atWorkingFolder) leads) leadsOn⟩

/-! ## Listed paths and safe paths -/

theorem mem_paths_iff (single : catalog.base.doubled = false) {path : Text} :
    path ∈ catalog.paths machine.tree ↔
      ∃ place ∈ machine.tree.filesBelow catalog.wants catalog.base.place, place.path = path := by
  have spelled (place : Place) : Location.path { catalog.base with place } = place.path := by
    rw [Location.path, single, if_neg Bool.false_ne_true]
  simp only [paths, List.mem_map, spelled]

/-- The path of a place is safe if it leads inside the folder. -/
theorem isSafe_path_iff {place : Place} :
    catalog.isSafe machine place.path = .ok true ↔
      ∃ location, machine.tree.resolve machine.workingFolder place.path = .ok location ∧
        location.isInside catalog.base = true := by
  have nonempty : place.path.isEmpty = false := rfl
  rw [isSafe, nonempty, if_neg Bool.false_ne_true, Machine.resolve]
  cases machine.tree.resolve machine.workingFolder place.path with
  | error reason => exact iff_of_false nofun nofun
  | ok location => simp [Except.mapError, Except.map]

theorem isInside_base (single : catalog.base.doubled = false) (way : List Text) :
    Location.isInside ⟨catalog.base.place ++ way, false⟩ catalog.base = true := by
  rw [Location.isInside, single, beq_self_eq_true, Bool.true_and, List.isPrefixOf_iff_prefix]
  exact List.prefix_append _ way

/--
Whether a folder that is entered holds a link that leads to no folder, has the
name of a source file, and can be asked for by its path.
-/
structure ListsLink (catalog : FolderCatalog) (tree : FileTree) (folder : Place)
    (name target : Text) : Prop where
  entered : ∃ way, folder = catalog.base.place ++ way ∧
    ∀ part ∈ way, FileTree.isHidden part = false
  wanted : catalog.wants name = true
  stands : tree.at? (folder ++ [name]) = some (.link target)
  noFolder : tree.leadsToFolder (folder ++ [name]) = false
  short : Path.isTooLong (Place.path (folder ++ [name])) = false

section

variable (proper : machine.tree.isProper = true) (resolved : catalog.IsResolved machine.tree)

include proper resolved

theorem ListsLink.mem_paths {folder : Place} {name target : Text}
    (lists : catalog.ListsLink machine.tree folder name target) :
    Place.path (folder ++ [name]) ∈ catalog.paths machine.tree := by
  obtain ⟨entries, atBase⟩ := resolved.stands
  obtain ⟨way, rfl, shown⟩ := lists.entered
  have stands := lists.stands
  have noFolder := lists.noFolder
  rw [List.append_assoc] at stands noFolder ⊢
  rw [FileTree.at?_append, atBase] at stands
  refine (mem_paths_iff resolved.single).mpr ⟨_, (FileTree.mem_filesBelow_iff proper atBase).mpr
    ⟨way ++ [name], rfl, name, _, List.getLast?_concat, lists.wanted, ?_, stands, ?_⟩, rfl⟩
  · rwa [List.dropLast_concat]
  · rw [noFolder]
    rfl

/-- A listed path is that of a listed link, or it leads to a place inside the folder. -/
theorem isSafe_or_listsLink {path : Text} (listed : path ∈ catalog.paths machine.tree) :
    catalog.isSafe machine path = .ok true ∨
      ∃ folder name target, catalog.ListsLink machine.tree folder name target ∧
        path = Place.path (folder ++ [name]) := by
  obtain ⟨entries, atBase⟩ := resolved.stands
  obtain ⟨place, member, rfl⟩ := (mem_paths_iff resolved.single).mp listed
  obtain ⟨way, rfl, name, entry, isLast, wanted, shown, atWay, counts⟩ :=
    (FileTree.mem_filesBelow_iff proper atBase).mp member
  obtain ⟨folders, rfl⟩ := List.getLast?_eq_some_iff.mp isLast
  rw [List.dropLast_concat] at shown
  have stands : machine.tree.at? (catalog.base.place ++ (folders ++ [name])) = some entry := by
    rw [FileTree.at?_append, atBase]
    exact atWay
  by_cases ownPlace : entry.isLink = false ∨
      Path.isTooLong (Place.path (catalog.base.place ++ (folders ++ [name]))) = true
  · have leads := FileTree.resolve_of_no_link proper machine.workingFolder stands ownPlace
    exact .inl (isSafe_path_iff.mpr ⟨_, leads, isInside_base resolved.single _⟩)
  · obtain ⟨isLink, short⟩ := not_or.mp ownPlace
    cases entry with
    | file bytes => exact absurd rfl isLink
    | folder entries => exact absurd rfl isLink
    | link target =>
        rw [← List.append_assoc] at stands counts short ⊢
        refine .inr ⟨catalog.base.place ++ folders, name, target, ⟨⟨folders, rfl, shown⟩, wanted,
          stands, (Bool.not_eq_true' _).mp counts, Bool.eq_false_iff.mpr short⟩, rfl⟩

/--
The listed paths are all safe if and only if every listed link leads to the
folder of the catalog or to a place inside it.
-/
theorem listed_paths_safe_iff :
    (∀ path ∈ catalog.paths machine.tree, catalog.isSafe machine path = .ok true) ↔
      ∀ folder name target, catalog.ListsLink machine.tree folder name target →
        ∃ location,
          machine.tree.linkEnd machine.workingFolder folder name target = .ok location ∧
            location.isInside catalog.base = true := by
  constructor
  · intro safe folder name target lists
    have isSafe := safe _ (lists.mem_paths proper resolved)
    rwa [isSafe_path_iff, FileTree.resolve_of_link proper _ lists.stands lists.short] at isSafe
  · intro leadsInside path listed
    rcases isSafe_or_listsLink proper resolved listed with
      isSafe | ⟨folder, name, target, lists, rfl⟩
    · exact isSafe
    · rw [isSafe_path_iff, FileTree.resolve_of_link proper _ lists.stands lists.short]
      exact leadsInside folder name target lists

end

/-! ## A folder with a link -/

/--
A machine with one source file beside the folder that is searched and one in
it, next to a link with the given target.
-/
def machineLinking (target : String) : Machine where
  tree := .folder
    [("base".toList, .folder
        [("in.cs".toList, .file []), ("linked.cs".toList, .link target.toList)]),
      ("secret.cs".toList, .file [])]
  workingFolder := []
  environment := .empty
  accountHomes := []

def linkingCatalog : FolderCatalog where
  base := ⟨["base".toList], false⟩
  suffixes := standardSuffixes

/-- A link to a file in the folder is safe to list, and it leads inside. -/
theorem listed_paths_safe_with_inner_link :
    (machineLinking "in.cs").tree.isProper = true ∧
      linkingCatalog.IsResolved (machineLinking "in.cs").tree ∧
      (∀ path ∈ linkingCatalog.paths (machineLinking "in.cs").tree,
        linkingCatalog.isSafe (machineLinking "in.cs") path = .ok true) ∧
      ∃ location, (machineLinking "in.cs").tree.linkEnd [] ["base".toList] "linked.cs".toList
        "in.cs".toList = .ok location ∧ location.isInside linkingCatalog.base = true := by
  have proper : (machineLinking "in.cs").tree.isProper = true := by decide +kernel
  have built : ofPath (machineLinking "in.cs") "/base".toList standardSuffixes =
      .ok linkingCatalog := by decide +kernel
  have settled : (machineLinking "in.cs").tree.settle [] "/base".toList =
      .reached ⟨true, 0, ["base".toList]⟩ := by decide +kernel
  have resolved : linkingCatalog.IsResolved (machineLinking "in.cs").tree :=
    isResolved_of_ofPath proper rfl built rfl settled (by decide)
  have safe : ∀ path ∈ linkingCatalog.paths (machineLinking "in.cs").tree,
      linkingCatalog.isSafe (machineLinking "in.cs") path = .ok true := by decide +kernel
  have lists : linkingCatalog.ListsLink (machineLinking "in.cs").tree ["base".toList]
      "linked.cs".toList "in.cs".toList := by
    refine ⟨⟨[], rfl, List.forall_mem_nil _⟩, ?_, rfl, ?_, ?_⟩ <;> decide +kernel
  exact ⟨proper, resolved, safe, (listed_paths_safe_iff proper resolved).mp safe _ _ _ lists⟩

/-- A link to a file beside the folder is listed all the same, and its path is not safe. -/
theorem listed_paths_not_safe_with_outer_link :
    ofPath (machineLinking "../secret.cs") "/base".toList standardSuffixes =
        .ok linkingCatalog ∧
      linkingCatalog.paths (machineLinking "../secret.cs").tree =
        ["/base/in.cs".toList, "/base/linked.cs".toList] ∧
      linkingCatalog.isSafe (machineLinking "../secret.cs") "/base/linked.cs".toList =
        .ok false := by
  decide +kernel

end FolderCatalog

end SnippetSearch
