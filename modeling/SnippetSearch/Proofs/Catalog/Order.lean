import SnippetSearch.Proofs.Catalog.Boundary
import SnippetSearch.Proofs.FileTree.Order

/-!
# What a folder catalog lists, and in which order

A folder catalog lists each source file below its folder once.  A source file
is an entry that leads to no folder, has one of the endings in its name, and
stands in a folder that is reached through folders which are neither hidden nor
links.  The listed paths come in the order in which the folders are gone
through, and name different files.
-/

namespace SnippetSearch

namespace FolderCatalog

variable {machine : Machine} {catalog : FolderCatalog} {tree : FileTree}

/-- Whether folders lead down from a place, none of them hidden or a link, to a source file. -/
structure IsSource (tree : FileTree) (suffixes : List Text) (here : Place) (folders : List Text)
    (name : Text) : Prop where
  shown : ∀ folder ∈ folders, folder.head? ≠ some '.'
  ends : ∃ suffix ∈ suffixes, suffix.lower <:+ name.lower
  stands : ∃ entry, tree.at? (here ++ (folders ++ [name])) = some entry
  noFolder : tree.leadsToFolder (here ++ (folders ++ [name])) = false

/-! ## The names and the files that are wanted -/

theorem suffixes_of_ofPath {path : Text} {suffixes : List Text}
    (built : ofPath machine path suffixes = .ok catalog) :
    catalog.suffixes = suffixes.map Text.lower := by
  rw [ofPath] at built
  split at built
  · cases built
  · split at built
    · cases built
    · obtain rfl := Except.ok.inj built
      rfl
    · cases built

/-- A name is wanted if it has one of the endings, whatever the case of the letters. -/
theorem wants_iff {suffixes : List Text} (lowered : catalog.suffixes = suffixes.map Text.lower)
    {name : Text} :
    catalog.wants name = true ↔ ∃ suffix ∈ suffixes, suffix.lower <:+ name.lower := by
  rw [wants, lowered, List.any_map, List.any_eq_true]
  simp only [Function.comp_apply, List.isSuffixOf_iff_suffix]

/-- What stands at a place counts as a file if it leads to no folder. -/
theorem isListedFile_iff (proper : tree.isProper = true) {place : Place} {entry : FileTree}
    (stands : tree.at? place = some entry) :
    entry.isListedFile (tree.leadsToFolder place) = true ↔ tree.leadsToFolder place = false := by
  have leads (noLink : entry.isLink = false) : tree.leadsToFolder place = entry.isFolder := by
    rw [FileTree.leadsToFolder, FileTree.reach?, FileTree.walk_of_at? proper stands noLink]
    dsimp only
    rw [stands]
    rfl
  cases entry with
  | file bytes => simp [FileTree.isListedFile, leads rfl, FileTree.isFolder]
  | folder entries => simp [FileTree.isListedFile, leads rfl, FileTree.isFolder]
  | link target => simp [FileTree.isListedFile]

theorem isListedWay_iff {suffixes : List Text} (proper : tree.isProper = true)
    (lowered : catalog.suffixes = suffixes.map Text.lower) {here : Place} {folder : FileTree}
    (atHere : tree.at? here = some folder) {way : List Text} :
    tree.IsListedWay catalog.wants here folder way ↔
      ∃ folders name, way = folders ++ [name] ∧ IsSource tree suffixes here folders name := by
  have below (way : List Text) : tree.at? (here ++ way) = folder.at? way := by
    rw [FileTree.at?_append, atHere]
    rfl
  have notHidden (name : Text) : FileTree.isHidden name = false ↔ name.head? ≠ some '.' := by
    rw [FileTree.isHidden, beq_eq_false_iff_ne]
  constructor
  · rintro ⟨name, entry, isLast, wanted, shown, stands, counts⟩
    obtain ⟨folders, rfl⟩ := List.getLast?_eq_some_iff.mp isLast
    rw [List.dropLast_concat] at shown
    rw [← below] at stands
    exact ⟨folders, name, rfl, fun folder member => (notHidden folder).mp (shown folder member),
      (wants_iff lowered).mp wanted, ⟨entry, stands⟩, (isListedFile_iff proper stands).mp counts⟩
  · rintro ⟨folders, name, rfl, isSource⟩
    obtain ⟨entry, stands⟩ := isSource.stands
    refine ⟨name, entry, List.getLast?_concat, (wants_iff lowered).mpr isSource.ends, ?_,
      (below _).symm.trans stands, (isListedFile_iff proper stands).mpr isSource.noFolder⟩
    rw [List.dropLast_concat]
    exact fun folder member => (notHidden folder).mpr (isSource.shown folder member)

/-! ## Different ways have different paths -/

def pathBelow (catalog : FolderCatalog) (way : List Text) : Text :=
  Location.path { catalog.base with place := catalog.base.place ++ way }

theorem pathBelow_injective {way other : List Text} (nonempty : way ≠ [])
    (otherNonempty : other ≠ [])
    (named : ∀ name ∈ way, '/' ∉ name) (otherNamed : ∀ name ∈ other, '/' ∉ name)
    (same : catalog.pathBelow way = catalog.pathBelow other) : way = other := by
  have samePlace : Place.path (catalog.base.place ++ way) =
      Place.path (catalog.base.place ++ other) := by
    unfold pathBelow Location.path at same
    dsimp only at same
    split at same
    · exact List.tail_eq_of_cons_eq same
    · exact same
  have sameText := List.tail_eq_of_cons_eq samePlace
  rw [Text.join_append _ _ nonempty, Text.join_append _ _ otherNonempty,
    List.append_cancel_left_eq] at sameText
  rw [← Text.cut_join '/' nonempty named, sameText, Text.cut_join '/' otherNonempty otherNamed]

theorem slash_not_mem_of_isListedWay {folder : FileTree} {wanted : Text → Bool} {here : Place}
    (proper : folder.isProper = true) {way : List Text}
    (listed : tree.IsListedWay wanted here folder way) : ∀ name ∈ way, '/' ∉ name := by
  obtain ⟨_, entry, -, -, -, stands, -⟩ := listed
  exact fun name member => ((FileTree.isProper_of_at? proper stands).1 name member).no_slash

/-! ## The listed paths -/

/-- The paths of a catalog are those of the listed ways, if its folder is there. -/
theorem paths_eq_map_listing {here : Place} {folder : FileTree}
    (arrives : tree.walk catalog.base.place = .ok here) (atHere : tree.at? here = some folder) :
    catalog.paths tree = (tree.listing catalog.wants here folder).map catalog.pathBelow := by
  rw [paths, FileTree.filesBelow, arrives]
  dsimp only
  rw [atHere]
  exact List.map_map

theorem nodup_pathBelow_listing {wanted : Text → Bool} {here : Place} {folder : FileTree}
    (proper : folder.isProper = true) :
    ((tree.listing wanted here folder).map catalog.pathBelow).Nodup := by
  refine List.Nodup.map_on ?_ (FileTree.nodup_listing proper)
  have named (way : List Text) (listed : way ∈ tree.listing wanted here folder) :
      way ≠ [] ∧ ∀ name ∈ way, '/' ∉ name :=
    ⟨fun isNil => FileTree.nil_not_mem_listing (isNil ▸ listed),
      slash_not_mem_of_isListedWay proper ((FileTree.mem_listing_iff proper).mp listed)⟩
  intro way listed other otherListed same
  obtain ⟨nonempty, free⟩ := named way listed
  obtain ⟨otherNonempty, otherFree⟩ := named other otherListed
  exact pathBelow_injective nonempty otherNonempty free otherFree same

/--
A catalog is only made of a path that leads to a folder.  Whatever is in that
folder later on, the listed paths are those of the source files below it, all
of them different, in the order in which the ways to them are met.  Every folder
below it counts as one that can be read, whatever the length of its path.
-/
theorem listed_once_in_order {path : Text} {suffixes : List Text}
    (built : ofPath machine path suffixes = .ok catalog) :
    machine.tree.leadsToFolder catalog.base.place = true ∧
      ∀ (tree : FileTree) (here : Place) (entries : List (Text × FileTree)),
        tree.isProper = true → tree.walk catalog.base.place = .ok here →
        tree.at? here = some (.folder entries) →
        ∃ ways : List (List Text), catalog.paths tree = ways.map catalog.pathBelow ∧
          (catalog.paths tree).Nodup ∧ ways.Pairwise FileTree.ComesBefore ∧
          ∀ way, way ∈ ways ↔
            ∃ folders name, way = folders ++ [name] ∧ IsSource tree suffixes here folders name := by
  refine ⟨(located_of_ofPath built).2, ?_⟩
  intro tree here entries proper arrives atHere
  have properFolder := (FileTree.isProper_of_at? proper atHere).2
  have lowered := suffixes_of_ofPath built
  rw [paths_eq_map_listing arrives atHere]
  refine ⟨tree.listing catalog.wants here (.folder entries), rfl,
    nodup_pathBelow_listing properFolder, FileTree.pairwise_listing properFolder, fun way => ?_⟩
  exact (FileTree.mem_listing_iff properFolder).trans (isListedWay_iff proper lowered atHere)

/-! ## A folder with entries of all kinds -/

/--
A machine with a hidden folder to be searched: files that are hidden or not,
folders that are hidden, named like source files or neither, and links to a
folder, to nothing, to themselves and to a file.
-/
def machineOfAllKinds : Machine where
  tree := .folder
    [(".work".toList, .folder
      [("sub".toList, .folder [("z.cs".toList, .file []), ("A.fs".toList, .file [])]),
       ("b.CS".toList, .file []), (".a.cs".toList, .file []), ("notes.txt".toList, .file []),
       (".git".toList, .folder [("x.cs".toList, .file [])]),
       ("dir.cs".toList, .folder [("deep.vb".toList, .file [])]),
       ("into.cs".toList, .link "sub".toList), ("gone.cs".toList, .link "nowhere".toList),
       ("loop.cs".toList, .link "loop.cs".toList), ("linked.cs".toList, .link "b.CS".toList)])]
  workingFolder := []
  environment := .empty
  accountHomes := []

def catalogOfAllKinds : FolderCatalog where
  base := ⟨[".work".toList], false⟩
  suffixes := [".cs".toList, ".fs".toList, ".vb".toList]

/-- Neither the hidden folder nor the link to a folder is entered; other links are listed. -/
theorem listed_once_in_order_of_all_kinds :
    ofPath machineOfAllKinds "/.work".toList [".CS".toList, ".fs".toList, ".vb".toList] =
        .ok catalogOfAllKinds ∧
      catalogOfAllKinds.paths machineOfAllKinds.tree =
        ["/.work/.a.cs".toList, "/.work/b.CS".toList, "/.work/gone.cs".toList,
          "/.work/linked.cs".toList, "/.work/loop.cs".toList, "/.work/dir.cs/deep.vb".toList,
          "/.work/sub/A.fs".toList, "/.work/sub/z.cs".toList] ∧
      IsSource machineOfAllKinds.tree [".CS".toList, ".fs".toList, ".vb".toList]
        [".work".toList] ["dir.cs".toList] "deep.vb".toList ∧
      ∃ ways : List (List Text), catalogOfAllKinds.paths machineOfAllKinds.tree =
          ways.map catalogOfAllKinds.pathBelow ∧
        ["dir.cs".toList, "deep.vb".toList] ∈ ways ∧ ways.Pairwise FileTree.ComesBefore := by
  have built : ofPath machineOfAllKinds "/.work".toList
      [".CS".toList, ".fs".toList, ".vb".toList] = .ok catalogOfAllKinds := by decide +kernel
  have listed : catalogOfAllKinds.paths machineOfAllKinds.tree =
      ["/.work/.a.cs".toList, "/.work/b.CS".toList, "/.work/gone.cs".toList,
        "/.work/linked.cs".toList, "/.work/loop.cs".toList, "/.work/dir.cs/deep.vb".toList,
        "/.work/sub/A.fs".toList, "/.work/sub/z.cs".toList] := by decide +kernel
  have isSource : IsSource machineOfAllKinds.tree [".CS".toList, ".fs".toList, ".vb".toList]
      [".work".toList] ["dir.cs".toList] "deep.vb".toList :=
    ⟨by decide, by decide +kernel, ⟨.file [], rfl⟩, by decide +kernel⟩
  obtain ⟨ways, areListed, -, ordered, isWay⟩ := (listed_once_in_order built).2
    machineOfAllKinds.tree [".work".toList] _ (by decide +kernel) (by decide +kernel) rfl
  exact ⟨built, listed, isSource, ways, areListed, (isWay _).mpr ⟨_, _, rfl, isSource⟩, ordered⟩

end FolderCatalog

end SnippetSearch
