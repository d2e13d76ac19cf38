import SnippetSearch.FileTree.Listing
import SnippetSearch.Proofs.FileTree.Places

/-!
# What is listed below a folder

A listing goes down through the subfolders whose names are not hidden, and
holds a way for each entry in them that counts as a file and has a wanted
name.  A link counts as a file if it leads to no folder, wherever else it may
lead.
-/

namespace SnippetSearch

namespace FileTree

variable {root : FileTree} {wanted : Text → Bool}

@[simp] theorem mem_sortByName {α : Type} {entries : List (Text × α)} {entry : Text × α} :
    entry ∈ sortByName entries ↔ entry ∈ entries :=
  (StableSort.perm_sort _ entries).mem_iff

/-! ## One folder -/

theorem mem_fileNames_iff {here : Place} {entries : List (Text × FileTree)} {name : Text} :
    name ∈ fileNames root wanted here entries ↔
      wanted name = true ∧ ∃ tree, (name, tree) ∈ entries ∧
        isListedFile (root.leadsToFolder (here ++ [name])) tree = true := by
  simp only [fileNames, List.mem_map, mem_sortByName, List.mem_filter, Bool.and_eq_true]
  constructor
  · rintro ⟨entry, ⟨member, counts, isWanted⟩, rfl⟩
    exact ⟨isWanted, entry.2, member, counts⟩
  · rintro ⟨isWanted, tree, member, counts⟩
    exact ⟨(name, tree), ⟨member, counts, isWanted⟩, rfl⟩

/-- An entry adds to what is entered if it is a folder with a name that is not hidden. -/
theorem mem_folderListings_cons_iff {here : Place} {name : Text} {tree : FileTree}
    {rest : List (Text × FileTree)} {listed : Text × List (List Text)} :
    listed ∈ folderListings root wanted here ((name, tree) :: rest) ↔
      (tree.isFolder = true ∧ isHidden name = false ∧
        listed = (name, (listing root wanted (here ++ [name]) tree).map (name :: ·))) ∨
      listed ∈ folderListings root wanted here rest := by
  rw [folderListings, ← and_assoc, ← Bool.not_eq_true', ← Bool.and_eq_true]
  by_cases entered : (tree.isFolder && !isHidden name) = true
  · rw [if_pos entered, List.mem_cons, and_iff_right entered]
  · rw [if_neg entered, or_iff_right fun added => entered added.1]

theorem mem_folderListings_iff {here : Place} {entries : List (Text × FileTree)} {name : Text}
    {ways : List (List Text)} :
    (name, ways) ∈ folderListings root wanted here entries ↔
      ∃ others, (name, folder others) ∈ entries ∧ isHidden name = false ∧
        ways = (listing root wanted (here ++ [name]) (folder others)).map (name :: ·) := by
  induction entries with
  | nil => simp [folderListings]
  | cons entry rest ih =>
      obtain ⟨first, tree⟩ := entry
      rw [mem_folderListings_cons_iff, ih]
      constructor
      · rintro (⟨entered, shown, same⟩ | ⟨others, member, shown, same⟩)
        · obtain ⟨rfl, rfl⟩ := Prod.mk.inj same
          cases tree with
          | folder others => exact ⟨others, List.mem_cons_self, shown, rfl⟩
          | file bytes => cases entered
          | link target => cases entered
        · exact ⟨others, List.mem_cons_of_mem _ member, shown, same⟩
      · rintro ⟨others, member, shown, same⟩
        rcases List.mem_cons.mp member with isFirst | member
        · obtain ⟨rfl, rfl⟩ := Prod.mk.inj isFirst
          exact .inl ⟨rfl, shown, congrArg (Prod.mk name) same⟩
        · exact .inr ⟨others, member, shown, same⟩

/-- A way in a listing starts with a file of the folder, or with a subfolder that is entered. -/
theorem mem_listing_folder_iff {here : Place} {entries : List (Text × FileTree)}
    {name : Text} {rest : List Text} :
    name :: rest ∈ listing root wanted here (folder entries) ↔
      (rest = [] ∧ name ∈ fileNames root wanted here entries) ∨
        ∃ others, (name, folder others) ∈ entries ∧ isHidden name = false ∧
          rest ∈ listing root wanted (here ++ [name]) (folder others) := by
  rw [listing, List.mem_append]
  refine or_congr ?_ ?_
  · simp [and_comm, eq_comm]
  · simp only [List.mem_flatMap, mem_sortByName, Prod.exists, mem_folderListings_iff]
    constructor
    · rintro ⟨first, ways, ⟨others, member, shown, rfl⟩, isWay⟩
      obtain ⟨way, isBelow, same⟩ := List.mem_map.mp isWay
      obtain ⟨rfl, rfl⟩ := List.cons.inj same
      exact ⟨others, member, shown, isBelow⟩
    · rintro ⟨others, member, shown, isWay⟩
      exact ⟨name, _, ⟨others, member, shown, rfl⟩, List.mem_map_of_mem isWay⟩

theorem nil_not_mem_listing {here : Place} {tree : FileTree} :
    [] ∉ listing root wanted here tree := by
  cases tree with
  | folder entries =>
      simp only [listing, List.mem_append, List.mem_map, List.mem_flatMap, mem_sortByName,
        Prod.exists, mem_folderListings_iff]
      rintro (⟨name, _, same⟩ | ⟨name, ways, ⟨others, _, _, rfl⟩, isWay⟩)
      · cases same
      · obtain ⟨way, _, same⟩ := List.mem_map.mp isWay
        cases same
  | file bytes => simp [listing]
  | link target => simp [listing]

/-! ## A whole tree -/

/--
Whether a way leads through subfolders that are not hidden to an entry that
counts as a file and has a wanted name.
-/
def IsListedWay (root : FileTree) (wanted : Text → Bool) (here : Place) (tree : FileTree)
    (way : List Text) : Prop :=
  ∃ name entry, way.getLast? = some name ∧ wanted name = true ∧
    (∀ folder ∈ way.dropLast, isHidden folder = false) ∧ tree.at? way = some entry ∧
    isListedFile (root.leadsToFolder (here ++ way)) entry = true

theorem not_isListedWay_nil {here : Place} {tree : FileTree} :
    ¬ root.IsListedWay wanted here tree [] := by
  simp [IsListedWay]

theorem isListedWay_singleton_iff {here : Place} {tree : FileTree} {name : Text} :
    root.IsListedWay wanted here tree [name] ↔
      wanted name = true ∧ ∃ entry, tree.child? name = some entry ∧
        isListedFile (root.leadsToFolder (here ++ [name])) entry = true := by
  simp [IsListedWay]

theorem isListedWay_cons_cons_iff {here : Place} {tree : FileTree} {name next : Text}
    {rest : List Text} :
    root.IsListedWay wanted here tree (name :: next :: rest) ↔
      isHidden name = false ∧
        ∃ child, tree.child? name = some child ∧
          root.IsListedWay wanted (here ++ [name]) child (next :: rest) := by
  simp only [IsListedWay, List.getLast?_cons_cons, List.dropLast_cons_cons, List.forall_mem_cons,
    at?_cons tree, Option.bind_eq_some_iff, ← List.append_cons here]
  constructor
  · rintro ⟨last, entry, isLast, isWanted, ⟨shown, below⟩, ⟨child, isChild, stands⟩, counts⟩
    exact ⟨shown, child, isChild, last, entry, isLast, isWanted, below, stands, counts⟩
  · rintro ⟨shown, child, isChild, last, entry, isLast, isWanted, below, stands, counts⟩
    exact ⟨last, entry, isLast, isWanted, ⟨shown, below⟩, ⟨child, isChild, stands⟩, counts⟩

theorem not_isListedWay_of_isFolder_eq_false {here : Place} {tree : FileTree}
    (noFolder : tree.isFolder = false) {way : List Text} :
    ¬ root.IsListedWay wanted here tree way := by
  cases way with
  | nil => exact not_isListedWay_nil
  | cons name rest =>
      rintro ⟨last, entry, _, _, _, stands, _⟩
      obtain ⟨entries, _, rfl, _⟩ := exists_eq_folder_of_at?_cons stands
      cases noFolder

/-- The listing of a tree holds the ways to the entries that count as files of wanted names. -/
theorem mem_listing_iff {here : Place} {tree : FileTree} (proper : tree.isProper = true)
    {way : List Text} :
    way ∈ listing root wanted here tree ↔ root.IsListedWay wanted here tree way := by
  induction way generalizing here tree with
  | nil => exact iff_of_false nil_not_mem_listing not_isListedWay_nil
  | cons name rest ih =>
      cases tree with
      | folder entries =>
          obtain ⟨distinct, properEntries⟩ := (isProper_folder_iff entries).mp proper
          rw [mem_listing_folder_iff]
          cases rest with
          | nil =>
              simp only [true_and, mem_fileNames_iff, nil_not_mem_listing, and_false, exists_false,
                or_false, isListedWay_singleton_iff, child?, lookup_eq_some_iff distinct]
          | cons next more =>
              simp only [reduceCtorEq, false_and, false_or, isListedWay_cons_cons_iff, child?,
                lookup_eq_some_iff distinct]
              constructor
              · rintro ⟨others, member, shown, isWay⟩
                exact ⟨shown, folder others, member,
                  (ih (properEntries _ member).2).mp isWay⟩
              · rintro ⟨shown, child, member, isWay⟩
                cases child with
                | folder others =>
                    exact ⟨others, member, shown, (ih (properEntries _ member).2).mpr isWay⟩
                | file bytes => exact absurd isWay (not_isListedWay_of_isFolder_eq_false rfl)
                | link target => exact absurd isWay (not_isListedWay_of_isFolder_eq_false rfl)
      | file bytes =>
          exact iff_of_false (by simp [listing]) (not_isListedWay_of_isFolder_eq_false rfl)
      | link target =>
          exact iff_of_false (by simp [listing]) (not_isListedWay_of_isFolder_eq_false rfl)

theorem mem_filesBelow_iff (proper : root.isProper = true) {base : Place}
    {entries : List (Text × FileTree)} (stands : root.at? base = some (folder entries))
    {place : Place} :
    place ∈ root.filesBelow wanted base ↔
      ∃ way, place = base ++ way ∧ root.IsListedWay wanted base (folder entries) way := by
  have arrives : root.walk base = .ok base := walk_of_at? proper stands rfl
  have properBase : (folder entries).isProper = true := (isProper_of_at? proper stands).2
  simp only [filesBelow, arrives, stands, List.mem_map, mem_listing_iff properBase]
  exact ⟨fun ⟨way, isWay, same⟩ => ⟨way, same.symm, isWay⟩,
    fun ⟨way, same, isWay⟩ => ⟨way, isWay, same.symm⟩⟩

end FileTree

end SnippetSearch
