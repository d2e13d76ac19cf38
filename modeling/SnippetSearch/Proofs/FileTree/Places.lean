import Mathlib.Data.List.Nodup
import SnippetSearch.FileTree.Walk
import SnippetSearch.Proofs.Path.Ways

/-!
# Places in a tree

A tree whose names are proper can be addressed by paths: the components of the
path of a place are the names that lead to it, and everything on the way to
what stands at a place is a folder.  Walking to such a place follows no link,
unless a link stands at the place itself.
-/

namespace SnippetSearch

namespace Path

def isName (name : Text) : Bool :=
  !name.isEmpty && !name.contains '/' && !hasNull name && name != self && name != parent &&
    !isLongName name

/-- What can be told of a text that names an entry of a folder. -/
structure IsName (name : Text) : Prop where
  ne_nil : name ≠ []
  no_slash : '/' ∉ name
  no_null : hasNull name = false
  ne_self : name ≠ self
  ne_parent : name ≠ parent
  not_long : isLongName name = false

theorem isName_iff (name : Text) : isName name = true ↔ IsName name := by
  simp only [isName, Bool.and_eq_true, Bool.not_eq_true', bne_iff_ne, List.isEmpty_eq_false_iff,
    List.contains_eq_mem, decide_eq_false_iff_not]
  exact ⟨fun ⟨⟨⟨⟨⟨nonempty, noSlash⟩, noNull⟩, notSelf⟩, notParent⟩, short⟩ =>
      ⟨nonempty, noSlash, noNull, notSelf, notParent, short⟩,
    fun named => ⟨⟨⟨⟨⟨named.ne_nil, named.no_slash⟩, named.no_null⟩, named.ne_self⟩,
      named.ne_parent⟩, named.not_long⟩⟩

theorem IsName.isComponent {name : Text} (named : IsName name) : IsComponent name :=
  ⟨named.ne_nil, named.no_slash, named.ne_self⟩

theorem IsName.isPlainName {name : Text} (named : IsName name) : IsPlainName name :=
  ⟨named.isComponent, named.ne_parent, named.no_null⟩

theorem IsName.leads {name : Text} (named : IsName name) :
    (name.isEmpty || name == self) = false :=
  named.isComponent.leads

theorem components_path {place : Place} (named : ∀ name ∈ place, IsName name) :
    components place.path = place :=
  components_placePath fun name member => (named name member).isComponent

theorem isAbsolute_location (location : Location) : isAbsolute location.path = true := by
  rw [Location.path]
  split <;> rfl

theorem components_location {location : Location} (named : ∀ name ∈ location.place, IsName name) :
    components location.path = location.place := by
  rw [Location.path]
  split
  · exact (components_append_slash [] location.place.path).trans (components_path named)
  · exact components_path named

end Path

namespace FileTree

/-! ## Proper names -/

mutual

/-- Whether the entries of each folder have proper names, no two of them the same. -/
def isProper : FileTree → Bool
  | .folder entries => decide (entries.map Prod.fst).Nodup && areProper entries
  | .file _ | .link _ => true

def areProper : List (Text × FileTree) → Bool
  | [] => true
  | (name, tree) :: rest => Path.isName name && tree.isProper && areProper rest

end

theorem areProper_iff (entries : List (Text × FileTree)) :
    areProper entries = true ↔
      ∀ entry ∈ entries, Path.IsName entry.1 ∧ entry.2.isProper = true := by
  induction entries with
  | nil => simp [areProper]
  | cons entry rest ih =>
      rw [areProper, Bool.and_eq_true, Bool.and_eq_true, Path.isName_iff, ih,
        List.forall_mem_cons]

theorem isProper_folder_iff (entries : List (Text × FileTree)) :
    (folder entries).isProper = true ↔ (entries.map Prod.fst).Nodup ∧
      ∀ entry ∈ entries, Path.IsName entry.1 ∧ entry.2.isProper = true := by
  rw [isProper, Bool.and_eq_true, decide_eq_true_iff, areProper_iff]

theorem lookup_eq_some_iff {entries : List (Text × FileTree)}
    (distinct : (entries.map Prod.fst).Nodup) (name : Text) (tree : FileTree) :
    entries.lookup name = some tree ↔ (name, tree) ∈ entries := by
  induction entries with
  | nil => simp
  | cons entry rest ih =>
      obtain ⟨notLater, distinctRest⟩ := List.nodup_cons.mp distinct
      obtain ⟨first, other⟩ := entry
      rw [List.lookup_cons, List.mem_cons]
      by_cases same : name = first
      · subst same
        have notInRest : (name, tree) ∉ rest := fun member =>
          notLater (List.mem_map.mpr ⟨_, member, rfl⟩)
        simp [notInRest, eq_comm]
      · rw [beq_false_of_ne same]
        simp [same, ih distinctRest]

/-! ## What stands at a place -/

theorem at?_append (root : FileTree) (first second : Place) :
    root.at? (first ++ second) = (root.at? first).bind fun tree => tree.at? second := by
  rw [at?, List.foldlM_append]
  rfl

theorem at?_concat {root : FileTree} {place : Place} {entries : List (Text × FileTree)}
    (isFolder : root.at? place = some (.folder entries)) {name : Text} {child : FileTree}
    (isChild : entries.lookup name = some child) : root.at? (place ++ [name]) = some child := by
  rw [at?_append, isFolder, Option.bind_some, at?_cons, child?, isChild]
  rfl

/-- Something stands below a tree only if the tree is a folder. -/
theorem exists_eq_folder_of_at?_cons {tree : FileTree} {name : Text} {rest : Place}
    {below : FileTree} (stands : tree.at? (name :: rest) = some below) :
    ∃ entries child, tree = .folder entries ∧ entries.lookup name = some child ∧
      child.at? rest = some below := by
  rw [at?_cons, Option.bind_eq_some_iff] at stands
  obtain ⟨child, isChild, atRest⟩ := stands
  cases tree with
  | folder entries => exact ⟨entries, child, rfl, isChild, atRest⟩
  | file bytes => cases isChild
  | link target => cases isChild

/-- Something stands below a place only if a folder stands at it. -/
theorem exists_folder_of_at? {root : FileTree} {place : Place} {name : Text} {rest : Place}
    {tree : FileTree} (stands : root.at? (place ++ name :: rest) = some tree) :
    ∃ entries child, root.at? place = some (.folder entries) ∧ entries.lookup name = some child ∧
      child.at? rest = some tree := by
  rw [at?_append, Option.bind_eq_some_iff] at stands
  obtain ⟨above, atPlace, below⟩ := stands
  obtain ⟨entries, child, rfl, isChild, atRest⟩ := exists_eq_folder_of_at?_cons below
  exact ⟨entries, child, atPlace, isChild, atRest⟩

/-- The names that lead to a place are proper, and so is what stands there. -/
theorem isProper_of_at? {root : FileTree} (proper : root.isProper = true) {place : Place}
    {tree : FileTree} (stands : root.at? place = some tree) :
    (∀ name ∈ place, Path.IsName name) ∧ tree.isProper = true := by
  induction place generalizing root with
  | nil =>
      obtain rfl := Option.some.inj stands
      exact ⟨by simp, proper⟩
  | cons name rest ih =>
      obtain ⟨entries, child, rfl, isChild, below⟩ := exists_eq_folder_of_at?_cons stands
      obtain ⟨distinct, properEntries⟩ := (isProper_folder_iff entries).mp proper
      obtain ⟨named, properChild⟩ :=
        properEntries (name, child) ((lookup_eq_some_iff distinct name child).mp isChild)
      obtain ⟨namedRest, properTree⟩ := ih properChild below
      exact ⟨List.forall_mem_cons.mpr ⟨named, namedRest⟩, properTree⟩

theorem isPlainPlace_of_at? {root : FileTree} (proper : root.isProper = true) {place : Place}
    {tree : FileTree} (stands : root.at? place = some tree) : Path.IsPlainPlace place :=
  fun name member => ((isProper_of_at? proper stands).1 name member).isPlainName

/-- On the way to what stands at a place nothing stays or goes up. -/
theorem leads_of_at? {root : FileTree} (proper : root.isProper = true) {place : Place}
    {tree : FileTree} (stands : root.at? place = some tree) :
    ∀ name ∈ place, name ≠ Path.self ∧ name ≠ Path.parent := by
  intro name member
  have named : Path.IsName name := (isProper_of_at? proper stands).1 name member
  exact ⟨named.ne_self, named.ne_parent⟩

/-! ## Walking to a place -/

def isLink : FileTree → Bool
  | .link _ => true
  | .file _ | .folder _ => false

theorem isLink_eq_false_of_at?_cons {tree : FileTree} {name : Text} {rest : Place}
    {below : FileTree} (stands : tree.at? (name :: rest) = some below) : tree.isLink = false := by
  obtain ⟨entries, child, rfl, _⟩ := exists_eq_folder_of_at?_cons stands
  rfl

/-- A walk along the names that lead to a place arrives there, unless a link stands at it. -/
theorem walkWith_of_at? {root : FileTree} (proper : root.isProper = true)
    (follow : Place → List Text → Except WalkError Place) {here names : Place} {tree : FileTree}
    (stands : root.at? (here ++ names) = some tree) (noLink : tree.isLink = false) :
    root.walkWith follow here names = .ok (here ++ names) := by
  induction names generalizing here with
  | nil =>
      rw [List.append_nil]
      rfl
  | cons name rest ih =>
      obtain ⟨entries, child, isHere, isChild, below⟩ := exists_folder_of_at? stands
      have named : Path.IsName name :=
        (isProper_of_at? proper stands).1 name (List.mem_append_right _ List.mem_cons_self)
      have childNoLink : child.isLink = false := by
        cases rest with
        | nil =>
            obtain rfl := Option.some.inj below
            exact noLink
        | cons next more => exact isLink_eq_false_of_at?_cons below
      rw [List.append_cons] at stands ⊢
      rw [← ih stands, walkWith, isHere]
      dsimp only
      rw [if_neg named.ne_self, if_neg named.ne_parent, named.not_long,
        if_neg Bool.false_ne_true, isChild]
      cases child with
      | file bytes => rfl
      | folder others => rfl
      | link target => cases childNoLink

/-- A walk from the root arrives at what stands at a place, unless it is a link. -/
theorem walk_of_at? {root : FileTree} (proper : root.isProper = true) {place : Place}
    {tree : FileTree} (stands : root.at? place = some tree) (noLink : tree.isLink = false) :
    root.walk place = .ok place := by
  have fromRoot : root.at? ([] ++ place) = some tree := stands
  exact walkWith_of_at? proper _ fromRoot noLink

end FileTree

end SnippetSearch
