import Mathlib.Data.Char
import Mathlib.Data.List.Lex
import SnippetSearch.Proofs.FileTree.Listing
import SnippetSearch.Proofs.Sorting.Order

/-!
# The order of a listing

The ways in a listing stand in the order in which a reader goes through the
folders: the files of a folder in the order of their names, and then all that
is in its first subfolder, in its second one, and so on.  No way comes before
itself, so that no way is listed twice.
-/

namespace SnippetSearch

namespace FileTree

variable {root : FileTree} {wanted : Text → Bool}

/-! ## Which way comes first -/

/--
Whether a way is met earlier than another one: files of a folder are met in the
order of their names, before all that is further down, and subfolders are gone
through one after the other in the order of their names.
-/
inductive ComesBefore : List Text → List Text → Prop where
  | files {name other : Text} (ordered : name < other) : ComesBefore [name] [other]
  | file (name folder next : Text) (rest : List Text) :
      ComesBefore [name] (folder :: next :: rest)
  | folders {folder other : Text} (ordered : folder < other) (next otherNext : Text)
      (rest otherRest : List Text) :
      ComesBefore (folder :: next :: rest) (other :: otherNext :: otherRest)
  | within (folder : Text) {way other : List Text} (below : ComesBefore way other) :
      ComesBefore (folder :: way) (folder :: other)

namespace ComesBefore

theorem ne_nil {way other : List Text} (before : ComesBefore way other) : way ≠ [] := by
  cases before <;> exact List.cons_ne_nil _ _

theorem irrefl (way : List Text) : ¬ ComesBefore way way := by
  induction way with
  | nil => exact fun before => before.ne_nil rfl
  | cons name rest ih =>
      intro before
      cases before with
      | files ordered => exact lt_irrefl name ordered
      | folders ordered => exact lt_irrefl name ordered
      | within _ below => exact ih below

theorem of_lt {folder other : Text} (ordered : folder < other) {way otherWay : List Text}
    (nonempty : way ≠ []) (otherNonempty : otherWay ≠ []) :
    ComesBefore (folder :: way) (other :: otherWay) := by
  obtain ⟨next, rest, rfl⟩ := List.exists_cons_of_ne_nil nonempty
  obtain ⟨otherNext, otherRest, rfl⟩ := List.exists_cons_of_ne_nil otherNonempty
  exact folders ordered next otherNext rest otherRest

theorem of_file (name folder : Text) {way : List Text} (nonempty : way ≠ []) :
    ComesBefore [name] (folder :: way) := by
  obtain ⟨next, rest, rfl⟩ := List.exists_cons_of_ne_nil nonempty
  exact file name folder next rest

end ComesBefore

/-! ## Entries in the order of their names -/

def NamedBefore {α : Type} (entry other : Text × α) : Prop :=
  entry.1 < other.1

instance {α : Type} : IsTrans (Text × α) NamedBefore where
  trans := fun _ _ _ first second => lt_trans (show _ < _ from first) second

theorem pairwise_sortByName {α : Type} {entries : List (Text × α)}
    (distinct : (entries.map Prod.fst).Nodup) : (sortByName entries).Pairwise NamedBefore := by
  apply StableSort.pairwise_sort NamedBefore
  apply (List.pairwise_map.mp distinct).imp
  intro entry later different
  unfold StableSort.Agrees NamedBefore
  split
  · next laterFirst => exact of_decide_eq_true laterFirst
  · next notLaterFirst =>
      have notLater : ¬ later.1 < entry.1 :=
        fun laterFirst => notLaterFirst (decide_eq_true laterFirst)
      exact lt_of_le_of_ne (not_lt.mp notLater) different

theorem pairwise_fileNames {here : Place} {entries : List (Text × FileTree)}
    (distinct : (entries.map Prod.fst).Nodup) :
    (fileNames root wanted here entries).Pairwise (· < ·) := by
  unfold fileNames
  rw [List.pairwise_map]
  exact pairwise_sortByName (distinct.sublist (List.filter_sublist.map Prod.fst))

/-- The subfolders that are entered stand among the entries of a folder in their order. -/
theorem folderListings_names_sublist (root : FileTree) (wanted : Text → Bool) (here : Place)
    (entries : List (Text × FileTree)) :
    ((folderListings root wanted here entries).map Prod.fst).Sublist (entries.map Prod.fst) := by
  induction entries with
  | nil => exact List.Sublist.refl []
  | cons entry rest ih =>
      obtain ⟨name, tree⟩ := entry
      rw [folderListings, List.map_cons]
      dsimp only
      split
      · exact ih.cons_cons name
      · exact ih.cons name

/-! ## All ways of a listing -/

/-- What is listed of a folder is in order, if what is listed of each subfolder is. -/
theorem pairwise_listing_folder {here : Place} {entries : List (Text × FileTree)}
    (distinct : (entries.map Prod.fst).Nodup)
    (ordered : ∀ listed ∈ folderListings root wanted here entries,
      listed.2.Pairwise ComesBefore) :
    (listing root wanted here (folder entries)).Pairwise ComesBefore := by
  have starts : ∀ listed ∈ folderListings root wanted here entries, ∀ way ∈ listed.2,
      ∃ rest, rest ≠ [] ∧ way = listed.1 :: rest := by
    rintro ⟨name, ways⟩ member way isWay
    obtain ⟨others, -, -, rfl⟩ := mem_folderListings_iff.mp member
    obtain ⟨rest, isBelow, rfl⟩ := List.mem_map.mp isWay
    exact ⟨rest, fun isNil => nil_not_mem_listing (isNil ▸ isBelow), rfl⟩
  rw [listing, List.pairwise_append]
  refine ⟨?files, ?folders, ?filesFirst⟩
  case files =>
    exact List.pairwise_map.mpr ((pairwise_fileNames distinct).imp ComesBefore.files)
  case folders =>
    rw [List.pairwise_flatMap]
    constructor
    · intro listed member
      exact ordered listed (mem_sortByName.mp member)
    · have inOrder := pairwise_sortByName
        (distinct.sublist (folderListings_names_sublist root wanted here entries))
      refine inOrder.imp_of_mem ?_
      intro listed other member otherMember isBefore way isWay otherWay isOtherWay
      obtain ⟨rest, nonempty, rfl⟩ := starts listed (mem_sortByName.mp member) way isWay
      obtain ⟨otherRest, otherNonempty, rfl⟩ :=
        starts other (mem_sortByName.mp otherMember) otherWay isOtherWay
      exact ComesBefore.of_lt isBefore nonempty otherNonempty
  case filesFirst =>
    intro file isFile way isWay
    obtain ⟨name, -, rfl⟩ := List.mem_map.mp isFile
    obtain ⟨listed, member, isWay⟩ := List.mem_flatMap.mp isWay
    obtain ⟨rest, nonempty, rfl⟩ := starts listed (mem_sortByName.mp member) way isWay
    exact ComesBefore.of_file name listed.1 nonempty

mutual

theorem pairwise_listing {here : Place} : {tree : FileTree} → tree.isProper = true →
    (listing root wanted here tree).Pairwise ComesBefore
  | .folder entries, proper => by
      obtain ⟨distinct, below⟩ := (isProper_folder_iff entries).mp proper
      exact pairwise_listing_folder distinct
        (pairwise_folderListings ((areProper_iff entries).mpr below))
  | .file _, _ => by
      rw [listing]
      exact List.Pairwise.nil
  | .link _, _ => by
      rw [listing]
      exact List.Pairwise.nil

theorem pairwise_folderListings {here : Place} : {entries : List (Text × FileTree)} →
    areProper entries = true → ∀ listed ∈ folderListings root wanted here entries,
      listed.2.Pairwise ComesBefore
  | [], _ => by
      rw [folderListings]
      exact List.forall_mem_nil _
  | (name, tree) :: rest, proper => by
      rw [areProper, Bool.and_eq_true, Bool.and_eq_true] at proper
      obtain ⟨⟨-, properTree⟩, properRest⟩ := proper
      intro listed member
      rcases mem_folderListings_cons_iff.mp member with ⟨-, -, rfl⟩ | inRest
      · exact List.pairwise_map.mpr
          ((pairwise_listing properTree).imp (ComesBefore.within name))
      · exact pairwise_folderListings properRest listed inRest

end

theorem nodup_listing {here : Place} {tree : FileTree} (proper : tree.isProper = true) :
    (listing root wanted here tree).Nodup := by
  apply (pairwise_listing proper).imp
  rintro way other before rfl
  exact ComesBefore.irrefl way before

end FileTree

end SnippetSearch
