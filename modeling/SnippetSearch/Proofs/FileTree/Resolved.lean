import Mathlib.Data.List.Induction
import SnippetSearch.Proofs.FileTree.Settling

/-!
# No link is left on the way to a settled place

Whatever links a path runs through, what it settles on is spelled without
them: a name is only taken over if no link stands there, and of a link that is
followed only its end remains.  The one exception is a spelling that has become
too long for the file system to be asked about.
-/

namespace SnippetSearch

/-! ## Lengths of paths -/

namespace Path

theorem byteCount_append (first second : Text) :
    byteCount (first ++ second) = byteCount first + byteCount second := by
  induction first with
  | nil => rw [List.nil_append, byteCount, byteCount, List.foldr_nil, Nat.zero_add]
  | cons letter rest ih =>
      simp only [byteCount, List.cons_append, List.foldr_cons] at ih ⊢
      rw [ih, Nat.add_assoc]

theorem isTooLong_of_prefix {start path : Text} (isStart : start <+: path)
    (short : isTooLong path = false) : isTooLong start = false := by
  obtain ⟨rest, rfl⟩ := isStart
  rw [isTooLong, decide_eq_false_iff_not, byteCount_append] at short
  rw [isTooLong, decide_eq_false_iff_not]
  omega

end Path

namespace FileTree

variable {root : FileTree} {workingFolder : Place}

/-! ## Clear spellings -/

namespace Spelling

/-- Whether a spelling has proper names only, and no link that can be asked about on its way. -/
structure IsClear (root : FileTree) (workingFolder : Place) (spelling : Spelling) : Prop where
  leads : ∀ name ∈ spelling.names, name ≠ Path.self ∧ name ≠ Path.parent
  free : ∀ way name, way ++ [name] <+: spelling.names →
    root.linkTarget? workingFolder { spelling with names := way ++ [name] } = none

namespace IsClear

theorem of_names_eq_nil {spelling : Spelling} (noNames : spelling.names = []) :
    spelling.IsClear root workingFolder where
  leads := by rw [noNames]; exact List.forall_mem_nil _
  free := fun way name isWay => by
    rw [noNames] at isWay
    exact absurd (List.prefix_nil.mp isWay) (List.concat_ne_nil name way)

variable {spelling : Spelling} (clear : spelling.IsClear root workingFolder)

include clear

theorem up : spelling.up.IsClear root workingFolder := by
  rw [Spelling.up]
  by_cases noNames : spelling.names = []
  · rw [noNames, List.isEmpty_nil, Bool.not_true, if_neg Bool.false_ne_true]
    split
    · exact clear
    · exact .of_names_eq_nil rfl
  · rw [if_pos (by simpa using noNames)]
    have shorter : spelling.names.dropLast <+: spelling.names := List.dropLast_prefix _
    exact ⟨fun name member => clear.leads name (shorter.subset member),
      fun way name isWay => clear.free way name (isWay.trans shorter)⟩

theorem down {name : Text} (leads : name ≠ Path.self ∧ name ≠ Path.parent)
    (free : root.linkTarget? workingFolder (spelling.down name) = none) :
    (spelling.down name).IsClear root workingFolder where
  leads := List.forall_mem_append.mpr ⟨clear.leads, List.forall_mem_singleton.mpr leads⟩
  free := fun way last isWay => by
    rcases List.prefix_concat_iff.mp isWay with whole | isWay
    · rw [whole]
      exact free
    · exact clear.free way last isWay

theorem targetStart (target : Text) : (spelling.targetStart target).IsClear root workingFolder := by
  rw [Spelling.targetStart]
  split
  · exact .of_names_eq_nil rfl
  · exact clear

end IsClear

end Spelling

/-! ## What settling comes to -/

def MetLinks.AreClear (root : FileTree) (workingFolder : Place) (met : MetLinks) : Prop :=
  ∀ link found, (link, some found) ∈ met → found.IsClear root workingFolder

namespace MetLinks.AreClear

variable {met : MetLinks} (clear : met.AreClear root workingFolder)

include clear

theorem cons_none (link : Spelling) :
    MetLinks.AreClear root workingFolder ((link, none) :: met) := by
  intro other found member
  rcases List.mem_cons.mp member with same | member
  · cases same
  · exact clear other found member

theorem cons_some (link : Spelling) {found : Spelling}
    (clearFound : found.IsClear root workingFolder) :
    MetLinks.AreClear root workingFolder ((link, some found) :: met) := by
  intro other found member
  rcases List.mem_cons.mp member with same | member
  · cases same
    exact clearFound
  · exact clear other found member

theorem lookup {link found : Spelling} (known : met.lookup link = some (some found)) :
    found.IsClear root workingFolder := by
  obtain ⟨earlier, later, rfl, _⟩ := List.lookup_eq_some_iff.mp known
  exact clear link found (List.mem_append_right _ List.mem_cons_self)

end MetLinks.AreClear

/-- Whether settling comes to a clear spelling, if to any, and has met such links only. -/
structure Settled.EndsClear (root : FileTree) (workingFolder : Place)
    (outcome : Settled × MetLinks) : Prop where
  reached : ∀ spelling, outcome.1 = .reached spelling → spelling.IsClear root workingFolder
  met : outcome.2.AreClear root workingFolder

theorem Settled.EndsClear.of_not_reached {outcome : Settled × MetLinks}
    (stops : ∀ spelling, outcome.1 ≠ .reached spelling)
    (clearMet : outcome.2.AreClear root workingFolder) :
    Settled.EndsClear root workingFolder outcome :=
  ⟨fun spelling same => absurd same (stops spelling), clearMet⟩

/-- Settling keeps what is spelled clear, if what is done with the targets of links does. -/
theorem settleWith_endsClear {follow : MetLinks → Spelling → List Text → Settled × MetLinks}
    (follows : ∀ {met : MetLinks} {here : Spelling} (pieces : List Text),
      met.AreClear root workingFolder → here.IsClear root workingFolder →
        Settled.EndsClear root workingFolder (follow met here pieces))
    {met : MetLinks} {here : Spelling} (pieces : List Text)
    (clearMet : met.AreClear root workingFolder) (clear : here.IsClear root workingFolder) :
    Settled.EndsClear root workingFolder
      (root.settleWith workingFolder follow met here pieces) := by
  induction pieces generalizing met here with
  | nil =>
      refine ⟨fun spelling same => ?_, clearMet⟩
      obtain rfl := Settled.reached.inj same
      exact clear
  | cons piece rest ih =>
      rw [settleWith]
      by_cases stays : (piece.isEmpty || piece == Path.self) = true
      · rw [if_pos stays]
        exact ih clearMet clear
      by_cases goesUp : piece = Path.parent
      · rw [if_neg stays, if_pos goesUp]
        exact ih clearMet clear.up
      by_cases null : Path.hasNull piece = true
      · rw [if_neg stays, if_neg goesUp, if_pos null]
        exact .of_not_reached (by simp) clearMet
      rw [if_neg stays, if_neg goesUp, if_neg null]
      dsimp only
      have leads : piece ≠ Path.self ∧ piece ≠ Path.parent :=
        ⟨fun same => stays (by rw [same]; rfl), goesUp⟩
      cases isLink : root.linkTarget? workingFolder (here.down piece) with
      | none => exact ih clearMet (clear.down leads isLink)
      | some target =>
          dsimp only
          cases known : met.lookup (here.down piece) with
          | none =>
              have followed := follows (Text.cut '/' target) (clearMet.cons_none (here.down piece))
                (clear.targetStart target)
              dsimp only
              generalize follow ((here.down piece, none) :: met) (here.targetStart target)
                (Text.cut '/' target) = outcome at followed ⊢
              obtain ⟨settled, after⟩ := outcome
              cases settled with
              | reached found =>
                  have clearFound : found.IsClear root workingFolder := followed.reached found rfl
                  exact ih (followed.met.cons_some _ clearFound) clearFound
              | loop path => exact .of_not_reached (by simp) followed.met
              | nullByte => exact .of_not_reached (by simp) followed.met
              | tooDeep => exact .of_not_reached (by simp) followed.met
          | some found? =>
              cases found? with
              | none => exact .of_not_reached (by simp) clearMet
              | some found => exact ih clearMet (clearMet.lookup known)

theorem settleWithin_endsClear (links : Nat) {met : MetLinks} {here : Spelling}
    (pieces : List Text) (clearMet : met.AreClear root workingFolder)
    (clear : here.IsClear root workingFolder) :
    Settled.EndsClear root workingFolder
      (root.settleWithin workingFolder links met here pieces) := by
  induction links generalizing met here pieces with
  | zero =>
      exact settleWith_endsClear (fun _ clearMet _ => .of_not_reached (by simp) clearMet) pieces
        clearMet clear
  | succ links ih => exact settleWith_endsClear ih pieces clearMet clear

/-- What a path settles on is spelled without links. -/
theorem isClear_of_settle {path : Text} {spelling : Spelling}
    (settled : root.settle workingFolder path = .reached spelling) :
    spelling.IsClear root workingFolder := by
  have start : (Spelling.startOf path).IsClear root workingFolder := by
    rw [Spelling.startOf]
    split <;> exact .of_names_eq_nil rfl
  have noneMet : MetLinks.AreClear root workingFolder [] := fun _ _ member => nomatch member
  exact (settleWithin_endsClear maxNestedLinks (Path.components path) noneMet start).reached
    spelling settled

/-! ## Places without links -/

def IsLinkFree (root : FileTree) (place : Place) : Prop :=
  ∀ way, way <+: place → ∀ target, root.at? way ≠ some (.link target)

theorem isLinkFree_of_at? {place : Place} {tree : FileTree} (stands : root.at? place = some tree)
    (noLink : tree.isLink = false) : root.IsLinkFree place := by
  rintro way ⟨more, rfl⟩ target isLink
  cases more with
  | nil =>
      rw [List.append_nil, isLink] at stands
      obtain rfl := Option.some.inj stands
      cases noLink
  | cons next more =>
      obtain ⟨entries, _, isFolder, _⟩ := exists_folder_of_at? stands
      rw [isFolder] at isLink
      cases isLink

/-- With fewer names the path is only a start of what it was. -/
theorem Spelling.path_prefix_path {spelling : Spelling} {way : List Text}
    (isWay : way <+: spelling.names) :
    { spelling with names := way }.path <+: spelling.path := by
  have relative := Text.join_prefix_join ['/']
    ((List.prefix_append_right_inj (List.replicate spelling.ups Path.parent)).mpr isWay)
  rw [Spelling.path, Spelling.path]
  split
  · exact (List.prefix_cons_inj '/').mpr relative
  · exact relative

def Spelling.above (workingFolder : Place) (spelling : Spelling) : Place :=
  if spelling.fromRoot then [] else workingFolder.take (workingFolder.length - spelling.ups)

theorem Spelling.place_eq (workingFolder : Place) (spelling : Spelling) :
    spelling.place workingFolder = spelling.above workingFolder ++ spelling.names := by
  rw [Spelling.place, Spelling.above]
  split <;> rfl

theorem Spelling.above_prefix (workingFolder : Place) (spelling : Spelling) :
    spelling.above workingFolder <+: workingFolder := by
  rw [Spelling.above]
  split
  · exact List.nil_prefix
  · exact List.take_prefix _ _

theorem Spelling.IsClear.isLinkFree {spelling : Spelling}
    (clear : spelling.IsClear root workingFolder) (short : Path.isTooLong spelling.path = false)
    (freeAbove : root.IsLinkFree workingFolder) :
    root.IsLinkFree (spelling.place workingFolder) := by
  intro way isWay target isLink
  rw [spelling.place_eq] at isWay
  have isAbove : spelling.above workingFolder <+: workingFolder :=
    spelling.above_prefix workingFolder
  rcases List.prefix_or_prefix_of_prefix isWay (List.prefix_append _ _) with before | ⟨first, rfl⟩
  · exact freeAbove way (before.trans isAbove) target isLink
  have isFirst : first <+: spelling.names := (List.prefix_append_right_inj _).mp isWay
  cases first using List.reverseRecOn with
  | nil =>
      rw [List.append_nil] at isLink
      exact freeAbove _ isAbove target isLink
  | append_singleton names name =>
      have isPlace : Spelling.place workingFolder { spelling with names := names ++ [name] } =
          spelling.above workingFolder ++ (names ++ [name]) := Spelling.place_eq _ _
      have looked := clear.free names name isFirst
      rw [linkTarget?, Path.isTooLong_of_prefix (Spelling.path_prefix_path isFirst) short,
        if_neg Bool.false_ne_true, isPlace, isLink] at looked
      cases looked

theorem Spelling.IsClear.leads_place {spelling : Spelling}
    (clear : spelling.IsClear root workingFolder)
    (leadsAbove : ∀ name ∈ workingFolder, name ≠ Path.self ∧ name ≠ Path.parent) :
    ∀ name ∈ spelling.place workingFolder, name ≠ Path.self ∧ name ≠ Path.parent := by
  rw [spelling.place_eq]
  exact List.forall_mem_append.mpr
    ⟨fun name member => leadsAbove name ((spelling.above_prefix workingFolder).subset member),
      clear.leads⟩

/-- A step of a walk to a name goes on from there, unless a link stands there. -/
theorem walkWith_cons_eq_ok {follow : Place → List Text → Except WalkError Place}
    {here rest other : Place} {name : Text} (leads : name ≠ Path.self ∧ name ≠ Path.parent)
    (arrives : root.walkWith follow here (name :: rest) = .ok other) :
    ∃ tree, root.at? (here ++ [name]) = some tree ∧
      (tree.isLink = false → root.walkWith follow (here ++ [name]) rest = .ok other) := by
  rw [walkWith] at arrives
  split at arrives
  · next entries isHere =>
      rw [if_neg leads.1, if_neg leads.2] at arrives
      split at arrives
      · cases arrives
      split at arrives
      · cases arrives
      · next isChild =>
          exact ⟨_, at?_concat isHere isChild, fun noLink => Bool.noConfusion noLink⟩
      · next isChild => exact ⟨_, at?_concat isHere isChild, fun _ => arrives⟩
      · next isChild => exact ⟨_, at?_concat isHere isChild, fun _ => arrives⟩
  · cases arrives

/-- A walk to a place without links on the way does not leave the way. -/
theorem walkWith_ok_of_isLinkFree {follow : Place → List Text → Except WalkError Place}
    {here names other : Place} (free : root.IsLinkFree (here ++ names))
    (leads : ∀ name ∈ names, name ≠ Path.self ∧ name ≠ Path.parent)
    (arrives : root.walkWith follow here names = .ok other) : other = here ++ names := by
  induction names generalizing here with
  | nil =>
      rw [List.append_nil]
      exact (Except.ok.inj arrives).symm
  | cons name rest ih =>
      obtain ⟨leadsFirst, leadsRest⟩ := List.forall_mem_cons.mp leads
      obtain ⟨tree, stands, goesOn⟩ := walkWith_cons_eq_ok leadsFirst arrives
      rw [List.append_cons] at free ⊢
      have notLink : tree.isLink = false := by
        cases tree with
        | link target => exact absurd stands (free _ (List.prefix_append _ _) target)
        | file bytes => rfl
        | folder entries => rfl
      exact ih free leadsRest (goesOn notLink)

/-- Where steps lead to a folder, a walk arrives at it. -/
theorem exists_walk_of_leadsToFolder {steps : List Text}
    (leadsOn : root.leadsToFolder steps = true) :
    ∃ there entries, root.walk steps = .ok there ∧ root.at? there = some (.folder entries) := by
  rw [leadsToFolder, reach?] at leadsOn
  cases arrives : root.walk steps with
  | error reason => rw [arrives] at leadsOn; cases leadsOn
  | ok there =>
      rw [arrives] at leadsOn
      dsimp only at leadsOn
      cases stands : root.at? there with
      | none => rw [stands] at leadsOn; cases leadsOn
      | some tree =>
          rw [stands] at leadsOn
          cases tree with
          | folder entries => exact ⟨there, entries, rfl, stands⟩
          | file bytes => cases leadsOn
          | link target => cases leadsOn

/-- If a place without links on the way leads to a folder, the folder stands there. -/
theorem exists_folder_of_leadsToFolder {place : Place} (free : root.IsLinkFree place)
    (leads : ∀ name ∈ place, name ≠ Path.self ∧ name ≠ Path.parent)
    (leadsOn : root.leadsToFolder place = true) :
    ∃ entries, root.at? place = some (.folder entries) := by
  obtain ⟨there, entries, arrives, stands⟩ := exists_walk_of_leadsToFolder leadsOn
  have fromRoot : root.IsLinkFree ([] ++ place) := free
  obtain rfl : there = place := walkWith_ok_of_isLinkFree fromRoot leads arrives
  exact ⟨entries, stands⟩

theorem eq_of_checkLocation {location other : Location}
    (taken : root.checkLocation location = .ok other) : other = location := by
  rw [checkLocation] at taken
  split at taken
  · cases taken
  split at taken
  · exact (Except.ok.inj taken).symm
  split at taken
  · cases taken
  · exact (Except.ok.inj taken).symm

theorem leads_of_resolve {path : Text} {location : Location}
    (leadsAbove : ∀ name ∈ workingFolder, name ≠ Path.self ∧ name ≠ Path.parent)
    (resolved : root.resolve workingFolder path = .ok location) :
    ∀ name ∈ location.place, name ≠ Path.self ∧ name ≠ Path.parent := by
  rw [resolve] at resolved
  split at resolved
  · cases resolved
  · cases resolved
  · next spelling settled =>
      obtain rfl := eq_of_checkLocation resolved
      exact (isClear_of_settle settled).leads_place leadsAbove
  · next left settled =>
      obtain rfl := eq_of_checkLocation resolved
      intro name member
      obtain ⟨isStep, notUp⟩ := Path.mem_normalize member
      rw [Path.steps_eq] at isStep
      rcases List.mem_append.mp isStep with above | isStep
      · exact leadsAbove name (Path.startOf_subset _ _ above)
      · exact ⟨(Path.isComponent_of_mem_components isStep).ne_self, notUp⟩

/-- Whether a location is spelled with one slash and no link stands on the way to it. -/
structure IsUnlinked (root : FileTree) (location : Location) : Prop where
  single : location.doubled = false
  free : root.IsLinkFree location.place

/--
Where a path leads, no link is left on the way, if the path runs into no circle of links
and is not too long where its links have been followed.
-/
theorem isUnlinked_of_resolve {path : Text} {location : Location} {spelling : Spelling}
    (freeAbove : root.IsLinkFree workingFolder)
    (resolved : root.resolve workingFolder path = .ok location)
    (settled : root.settle workingFolder path = .reached spelling)
    (short : Path.isTooLong spelling.path = false) : root.IsUnlinked location := by
  rw [resolve, settled] at resolved
  obtain rfl := eq_of_checkLocation resolved
  exact ⟨rfl, (isClear_of_settle settled).isLinkFree short freeAbove⟩

/-- A walk stays on the way to a location exactly if the location has no link on its way. -/
theorem eq_iff_isUnlinked {location : Location} {there : Place} {tree : FileTree}
    (arrives : root.walk location.place = .ok there)
    (leads : ∀ name ∈ location.place, name ≠ Path.self ∧ name ≠ Path.parent)
    (stands : root.at? there = some tree) (noLink : tree.isLink = false) :
    location = ⟨there, false⟩ ↔ root.IsUnlinked location := by
  constructor
  · rintro rfl
    exact ⟨rfl, isLinkFree_of_at? stands noLink⟩
  · intro unlinked
    obtain ⟨place, doubled⟩ := location
    obtain rfl : doubled = false := unlinked.single
    have fromRoot : root.IsLinkFree ([] ++ place) := unlinked.free
    obtain rfl : there = place := walkWith_ok_of_isLinkFree fromRoot leads arrives
    rfl

end FileTree

end SnippetSearch
