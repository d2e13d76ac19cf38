import SnippetSearch.Proofs.FileTree.Places

/-!
# Where the path of a place leads

Settling goes along the pieces of a path for as long as it meets no link.
So the path of a place at which no link stands leads to that place, and the
path of a link leads to wherever its target leads from the folder that the
link stands in.
-/

namespace SnippetSearch

namespace FileTree

namespace Spelling

def step (spelling : Spelling) (piece : Text) : Spelling :=
  if piece.isEmpty || piece == Path.self then spelling
  else if piece = Path.parent then spelling.up
  else spelling.down piece

def along (spelling : Spelling) (pieces : List Text) : Spelling :=
  pieces.foldl step spelling

theorem step_of_isName {name : Text} (named : Path.IsName name) (spelling : Spelling) :
    spelling.step name = spelling.down name := by
  rw [step, named.leads, if_neg Bool.false_ne_true, if_neg named.ne_parent]

def ofPlace (place : Place) : Spelling := ⟨true, 0, place⟩

@[simp] theorem place_ofPlace (workingFolder place : Place) :
    (ofPlace place).place workingFolder = place := rfl

@[simp] theorem path_ofPlace (place : Place) : (ofPlace place).path = place.path := rfl

theorem along_ofPlace {names : List Text} (named : ∀ name ∈ names, Path.IsName name)
    (here : Place) : (ofPlace here).along names = ofPlace (here ++ names) := by
  induction names generalizing here with
  | nil => rw [List.append_nil]; rfl
  | cons name rest ih =>
      obtain ⟨namedFirst, namedRest⟩ := List.forall_mem_cons.mp named
      calc (ofPlace here).along (name :: rest)
        _ = ((ofPlace here).step name).along rest := rfl
        _ = (ofPlace (here ++ [name])).along rest := by rw [step_of_isName namedFirst]; rfl
        _ = ofPlace (here ++ name :: rest) := by rw [ih namedRest, ← List.append_cons]

end Spelling

/-- What a path comes to whose last name is a link, after what the target of the link comes to. -/
def Settled.afterLink : Settled → Settled
  | .reached spelling => .reached spelling
  | .loop path => .loop (Path.append path [])
  | .nullByte => .nullByte
  | .tooDeep => .tooDeep

section

variable {root : FileTree} {workingFolder : Place}
  {follow : MetLinks → Spelling → List Text → Settled × MetLinks} {met : MetLinks}
  {here : Spelling}

/-! ## Along pieces without links -/

theorem settleWith_cons {piece : Text} (noNull : Path.hasNull piece = false)
    (free : root.linkTarget? workingFolder (here.step piece) = none) (rest : List Text) :
    root.settleWith workingFolder follow met here (piece :: rest) =
      root.settleWith workingFolder follow met (here.step piece) rest := by
  rw [settleWith, noNull]
  by_cases stays : (piece.isEmpty || piece == Path.self) = true
  · rw [Spelling.step, if_pos stays, if_pos stays]
  · by_cases goesUp : piece = Path.parent
    · rw [Spelling.step, if_neg stays, if_neg stays, if_pos goesUp, if_pos goesUp]
    · rw [Spelling.step, if_neg stays, if_neg goesUp] at free ⊢
      rw [if_neg stays, if_neg goesUp, if_neg Bool.false_ne_true]
      dsimp only
      rw [free]

theorem settleWith_append {first : List Text}
    (noNull : ∀ piece ∈ first, Path.hasNull piece = false)
    (free : ∀ way piece, way ++ [piece] <+: first →
      root.linkTarget? workingFolder (here.along (way ++ [piece])) = none)
    (second : List Text) :
    root.settleWith workingFolder follow met here (first ++ second) =
      root.settleWith workingFolder follow met (here.along first) second := by
  induction first generalizing here with
  | nil => rfl
  | cons piece rest ih =>
      obtain ⟨noNullFirst, noNullRest⟩ := List.forall_mem_cons.mp noNull
      rw [List.cons_append, settleWith_cons noNullFirst (free [] piece ⟨rest, rfl⟩)]
      refine ih noNullRest fun way next isWay => ?_
      exact free (piece :: way) next ((List.prefix_cons_inj piece).mpr isWay)

/-- From a link that was followed to its end, settling goes on at that end. -/
theorem settleWith_known {name : Text} (named : Path.IsName name) {target : Text}
    (isLink : root.linkTarget? workingFolder (here.down name) = some target) {found : Spelling}
    (known : met.lookup (here.down name) = some (some found)) (rest : List Text) :
    root.settleWith workingFolder follow met here (name :: rest) =
      root.settleWith workingFolder follow met found rest := by
  rw [settleWith, named.leads, if_neg Bool.false_ne_true, if_neg named.ne_parent, named.no_null,
    if_neg Bool.false_ne_true]
  dsimp only
  rw [isLink, known]

/-- At a link that is not met yet, its target is followed to its end first. -/
theorem settleWith_reached {name : Text} (named : Path.IsName name) {target : Text}
    (isLink : root.linkTarget? workingFolder (here.down name) = some target)
    (unmet : met.lookup (here.down name) = none) {found : Spelling} {after : MetLinks}
    (reaches : follow ((here.down name, none) :: met) (here.targetStart target)
      (Text.cut '/' target) = (.reached found, after)) (rest : List Text) :
    root.settleWith workingFolder follow met here (name :: rest) =
      root.settleWith workingFolder follow ((here.down name, some found) :: after) found rest := by
  rw [settleWith, named.leads, if_neg Bool.false_ne_true, if_neg named.ne_parent, named.no_null,
    if_neg Bool.false_ne_true]
  dsimp only
  rw [isLink, unmet]
  dsimp only
  rw [reaches]

/-- At a link at the end that is not met yet, it is its target that is followed. -/
theorem settleWith_link {name : Text} (named : Path.IsName name) {target : Text}
    (isLink : root.linkTarget? workingFolder (here.down name) = some target)
    (unmet : met.lookup (here.down name) = none) :
    (root.settleWith workingFolder follow met here [name]).1 =
      (follow ((here.down name, none) :: met) (here.targetStart target)
        (Text.cut '/' target)).1.afterLink := by
  rw [settleWith, named.leads, if_neg Bool.false_ne_true, if_neg named.ne_parent, named.no_null,
    if_neg Bool.false_ne_true]
  dsimp only
  rw [isLink, unmet]
  dsimp only
  obtain ⟨settled, after⟩ :=
    follow ((here.down name, none) :: met) (here.targetStart target) (Text.cut '/' target)
  cases settled <;> rfl

end

/-! ## Resolving the path of a place -/

def locateSettled (root : FileTree) (workingFolder : Place) :
    Settled → Except ResolveError Location
  | .nullByte => .error .nullByte
  | .tooDeep => .error .linksTooDeep
  | .reached spelling => root.checkLocation ⟨spelling.place workingFolder, false⟩
  | .loop left => root.checkLocation (Path.lexicalLocation workingFolder left)

theorem resolve_eq_locateSettled (root : FileTree) (workingFolder : Place) (path : Text) :
    root.resolve workingFolder path =
      root.locateSettled workingFolder (root.settle workingFolder path) := by
  rw [resolve]
  cases root.settle workingFolder path <;> rfl

/--
Where a link leads that stands at the end of a place: its target is followed
from the folder above, and meeting the link again closes a circle.
-/
def linkEnd (root : FileTree) (workingFolder folder : Place) (name target : Text) :
    Except ResolveError Location :=
  root.locateSettled workingFolder
    (root.settleWithin workingFolder (maxNestedLinks - 1)
      [(.ofPlace (folder ++ [name]), none)] ((Spelling.ofPlace folder).targetStart target)
      (Text.cut '/' target)).1.afterLink

theorem linkTarget?_ofPlace_eq_none {root : FileTree} (workingFolder : Place) {place : Place}
    {tree : FileTree} (stands : root.at? place = some tree)
    (noLink : tree.isLink = false ∨ Path.isTooLong place.path = true) :
    root.linkTarget? workingFolder (.ofPlace place) = none := by
  rw [linkTarget?, Spelling.path_ofPlace, Spelling.place_ofPlace, stands]
  cases tree with
  | link target =>
      have long : Path.isTooLong place.path = true := noLink.resolve_left Bool.noConfusion
      rw [if_pos long]
  | file bytes => exact ite_self none
  | folder entries => exact ite_self none

theorem linkTarget?_ofPlace_eq_some {root : FileTree} (workingFolder : Place) {place : Place}
    {target : Text} (stands : root.at? place = some (.link target))
    (short : Path.isTooLong place.path = false) :
    root.linkTarget? workingFolder (.ofPlace place) = some target := by
  rw [linkTarget?, Spelling.path_ofPlace, Spelling.place_ofPlace, stands, short,
    if_neg Bool.false_ne_true]

section

variable {root : FileTree} (proper : root.isProper = true) (workingFolder : Place)

include proper

/-- The names that lead to a place at which no link stands are gone along to the place. -/
theorem settleWith_place {place : Place} {tree : FileTree} (stands : root.at? place = some tree)
    (noLink : tree.isLink = false ∨ Path.isTooLong place.path = true)
    (follow : MetLinks → Spelling → List Text → Settled × MetLinks) (met : MetLinks)
    (rest : List Text) :
    root.settleWith workingFolder follow met .root (place ++ rest) =
      root.settleWith workingFolder follow met (.ofPlace place) rest := by
  have named : ∀ name ∈ place, Path.IsName name := (isProper_of_at? proper stands).1
  have arrives (way : Place) (isWay : way <+: place) : Spelling.root.along way = .ofPlace way :=
    Spelling.along_ofPlace (fun name member => named name (isWay.subset member)) []
  rw [settleWith_append (fun name member => (named name member).no_null),
    arrives place List.prefix_rfl]
  rintro way name isWay
  rw [arrives _ isWay]
  obtain ⟨more, rfl⟩ := isWay
  cases more with
  | nil =>
      rw [List.append_nil] at stands noLink
      exact linkTarget?_ofPlace_eq_none workingFolder stands noLink
  | cons next more =>
      obtain ⟨entries, _, isFolder, _⟩ := exists_folder_of_at? stands
      exact linkTarget?_ofPlace_eq_none workingFolder isFolder (.inl rfl)

theorem checkLocation_of_no_link {place : Place} {tree : FileTree}
    (stands : root.at? place = some tree)
    (noLink : tree.isLink = false ∨ Path.isTooLong place.path = true) :
    root.checkLocation ⟨place, false⟩ = .ok ⟨place, false⟩ := by
  have named : ∀ name ∈ place, Path.IsName name := (isProper_of_at? proper stands).1
  have noNull : place.any Path.hasNull = false :=
    List.any_eq_false.mpr fun name member => Bool.eq_false_iff.mp (named name member).no_null
  rw [checkLocation, noNull, if_neg Bool.false_ne_true]
  split
  · rfl
  · next short =>
      have arrives : root.walk place = .ok place :=
        walk_of_at? proper stands (noLink.resolve_right short)
      rw [arrives]

theorem resolve_of_no_link {place : Place} {tree : FileTree} (stands : root.at? place = some tree)
    (noLink : tree.isLink = false ∨ Path.isTooLong place.path = true) :
    root.resolve workingFolder place.path = .ok ⟨place, false⟩ := by
  have named : ∀ name ∈ place, Path.IsName name := (isProper_of_at? proper stands).1
  have settled : root.settle workingFolder place.path = .reached (.ofPlace place) := by
    have arrives := settleWith_place proper workingFolder stands noLink
      (settleWithin root workingFolder (maxNestedLinks - 1)) [] []
    rw [settle, Path.components_path named]
    rw [List.append_nil] at arrives
    exact congrArg Prod.fst arrives
  rw [resolve_eq_locateSettled, settled]
  exact checkLocation_of_no_link proper stands noLink

theorem resolve_of_link {folder : Place} {name target : Text}
    (stands : root.at? (folder ++ [name]) = some (.link target))
    (short : Path.isTooLong (Place.path (folder ++ [name])) = false) :
    root.resolve workingFolder (Place.path (folder ++ [name])) =
      root.linkEnd workingFolder folder name target := by
  have named : ∀ part ∈ folder ++ [name], Path.IsName part := (isProper_of_at? proper stands).1
  obtain ⟨entries, _, isFolder, _⟩ := exists_folder_of_at? stands
  have isLink : root.linkTarget? workingFolder (.ofPlace (folder ++ [name])) = some target :=
    linkTarget?_ofPlace_eq_some workingFolder stands short
  have followed : (root.settle workingFolder (Place.path (folder ++ [name]))) =
      (root.settleWithin workingFolder (maxNestedLinks - 1)
        [(.ofPlace (folder ++ [name]), none)] ((Spelling.ofPlace folder).targetStart target)
        (Text.cut '/' target)).1.afterLink := by
    rw [settle, Path.components_path named]
    have arrives := settleWith_place proper workingFolder isFolder (.inl rfl)
      (settleWithin root workingFolder (maxNestedLinks - 1)) [] [name]
    exact (congrArg Prod.fst arrives).trans (settleWith_link (named name (by simp)) isLink rfl)
  rw [resolve_eq_locateSettled, followed, linkEnd]

end

end FileTree

end SnippetSearch
