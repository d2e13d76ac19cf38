import SnippetSearch.Proofs.FileTree.Resolved

/-!
# Settling a place that a walk reaches

A walk inserts the target of a link before the steps that are left and counts
the links that it follows.  Settling follows a target to its end first, keeps
in mind where a link led, and stops at a link that it is still following.  Both
come to the same place if the walk arrives: behind a link fewer links are left
to be followed than in front of it, so that none is met inside itself.
-/

namespace SnippetSearch

namespace FileTree

/--
Whether the pieces of a path lead from one place to another with so many links
followed.  The target of a link is followed to its end before what stands
behind the link.
-/
inductive Leads (root : FileTree) : Nat → Place → List Text → Place → Prop where
  | arrived (here : Place) : Leads root 0 here [] here
  | stay {links : Nat} {here there : Place} {piece : Text} {rest : List Text}
      (stays : (piece.isEmpty || piece == Path.self) = true)
      (goesOn : Leads root links here rest there) :
      Leads root links here (piece :: rest) there
  | up {links : Nat} {here there : Place} {rest : List Text}
      (goesOn : Leads root links here.dropLast rest there) :
      Leads root links here (Path.parent :: rest) there
  | down {links : Nat} {here there : Place} {name : Text} {rest : List Text} {tree : FileTree}
      (named : Path.IsName name) (stands : root.at? (here ++ [name]) = some tree)
      (noLink : tree.isLink = false) (goesOn : Leads root links (here ++ [name]) rest there) :
      Leads root links here (name :: rest) there
  | link {links more : Nat} {here middle there : Place} {name target : Text} {rest : List Text}
      (named : Path.IsName name) (stands : root.at? (here ++ [name]) = some (.link target))
      (follows : Leads root links (targetPlace here target) (Text.cut '/' target) middle)
      (goesOn : Leads root more middle rest there) :
      Leads root (links + more + 1) here (name :: rest) there

namespace Leads

variable {root : FileTree} {links : Nat} {here there : Place} {pieces : List Text}

/-- Every piece stays, goes up or is a name. -/
theorem isName_of_mem (leads : root.Leads links here pieces there) {piece : Text}
    (member : piece ∈ pieces) (leadsOn : (piece.isEmpty || piece == Path.self) = false)
    (downwards : piece ≠ Path.parent) : Path.IsName piece := by
  induction leads with
  | arrived here => cases member
  | stay stays goesOn ih =>
      rcases List.mem_cons.mp member with rfl | member
      · rw [leadsOn] at stays
        cases stays
      · exact ih member
  | up goesOn ih =>
      rcases List.mem_cons.mp member with same | member
      · exact absurd same downwards
      · exact ih member
  | down named stands noLink goesOn ih =>
      rcases List.mem_cons.mp member with rfl | member
      · exact named
      · exact ih member
  | link named stands follows goesOn ihFollows ih =>
      rcases List.mem_cons.mp member with rfl | member
      · exact named
      · exact ih member

/-- Pieces can be cut anywhere; each link is followed in one of the two parts. -/
theorem exists_of_append {first second : List Text}
    (leads : root.Leads links here (first ++ second) there) :
    ∃ few more middle, root.Leads few here first middle ∧ root.Leads more middle second there ∧
      links = few + more := by
  induction first generalizing links here with
  | nil => exact ⟨0, links, here, .arrived here, leads, (Nat.zero_add links).symm⟩
  | cons piece first ih =>
      cases leads with
      | stay stays goesOn =>
          obtain ⟨few, more, middle, before, behind, sum⟩ := ih goesOn
          exact ⟨few, more, middle, .stay stays before, behind, sum⟩
      | up goesOn =>
          obtain ⟨few, more, middle, before, behind, sum⟩ := ih goesOn
          exact ⟨few, more, middle, .up before, behind, sum⟩
      | down named stands noLink goesOn =>
          obtain ⟨few, more, middle, before, behind, sum⟩ := ih goesOn
          exact ⟨few, more, middle, .down named stands noLink before, behind, sum⟩
      | link named stands follows goesOn =>
          obtain ⟨few, more, middle, before, behind, sum⟩ := ih goesOn
          exact ⟨_, more, middle, .link named stands follows before, behind, by omega⟩

/-- Empty pieces lead nowhere, so that they can be put in anywhere. -/
theorem of_filter_nonempty
    (leads : root.Leads links here (pieces.filter fun piece => !piece.isEmpty) there) :
    root.Leads links here pieces there := by
  induction pieces generalizing links here with
  | nil => exact leads
  | cons piece rest ih =>
      cases empty : piece.isEmpty with
      | true =>
          rw [List.filter_cons_of_neg (by rw [empty]; exact Bool.false_ne_true)] at leads
          exact .stay (by rw [empty]; rfl) (ih leads)
      | false =>
          rw [List.filter_cons_of_pos (by rw [empty]; rfl)] at leads
          cases leads with
          | stay stays goesOn => exact .stay stays (ih goesOn)
          | up goesOn => exact .up (ih goesOn)
          | down named stands noLink goesOn => exact .down named stands noLink (ih goesOn)
          | link named stands follows goesOn => exact .link named stands follows (ih goesOn)

theorem of_targetSteps {target : Text}
    (leads : root.Leads links here (targetSteps target) there) :
    root.Leads links here (Text.cut '/' target) there := by
  rw [targetSteps] at leads
  split at leads
  · obtain ⟨few, more, middle, before, behind, sum⟩ := leads.exists_of_append
    cases behind with
    | stay stays goesOn =>
        cases goesOn
        rw [sum]
        exact before.of_filter_nonempty
    | down named => exact absurd rfl named.ne_self
    | link named => exact absurd rfl named.ne_self
  · exact leads.of_filter_nonempty

/-- The same pieces lead to one place only, with the same number of links followed. -/
theorem unique {others : Nat} {elsewhere : Place} (leads : root.Leads links here pieces there)
    (other : root.Leads others here pieces elsewhere) : links = others ∧ there = elsewhere := by
  have apart {piece : Text} (named : Path.IsName piece) :
      ¬ (piece.isEmpty || piece == Path.self) = true := by
    rw [named.leads]
    exact Bool.false_ne_true
  induction leads generalizing others elsewhere with
  | arrived here =>
      cases other
      exact ⟨rfl, rfl⟩
  | stay stays goesOn ih =>
      cases other with
      | stay _ goesOn => exact ih goesOn
      | up => cases stays
      | down named => exact absurd stays (apart named)
      | link named => exact absurd stays (apart named)
  | up goesOn ih =>
      cases other with
      | stay stays => cases stays
      | up goesOn => exact ih goesOn
      | down named => exact absurd rfl named.ne_parent
      | link named => exact absurd rfl named.ne_parent
  | down named stands noLink goesOn ih =>
      cases other with
      | stay stays => exact absurd stays (apart named)
      | up => exact absurd rfl named.ne_parent
      | down _ _ _ goesOn => exact ih goesOn
      | link _ isLink =>
          obtain rfl := Option.some.inj (stands.symm.trans isLink)
          cases noLink
  | link named stands follows goesOn ihFollows ih =>
      cases other with
      | stay stays => exact absurd stays (apart named)
      | up => exact absurd rfl named.ne_parent
      | down _ isTree noLink =>
          obtain rfl := Option.some.inj (isTree.symm.trans stands)
          cases noLink
      | link _ isLink followsToo goesOn =>
          cases stands.symm.trans isLink
          obtain ⟨rfl, rfl⟩ := ihFollows followsToo
          obtain ⟨rfl, rfl⟩ := ih goesOn
          exact ⟨rfl, rfl⟩

end Leads

/-! ## Walks -/

/-- Whether steps, none of them empty, lead to a place with so many links followed at most. -/
structure LeadsWithin (root : FileTree) (budget : Nat) (here : Place) (steps : List Text)
    (there : Place) : Prop where
  noneEmpty : [] ∉ steps
  leads : ∃ links, links ≤ budget ∧ root.Leads links here steps there

namespace LeadsWithin

variable {root : FileTree} {budget : Nat} {here next there : Place} {name : Text}
  {rest : List Text}

theorem cons (within : root.LeadsWithin budget next rest there) (nonempty : name ≠ [])
    (onward : ∀ {links}, root.Leads links next rest there →
      root.Leads links here (name :: rest) there) :
    root.LeadsWithin budget here (name :: rest) there := by
  obtain ⟨noneEmpty, links, enough, leads⟩ := within
  exact ⟨List.not_mem_cons_of_ne_of_not_mem nonempty.symm noneEmpty, links, enough, onward leads⟩

/-- Steps into the target of a link, with the rest behind them, take one link less. -/
theorem link {target : Text}
    (within : root.LeadsWithin budget (targetPlace here target) (targetSteps target ++ rest) there)
    (named : Path.IsName name) (stands : root.at? (here ++ [name]) = some (.link target)) :
    root.LeadsWithin (budget + 1) here (name :: rest) there := by
  obtain ⟨noneEmpty, links, enough, leads⟩ := within
  obtain ⟨few, more, middle, before, behind, sum⟩ := leads.exists_of_append
  have restNonempty : [] ∉ rest := fun member => noneEmpty (List.mem_append_right _ member)
  exact ⟨List.not_mem_cons_of_ne_of_not_mem named.ne_nil.symm restNonempty, few + more + 1,
    by omega, .link named stands before.of_targetSteps behind⟩

end LeadsWithin

section

variable {root : FileTree} (proper : root.isProper = true)

include proper

/-- Where a walk arrives, its steps lead; a link that it follows is taken off the budget. -/
theorem leadsWithin_of_walkWith {follow : Place → List Text → Except WalkError Place}
    {budget : Nat}
    (follows : ∀ {here there : Place} {steps : List Text}, follow here steps = .ok there →
      ∃ less, budget = less + 1 ∧ root.LeadsWithin less here steps there)
    {here there : Place} {steps : List Text}
    (arrives : root.walkWith follow here steps = .ok there) :
    root.LeadsWithin budget here steps there := by
  induction steps generalizing here with
  | nil =>
      obtain rfl := Except.ok.inj arrives
      exact ⟨List.not_mem_nil, 0, Nat.zero_le budget, .arrived here⟩
  | cons step rest ih =>
      rw [walkWith] at arrives
      split at arrives
      · next entries isHere =>
          by_cases stays : step = Path.self
          · rw [if_pos stays] at arrives
            subst stays
            exact (ih arrives).cons (by decide) (.stay rfl)
          by_cases goesUp : step = Path.parent
          · rw [if_neg stays, if_pos goesUp] at arrives
            subst goesUp
            exact (ih arrives).cons (by decide) .up
          rw [if_neg stays, if_neg goesUp] at arrives
          split at arrives
          · cases arrives
          cases isChild : entries.lookup step with
          | none =>
              rw [isChild] at arrives
              cases arrives
          | some tree =>
              rw [isChild] at arrives
              have stands : root.at? (here ++ [step]) = some tree := at?_concat isHere isChild
              have named : Path.IsName step :=
                (isProper_of_at? proper stands).1 step (List.mem_append_right _ List.mem_cons_self)
              cases tree with
              | link target =>
                  obtain ⟨less, rfl, within⟩ := follows arrives
                  exact within.link named stands
              | file bytes => exact (ih arrives).cons named.ne_nil (.down named stands rfl)
              | folder others => exact (ih arrives).cons named.ne_nil (.down named stands rfl)
      · cases arrives

/-- A walk leads where it arrives, with no more links followed than it may. -/
theorem leadsWithin_of_walkWithin (budget : Nat) {here there : Place} {steps : List Text}
    (arrives : root.walkWithin budget here steps = .ok there) :
    root.LeadsWithin budget here steps there := by
  induction budget generalizing here there steps with
  | zero => exact leadsWithin_of_walkWith proper (fun followed => by cases followed) arrives
  | succ budget ih =>
      exact leadsWithin_of_walkWith proper (fun followed => ⟨budget, rfl, ih followed⟩) arrives

end

/-! ## Lengths of paths -/

mutual

def hasShortPaths (here : Place) : FileTree → Bool
  | .folder entries => !Path.isTooLong here.path && haveShortPaths here entries
  | .file _ | .link _ => !Path.isTooLong here.path

def haveShortPaths (here : Place) : List (Text × FileTree) → Bool
  | [] => true
  | (name, tree) :: rest => tree.hasShortPaths (here ++ [name]) && haveShortPaths here rest

end

theorem hasShortPaths_of_lookup {here : Place} {entries : List (Text × FileTree)}
    (short : haveShortPaths here entries = true) {name : Text} {child : FileTree}
    (isChild : entries.lookup name = some child) :
    child.hasShortPaths (here ++ [name]) = true := by
  induction entries with
  | nil => cases isChild
  | cons entry rest ih =>
      obtain ⟨first, tree⟩ := entry
      rw [haveShortPaths, Bool.and_eq_true] at short
      rw [List.lookup_cons] at isChild
      split at isChild
      · next same =>
          obtain rfl := Option.some.inj isChild
          rw [eq_of_beq same]
          exact short.1
      · exact ih short.2 isChild

theorem isTooLong_append_of_hasShortPaths {here place : Place} {tree below : FileTree}
    (short : tree.hasShortPaths here = true) (stands : tree.at? place = some below) :
    Path.isTooLong (Place.path (here ++ place)) = false := by
  induction place generalizing here tree with
  | nil =>
      rw [List.append_nil]
      cases tree with
      | folder entries =>
          rw [hasShortPaths, Bool.and_eq_true] at short
          exact (Bool.not_eq_true' _).mp short.1
      | file bytes => exact (Bool.not_eq_true' _).mp short
      | link target => exact (Bool.not_eq_true' _).mp short
  | cons name rest ih =>
      obtain ⟨entries, child, rfl, isChild, standsBelow⟩ := exists_eq_folder_of_at?_cons stands
      rw [hasShortPaths, Bool.and_eq_true] at short
      rw [List.append_cons]
      exact ih (hasShortPaths_of_lookup short.2 isChild) standsBelow

/-- The path of what stands at a place can be asked for if all paths can. -/
theorem isTooLong_of_hasShortPaths {root : FileTree} (short : root.hasShortPaths [] = true)
    {place : Place} {tree : FileTree} (stands : root.at? place = some tree) :
    Path.isTooLong place.path = false :=
  isTooLong_append_of_hasShortPaths short stands

/-! ## Settling along what leads somewhere -/

def LinkLeads (root : FileTree) (links : Nat) (place there : Place) : Prop :=
  ∃ folder name target, place = folder ++ [name] ∧ root.at? place = some (.link target) ∧
    root.Leads links (targetPlace folder target) (Text.cut '/' target) there

theorem LinkLeads.unique {root : FileTree} {links others : Nat} {place there elsewhere : Place}
    (leads : root.LinkLeads links place there) (other : root.LinkLeads others place elsewhere) :
    links = others ∧ there = elsewhere := by
  obtain ⟨folder, name, target, rfl, stands, follows⟩ := leads
  obtain ⟨folder', name', target', same, stands', follows'⟩ := other
  obtain ⟨rfl, -⟩ := List.append_inj' same rfl
  cases stands.symm.trans stands'
  exact follows.unique follows'

namespace MetLinks

/-- Whether every link that was followed to its end is known with the place that it leads to. -/
def AreKnown (root : FileTree) (met : MetLinks) : Prop :=
  ∀ place found, met.lookup (.ofPlace place) = some (some found) →
    ∃ links there, found = .ofPlace there ∧ root.LinkLeads links place there

/-- Whether every link that is being followed leads on with no fewer links than that. -/
def AreBehind (root : FileTree) (links : Nat) (met : MetLinks) : Prop :=
  ∀ place, met.lookup (.ofPlace place) = some none →
    ∃ more there, links ≤ more ∧ root.LinkLeads more place there

end MetLinks

namespace Spelling

theorem ofPlace_inj {place other : Place} : ofPlace place = ofPlace other ↔ place = other :=
  ⟨congrArg names, congrArg ofPlace⟩

theorem up_ofPlace (place : Place) : (ofPlace place).up = ofPlace place.dropLast := by
  cases place <;> rfl

theorem targetStart_ofPlace (folder : Place) (target : Text) :
    (ofPlace folder).targetStart target = ofPlace (targetPlace folder target) := by
  rw [targetStart, targetPlace]
  split <;> rfl

end Spelling

theorem exists_settleWithin_eq (root : FileTree) (workingFolder : Place) (budget : Nat) :
    ∃ follow, root.settleWithin workingFolder budget = root.settleWith workingFolder follow := by
  cases budget <;> exact ⟨_, rfl⟩

section

variable {root : FileTree} {workingFolder : Place}

namespace MetLinks

variable {met : MetLinks} {links : Nat} {place there : Place}

theorem AreKnown.cons_none (known : met.AreKnown root) (link : Spelling) :
    MetLinks.AreKnown root ((link, none) :: met) := by
  intro other found isFound
  rw [List.lookup_cons] at isFound
  split at isFound
  · cases isFound
  · exact known other found isFound

theorem AreKnown.cons_some (known : met.AreKnown root) (leads : root.LinkLeads links place there) :
    MetLinks.AreKnown root ((.ofPlace place, some (.ofPlace there)) :: met) := by
  intro other found isFound
  rw [List.lookup_cons] at isFound
  split at isFound
  · next same =>
      cases isFound
      obtain rfl := Spelling.ofPlace_inj.mp (eq_of_beq same)
      exact ⟨links, there, rfl, leads⟩
  · exact known other found isFound

theorem AreBehind.mono (behind : met.AreBehind root links) {fewer : Nat} (le : fewer ≤ links) :
    met.AreBehind root fewer := by
  intro other isOpen
  obtain ⟨more, there, enough, leads⟩ := behind other isOpen
  exact ⟨more, there, le.trans enough, leads⟩

theorem AreBehind.cons_none (behind : met.AreBehind root links)
    (leads : root.LinkLeads links place there) :
    MetLinks.AreBehind root links ((.ofPlace place, none) :: met) := by
  intro other isOpen
  rw [List.lookup_cons] at isOpen
  split at isOpen
  · next same =>
      obtain rfl := Spelling.ofPlace_inj.mp (eq_of_beq same)
      exact ⟨links, there, le_rfl, leads⟩
  · exact behind other isOpen

theorem AreBehind.of_lookup (behind : met.AreBehind root links) {after : MetLinks}
    (opens : ∀ spelling, after.lookup spelling = some none → met.lookup spelling = some none) :
    after.AreBehind root links :=
  fun other isOpen => behind other (opens _ isOpen)

/-- A link that has been followed to its end is open no more. -/
theorem lookup_of_cons_some {link : Spelling} (found : Spelling) {after : MetLinks}
    (opens : ∀ spelling, after.lookup spelling = some none →
      List.lookup spelling ((link, none) :: met) = some none) (spelling : Spelling)
    (isOpen : List.lookup spelling ((link, some found) :: after) = some none) :
    met.lookup spelling = some none := by
  rw [List.lookup_cons] at isOpen
  split at isOpen
  · cases isOpen
  · next apart =>
      have earlier := opens spelling isOpen
      rwa [List.lookup_cons, apart] at earlier

end MetLinks

/--
Settling reaches the place to which the pieces lead, if links may be nested as
deeply as links are followed.  Afterwards no more links are being followed
than before.
-/
theorem settleWithin_of_leads (short : root.hasShortPaths [] = true) {links : Nat}
    {here there : Place} {pieces : List Text} (leads : root.Leads links here pieces there)
    {budget : Nat} (enough : links ≤ budget) {met : MetLinks} (known : met.AreKnown root)
    (behind : met.AreBehind root links) :
    ∃ after, root.settleWithin workingFolder budget met (.ofPlace here) pieces =
        (.reached (.ofPlace there), after) ∧
      after.AreKnown root ∧
      ∀ spelling, after.lookup spelling = some none → met.lookup spelling = some none := by
  obtain ⟨follow, isFollow⟩ := root.exists_settleWithin_eq workingFolder budget
  induction leads generalizing budget met follow with
  | arrived here =>
      rw [isFollow]
      exact ⟨met, rfl, known, fun _ isOpen => isOpen⟩
  | stay stays goesOn ih =>
      obtain ⟨after, reaches, rest⟩ := ih enough known behind follow isFollow
      rw [isFollow] at reaches ⊢
      rw [settleWith, if_pos stays, reaches]
      exact ⟨after, rfl, rest⟩
  | up goesOn ih =>
      obtain ⟨after, reaches, rest⟩ := ih enough known behind follow isFollow
      rw [isFollow] at reaches ⊢
      rw [settleWith, if_neg (by decide), if_pos rfl, Spelling.up_ofPlace, reaches]
      exact ⟨after, rfl, rest⟩
  | down named stands noLink goesOn ih =>
      obtain ⟨after, reaches, rest⟩ := ih enough known behind follow isFollow
      have free := linkTarget?_ofPlace_eq_none workingFolder stands (.inl noLink)
      rw [isFollow] at reaches ⊢
      rw [settleWith_cons named.no_null (by rwa [Spelling.step_of_isName named]),
        Spelling.step_of_isName named]
      exact ⟨after, reaches, rest⟩
  | @link links more here middle there name target rest named stands follows goesOn ihFollows ih =>
      have leads : root.LinkLeads links (here ++ [name]) middle :=
        ⟨here, name, target, rfl, stands, follows⟩
      have isLink : root.linkTarget? workingFolder ((Spelling.ofPlace here).down name) =
          some target :=
        linkTarget?_ofPlace_eq_some workingFolder stands (isTooLong_of_hasShortPaths short stands)
      cases isMet : met.lookup ((Spelling.ofPlace here).down name) with
      | some found? =>
          cases found? with
          | none =>
              -- The link is met inside itself, where fewer links are left than in front of it.
              obtain ⟨others, elsewhere, least, other⟩ := behind _ isMet
              obtain ⟨rfl, -⟩ := leads.unique other
              omega
          | some found =>
              obtain ⟨others, elsewhere, rfl, other⟩ := known _ _ isMet
              obtain ⟨-, rfl⟩ := leads.unique other
              obtain ⟨after, reaches, rest⟩ :=
                ih (by omega) known (behind.mono (by omega)) follow isFollow
              rw [isFollow] at reaches ⊢
              rw [settleWith_known named isLink isMet]
              exact ⟨after, reaches, rest⟩
      | none =>
          -- The target is settled first, one level deeper and with the link open, and what is
          -- left of the path after it, with the link known.
          obtain ⟨less, rfl⟩ : ∃ less, budget = less + 1 := ⟨budget - 1, by omega⟩
          obtain ⟨inner, isInner⟩ := root.exists_settleWithin_eq workingFolder less
          obtain ⟨found, reachesMiddle, foundKnown, opens⟩ :=
            ihFollows (show links ≤ less by omega) (known.cons_none _)
              ((behind.mono (by omega)).cons_none leads) inner isInner
          have closed := MetLinks.lookup_of_cons_some (.ofPlace middle) opens
          obtain ⟨after, reaches, afterKnown, afterOpens⟩ :=
            ih (show more ≤ less + 1 by omega) (foundKnown.cons_some leads)
              ((behind.mono (by omega)).of_lookup closed) follow isFollow
          rw [← Spelling.targetStart_ofPlace] at reachesMiddle
          refine ⟨after, ?_, afterKnown, fun spelling isOpen => ?_⟩
          · exact (settleWith_reached named isLink isMet reachesMiddle rest).trans reaches
          · exact closed spelling (afterOpens spelling isOpen)

/-! ## Resolving where a walk arrives -/

variable (proper : root.isProper = true)

include proper

/-- A walk along names that is not led astray takes names of entries only. -/
theorem isName_of_walk {place there : Place} (arrives : root.walk place = .ok there)
    (leads : ∀ name ∈ place, name ≠ Path.self ∧ name ≠ Path.parent) :
    ∀ name ∈ place, Path.IsName name := by
  intro name member
  obtain ⟨noneEmpty, links, -, leadsOn⟩ := leadsWithin_of_walkWithin proper maxLinks arrives
  obtain ⟨notSelf, notParent⟩ := leads name member
  refine leadsOn.isName_of_mem member ?_ notParent
  rw [Bool.or_eq_false_iff, List.isEmpty_eq_false_iff, beq_eq_false_iff_ne]
  exact ⟨fun empty => noneEmpty (empty ▸ member), notSelf⟩

/-- The path of a location settles on the place where a walk to the location arrives. -/
theorem settle_path_of_walk (short : root.hasShortPaths [] = true) {location : Location}
    {there : Place} (arrives : root.walk location.place = .ok there)
    (leads : ∀ name ∈ location.place, name ≠ Path.self ∧ name ≠ Path.parent) :
    root.settle workingFolder location.path = .reached (.ofPlace there) := by
  obtain ⟨-, links, enough, leadsOn⟩ := leadsWithin_of_walkWithin proper maxLinks arrives
  have enoughNested : links ≤ maxNestedLinks := enough.trans (by decide)
  have noneKnown : MetLinks.AreKnown root [] := fun _ _ isMet => nomatch isMet
  have noneBehind : MetLinks.AreBehind root links [] := fun _ isMet => nomatch isMet
  obtain ⟨after, reaches, -⟩ : ∃ after,
      root.settleWithin workingFolder maxNestedLinks [] (.ofPlace []) location.place =
        (.reached (.ofPlace there), after) ∧ _ :=
    settleWithin_of_leads short leadsOn enoughNested noneKnown noneBehind
  rw [settle, Path.components_location (isName_of_walk proper arrives leads), Spelling.startOf,
    Path.isAbsolute_location, if_pos rfl]
  exact congrArg Prod.fst reaches

end

end FileTree

end SnippetSearch
