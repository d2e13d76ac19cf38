import SnippetSearch.RunSort.Search

/-!
# Merging neighbouring runs

Two neighbouring runs are merged into one.  What is in place already is found
first and left alone; the rest is merged from the end at which the shorter run
lies.  Elements are taken one by one until one run has given so many in a row
that it pays to search for the next place by leaps; how many that takes is the
patience, which grows and shrinks with the success of leaping.
-/

namespace SnippetSearch

namespace RunSort

variable {α : Type}

/--
A merge under way: what has been taken, the newest first, and what is left of
the run that is kept aside and of the other one, the next element first.
-/
structure Merge (α : Type) where
  taken : List α
  aside : List α
  other : List α
  patience : Nat

/-- Which elements are merged first: those that come first, or those that come last. -/
inductive Direction where
  | upwards
  | downwards
deriving Repr, DecidableEq

inductive Pace where
  | single (asideInRow otherInRow : Nat)
  | leaping (again : Bool)
deriving Repr, DecidableEq

def worthLeaping : Nat := 7

namespace Merge

/-- Whether nothing is left to compare; the last element aside goes last. -/
def isOver (merge : Merge α) : Bool :=
  match merge.aside, merge.other with
  | [], _ | [_], _ | _, [] => true
  | _, _ => false

def takeAside (count : Nat) (merge : Merge α) : Merge α :=
  { merge with
    taken := (merge.aside.take count).reverse ++ merge.taken
    aside := merge.aside.drop count }

def takeOther (count : Nat) (merge : Merge α) : Merge α :=
  { merge with
    taken := (merge.other.take count).reverse ++ merge.taken
    other := merge.other.drop count }

/-- A further step, unless the merge is over. -/
def continued (step : Merge α → Merge α) (merge : Merge α) : Merge α :=
  if merge.isOver then merge else step merge

/-- All elements, in the order in which they have been and are going to be taken. -/
def all (merge : Merge α) : List α :=
  merge.taken.reverse ++ (merge.other ++ merge.aside)

end Merge

/-- How many elements at the start go before one that they are judged against, found by leaps. -/
def leadingCount (direction : Direction) (goesBefore : α → Bool) (elements : List α) : Nat :=
  let count := elements.length
  match direction with
  | .upwards => leap (fun index => (elements[index]?).any goesBefore) count 0
  | .downwards =>
      count - leap (fun index => !(elements[count - 1 - index]?).any goesBefore) count (count - 1)

def otherFirst (precedes : α → α → Bool) (direction : Direction) (other aside : α) : Bool :=
  match direction with
  | .upwards => precedes other aside
  | .downwards => precedes aside other

def asideCount (precedes : α → α → Bool) (direction : Direction) (merge : Merge α) : Nat :=
  match merge.other with
  | [] => 0
  | other :: _ =>
      leadingCount direction (fun aside => !otherFirst precedes direction other aside) merge.aside

def otherCount (precedes : α → α → Bool) (direction : Direction) (merge : Merge α) : Nat :=
  match merge.aside with
  | [] => 0
  | aside :: _ =>
      leadingCount direction (fun other => otherFirst precedes direction other aside) merge.other

def leapAside (precedes : α → α → Bool) (direction : Direction) (merge : Merge α) :
    Merge α × Nat :=
  let count := asideCount precedes direction merge
  ((merge.takeAside count).continued (Merge.takeOther 1), count)

def leapOther (precedes : α → α → Bool) (direction : Direction) (merge : Merge α) :
    Merge α × Nat :=
  let count := otherCount precedes direction merge
  ((merge.takeOther count).continued (Merge.takeAside 1), count)

/-- A leap in each run, unless the first of them ends the merge, and whether one was worth it. -/
def leapBoth (precedes : α → α → Bool) (direction : Direction) (merge : Merge α) :
    Merge α × Bool :=
  let (firstLeap, secondLeap) :=
    match direction with
    | .upwards => (leapAside precedes direction, leapOther precedes direction)
    | .downwards => (leapOther precedes direction, leapAside precedes direction)
  let (between, first) := firstLeap merge
  if between.isOver then
    (between, false)
  else
    let (after, second) := secondLeap between
    (after, worthLeaping ≤ first || worthLeaping ≤ second)

/-- Goes on with a merge at some pace; every round takes at least one element. -/
def mergeWithin (precedes : α → α → Bool) (direction : Direction) :
    Nat → Pace → Merge α → Merge α
  | 0, _, merge => merge
  | rounds + 1, pace, merge =>
      match merge.aside, merge.other with
      | [], _ | [_], _ | _, [] => merge
      | aside :: _, other :: _ =>
          match pace with
          | .single asideInRow otherInRow =>
              if otherFirst precedes direction other aside then
                mergeWithin precedes direction rounds
                  (if merge.patience ≤ otherInRow + 1 then .leaping false
                   else .single 0 (otherInRow + 1))
                  (merge.takeOther 1)
              else
                mergeWithin precedes direction rounds
                  (if merge.patience ≤ asideInRow + 1 then .leaping false
                   else .single (asideInRow + 1) 0)
                  (merge.takeAside 1)
          | .leaping again =>
              let patience := if again then max 1 (merge.patience - 1) else merge.patience
              let (after, worth) := leapBoth precedes direction { merge with patience }
              if after.isOver then after
              else if worth then mergeWithin precedes direction rounds (.leaping true) after
              else
                mergeWithin precedes direction rounds (.single 0 0)
                  { after with patience := after.patience + 1 }

def mergeFrom (precedes : α → α → Bool) (direction : Direction) (aside other : List α)
    (patience : Nat) : List α × Nat :=
  let start : Merge α := ({ taken := [], aside, other, patience } : Merge α).takeOther 1
  let merge :=
    mergeWithin precedes direction (aside.length + other.length) (.single 0 0) start
  (merge.all, merge.patience)

def settledCount (precedes : α → α → Bool) (left right : List α) : Nat :=
  match right with
  | [] => left.length
  | next :: _ =>
      leap (fun index => (left[index]?).any fun element => !precedes next element) left.length 0

/-- How many elements at the start of the right run are not in place behind an element. -/
def unsettledCount (precedes : α → α → Bool) (last : α) (right : List α) : Nat :=
  leap (fun index => (right[index]?).any fun element => precedes element last)
    right.length (right.length - 1)

/-- The run that two neighbouring runs make, and the patience afterwards. -/
def mergeRuns (precedes : α → α → Bool) (left right : List α) (patience : Nat) :
    List α × Nat :=
  let settled := settledCount precedes left right
  let front := left.take settled
  let aside := left.drop settled
  match aside.getLast? with
  | none => (left ++ right, patience)
  | some last =>
      let count := unsettledCount precedes last right
      let other := right.take count
      let back := right.drop count
      if other.isEmpty then
        (left ++ right, patience)
      else if aside.length ≤ other.length then
        let (middle, after) := mergeFrom precedes .upwards aside other patience
        (front ++ middle ++ back, after)
      else
        let (middle, after) := mergeFrom precedes .downwards other.reverse aside.reverse patience
        (front ++ middle.reverse ++ back, after)

/-! ## Nothing is lost -/

namespace Merge

theorem all_takeOther (count : Nat) (merge : Merge α) :
    (merge.takeOther count).all = merge.all := by
  have whole : merge.other.take count ++ (merge.other.drop count ++ merge.aside) =
      merge.other ++ merge.aside := by
    rw [← List.append_assoc, List.take_append_drop]
  simp [all, takeOther, whole]

theorem perm_takeAside (count : Nat) (merge : Merge α) :
    (merge.takeAside count).all.Perm merge.all := by
  have swap : (merge.aside.take count ++ (merge.other ++ merge.aside.drop count)).Perm
      (merge.other ++ merge.aside) := by
    have apart : merge.aside = merge.aside.take count ++ merge.aside.drop count :=
      (List.take_append_drop count merge.aside).symm
    conv => rhs; rw [apart]
    have swapped : (merge.aside.take count ++ merge.other).Perm
        (merge.other ++ merge.aside.take count) := List.perm_append_comm
    simpa [List.append_assoc] using swapped.append_right (merge.aside.drop count)
  simpa [all, takeAside] using swap.append_left merge.taken.reverse

theorem perm_continued {step : Merge α → Merge α}
    (perm_step : ∀ merge, (step merge).all.Perm merge.all) (merge : Merge α) :
    (merge.continued step).all.Perm merge.all := by
  unfold continued
  split
  · exact List.Perm.refl _
  · exact perm_step merge

end Merge

theorem perm_leapAside (precedes : α → α → Bool) (direction : Direction) (merge : Merge α) :
    (leapAside precedes direction merge).1.all.Perm merge.all :=
  (Merge.perm_continued (fun merge => by rw [Merge.all_takeOther]) _).trans
    (Merge.perm_takeAside _ merge)

theorem perm_leapOther (precedes : α → α → Bool) (direction : Direction) (merge : Merge α) :
    (leapOther precedes direction merge).1.all.Perm merge.all :=
  (Merge.perm_continued (Merge.perm_takeAside 1) _).trans (by rw [Merge.all_takeOther])

theorem perm_leapBoth (precedes : α → α → Bool) (direction : Direction) (merge : Merge α) :
    (leapBoth precedes direction merge).1.all.Perm merge.all := by
  cases direction with
  | upwards =>
      simp only [leapBoth]
      split
      · exact perm_leapAside precedes .upwards merge
      · exact (perm_leapOther precedes .upwards _).trans (perm_leapAside precedes .upwards merge)
  | downwards =>
      simp only [leapBoth]
      split
      · exact perm_leapOther precedes .downwards merge
      · exact (perm_leapAside precedes .downwards _).trans
          (perm_leapOther precedes .downwards merge)

theorem perm_mergeWithin (precedes : α → α → Bool) (direction : Direction) (rounds : Nat)
    (pace : Pace) (merge : Merge α) :
    (mergeWithin precedes direction rounds pace merge).all.Perm merge.all := by
  induction rounds generalizing pace merge with
  | zero => exact List.Perm.refl _
  | succ rounds ih =>
      unfold mergeWithin
      split
      · exact List.Perm.refl _
      · exact List.Perm.refl _
      · exact List.Perm.refl _
      · split
        · split
          · exact (ih _ _).trans (by rw [Merge.all_takeOther])
          · exact (ih _ _).trans (Merge.perm_takeAside 1 merge)
        · next again =>
          dsimp only
          generalize (if again = true then max 1 (merge.patience - 1) else merge.patience) =
            patience
          have leapt := perm_leapBoth precedes direction { merge with patience }
          split
          · exact leapt
          · split
            · exact (ih _ _).trans leapt
            · exact (ih _ _).trans leapt

theorem perm_mergeFrom (precedes : α → α → Bool) (direction : Direction) (aside other : List α)
    (patience : Nat) :
    (mergeFrom precedes direction aside other patience).1.Perm (other ++ aside) := by
  unfold mergeFrom
  refine (perm_mergeWithin precedes direction _ _ _).trans ?_
  rw [Merge.all_takeOther]
  simp [Merge.all]

theorem perm_mergeRuns (precedes : α → α → Bool) (left right : List α) (patience : Nat) :
    (mergeRuns precedes left right patience).1.Perm (left ++ right) := by
  unfold mergeRuns
  dsimp only
  generalize settledCount precedes left right = settled
  split
  · exact List.Perm.refl _
  · next last _ =>
      generalize unsettledCount precedes last right = count
      have whole (middle : List α)
          (merged : middle.Perm (right.take count ++ left.drop settled)) :
          (left.take settled ++ middle ++ right.drop count).Perm (left ++ right) := by
        have swapped := merged.trans List.perm_append_comm
        have placed := (swapped.append_left (left.take settled)).append_right (right.drop count)
        have apart : left ++ right = left.take settled ++
            (left.drop settled ++ right.take count) ++ right.drop count := by
          simp only [List.append_assoc, List.take_append_drop]
          rw [← List.append_assoc, List.take_append_drop]
        rwa [apart]
      split
      · exact List.Perm.refl _
      · split
        · exact whole _ (perm_mergeFrom precedes .upwards _ _ patience)
        · refine whole _ ((List.reverse_perm _).trans ?_)
          refine (perm_mergeFrom precedes .downwards _ _ patience).trans ?_
          exact List.perm_append_comm.trans
            ((List.reverse_perm _).append (List.reverse_perm _))

end RunSort

end SnippetSearch
