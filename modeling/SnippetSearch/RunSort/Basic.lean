import SnippetSearch.RunSort.Merge

/-!
# Sorting by runs

A list is cut into runs that are in order already, or in strictly falling
order and are turned round.  A run that is too short takes in the elements
after it, one by one.  Neighbouring runs are merged, and a depth tells which
of them first, so that merges stay balanced.  For an order that compares all
elements the result is the stable one; here it is also settled what becomes
of elements that cannot be compared.
-/

namespace SnippetSearch

namespace RunSort

variable {α : Type}

/-! ## Runs -/

/-- The elements that go on rising or falling after a given one, and the others. -/
def spanRun (goesOn : α → α → Bool) (last : α) : List α → List α × List α
  | [] => ([], [])
  | next :: rest =>
      if goesOn last next then
        let (run, others) := spanRun goesOn next rest
        (next :: run, others)
      else
        ([], next :: rest)

/-- The first run of a list, in order, and what follows it. -/
def spanFirst (precedes : α → α → Bool) : List α → List α × List α
  | [] => ([], [])
  | [element] => ([element], [])
  | first :: second :: rest =>
      if precedes second first then
        let (run, others) := spanRun (fun last next => precedes next last) second rest
        ((first :: second :: run).reverse, others)
      else
        let (run, others) := spanRun (fun last next => !precedes next last) second rest
        (first :: second :: run, others)

/-- A run that has taken in one more element, after all that need not follow it. -/
def insert (precedes : α → α → Bool) (run : List α) (element : α) : List α :=
  let place :=
    halve (fun index => (run[index]?).any fun other => !precedes element other) 0 run.length
  run.take place ++ element :: run.drop place

/-- The least length of runs among so many elements, and whether bits below have been dropped. -/
def leastRun (count : Nat) (dropped : Bool) : Nat :=
  if count < 64 then
    count + (if dropped then 1 else 0)
  else
    leastRun (count / 2) (dropped || count % 2 == 1)

/-- The runs of a list, none of them shorter than told except perhaps the last. -/
def runsWithin (precedes : α → α → Bool) (least : Nat) : Nat → List α → List (List α)
  | _, [] => []
  | 0, element :: rest => [element :: rest]
  | count + 1, element :: rest =>
      let (run, others) := spanFirst precedes (element :: rest)
      let missing := least - run.length
      (others.take missing).foldl (insert precedes) run ::
        runsWithin precedes least count (others.drop missing)

/-! ## The order of merges -/

/--
How deep the border between two neighbouring runs lies: the number of halvings
of the whole after which their middles lie in different parts.  The middles
are given doubled, so that they are whole numbers.
-/
def depthWithin (whole : Nat) : Nat → Nat → Nat → Nat
  | 0, _, _ => 0
  | halvings + 1, left, right =>
      if whole ≤ left then depthWithin whole halvings (2 * (left - whole)) (2 * (right - whole)) + 1
      else if whole ≤ right then 1
      else depthWithin whole halvings (2 * left) (2 * right) + 1

def depth (start leftLength rightLength whole : Nat) : Nat :=
  let left := 2 * start + leftLength
  depthWithin whole (whole + 1) left (left + leftLength + rightLength)

/-- A run that waits to be merged, where it starts, and the depth of the border behind it. -/
structure Waiting (α : Type) where
  run : List α
  start : Nat
  depth : Nat

/-- The waiting runs, the last one first, and the patience of merges. -/
structure Pile (α : Type) where
  waiting : List (Waiting α)
  patience : Nat

/-- The run that two neighbouring waiting runs make, and the patience afterwards. -/
def Waiting.join (precedes : α → α → Bool) (left right : Waiting α) (patience : Nat) :
    Waiting α × Nat :=
  let (run, after) := mergeRuns precedes left.run right.run patience
  ({ left with run }, after)

/-- The last waiting runs merged as long as the border between them lies deeper than told. -/
def mergeDeeper (precedes : α → α → Bool) (limit : Nat) : List (Waiting α) → Nat → Pile α
  | last :: before :: others, patience =>
      if limit < before.depth then
        let (joined, after) := before.join precedes last patience
        mergeDeeper precedes limit (joined :: others) after
      else
        ⟨last :: before :: others, patience⟩
  | waiting, patience => ⟨waiting, patience⟩
termination_by waiting => waiting.length

def Pile.push (precedes : α → α → Bool) (whole : Nat) (pile : Pile α) (run : List α) : Pile α :=
  match pile.waiting with
  | [] => ⟨[⟨run, 0, 0⟩], pile.patience⟩
  | last :: _ =>
      let border := RunSort.depth last.start last.run.length run.length whole
      let new : Waiting α := ⟨run, last.start + last.run.length, 0⟩
      let merged := mergeDeeper precedes border pile.waiting pile.patience
      match merged.waiting with
      | [] => ⟨[new], merged.patience⟩
      | top :: others => ⟨new :: { top with depth := border } :: others, merged.patience⟩

/-- All waiting runs merged; of three runs the shorter outer one is merged with the middle one. -/
def mergeAll (precedes : α → α → Bool) : List (Waiting α) → Nat → List α
  | [], _ => []
  | [only], _ => only.run
  | [last, first], patience => (first.join precedes last patience).1.run
  | last :: middle :: first :: others, patience =>
      if first.run.length < last.run.length then
        let (joined, after) := first.join precedes middle patience
        mergeAll precedes (last :: joined :: others) after
      else
        let (joined, after) := middle.join precedes last patience
        mergeAll precedes (joined :: first :: others) after
termination_by waiting => waiting.length

def sort (precedes : α → α → Bool) (elements : List α) : List α :=
  let whole := elements.length
  let runs := runsWithin precedes (leastRun whole false) whole elements
  let pile := runs.foldl (Pile.push precedes whole) ⟨[], worthLeaping⟩
  mergeAll precedes pile.waiting pile.patience

/-! ## Nothing is lost -/

theorem append_spanRun (goesOn : α → α → Bool) (last : α) (elements : List α) :
    (spanRun goesOn last elements).1 ++ (spanRun goesOn last elements).2 = elements := by
  induction elements generalizing last with
  | nil => rfl
  | cons next rest ih =>
      unfold spanRun
      split
      · simp [ih]
      · rfl

theorem perm_spanFirst (precedes : α → α → Bool) (elements : List α) :
    ((spanFirst precedes elements).1 ++ (spanFirst precedes elements).2).Perm elements := by
  unfold spanFirst
  split
  · exact List.Perm.refl _
  · exact List.Perm.refl _
  · next first second rest =>
      have kept (goesOn : α → α → Bool) := append_spanRun goesOn second rest
      split
      · refine ((List.reverse_perm _).append_right _).trans ?_
        simp [kept]
      · simp [kept]

theorem perm_insertInRun (precedes : α → α → Bool) (run : List α) (element : α) :
    (insert precedes run element).Perm (element :: run) := by
  unfold insert
  dsimp only
  generalize halve _ 0 run.length = place
  have moved : (run.take place ++ element :: run.drop place).Perm
      (element :: (run.take place ++ run.drop place)) := List.perm_middle
  rwa [List.take_append_drop] at moved

theorem perm_foldl_insert (precedes : α → α → Bool) (elements run : List α) :
    (elements.foldl (insert precedes) run).Perm (run ++ elements) := by
  induction elements generalizing run with
  | nil => simp
  | cons element rest ih =>
      refine (ih (insert precedes run element)).trans ?_
      refine ((perm_insertInRun precedes run element).append_right rest).trans ?_
      exact List.perm_middle.symm

theorem perm_runsWithin (precedes : α → α → Bool) (least count : Nat) (elements : List α) :
    (runsWithin precedes least count elements).flatten.Perm elements := by
  induction count generalizing elements with
  | zero => cases elements <;> simp [runsWithin]
  | succ count ih =>
      cases elements with
      | nil => simp [runsWithin]
      | cons element rest =>
          simp only [runsWithin, List.flatten_cons]
          refine (((perm_foldl_insert precedes _ _).append (ih _))).trans ?_
          rw [List.append_assoc, List.take_append_drop]
          exact perm_spanFirst precedes (element :: rest)

def Waiting.elements (waiting : List (Waiting α)) : List α :=
  (waiting.reverse.map Waiting.run).flatten

theorem perm_join (precedes : α → α → Bool) (left right : Waiting α) (patience : Nat) :
    (left.join precedes right patience).1.run.Perm (left.run ++ right.run) :=
  perm_mergeRuns precedes left.run right.run patience

theorem perm_mergeDeeper (precedes : α → α → Bool) (limit : Nat) (waiting : List (Waiting α))
    (patience : Nat) :
    (Waiting.elements (mergeDeeper precedes limit waiting patience).waiting).Perm
      (Waiting.elements waiting) := by
  fun_induction mergeDeeper precedes limit waiting patience with
  | case1 last before others patience deeper joined after eq ih =>
      refine ih.trans ?_
      have joint := perm_join precedes before last patience
      rw [eq] at joint
      simpa [Waiting.elements] using joint.append_left (others.reverse.map Waiting.run).flatten
  | case2 => exact List.Perm.refl _
  | case3 => exact List.Perm.refl _

theorem perm_push (precedes : α → α → Bool) (whole : Nat) (pile : Pile α) (run : List α) :
    (Waiting.elements (pile.push precedes whole run).waiting).Perm
      (Waiting.elements pile.waiting ++ run) := by
  unfold Pile.push
  split
  · next none => simp [none, Waiting.elements]
  · next last others some =>
      dsimp only
      have merged := perm_mergeDeeper precedes
        (RunSort.depth last.start last.run.length run.length whole) pile.waiting pile.patience
      split
      · next nothing =>
          rw [nothing] at merged
          simpa [Waiting.elements] using merged.append_right run
      · next top rest found =>
          rw [found] at merged
          simpa [Waiting.elements] using merged.append_right run

theorem perm_mergeAll (precedes : α → α → Bool) (waiting : List (Waiting α)) (patience : Nat) :
    (mergeAll precedes waiting patience).Perm (Waiting.elements waiting) := by
  fun_induction mergeAll precedes waiting patience with
  | case1 => exact List.Perm.refl _
  | case2 => simp [Waiting.elements]
  | case3 last first patience =>
      simpa [Waiting.elements] using perm_join precedes first last patience
  | case4 last middle first others patience shorter joined after eq ih =>
      refine ih.trans ?_
      have joint := perm_join precedes first middle patience
      rw [eq] at joint
      simpa [Waiting.elements] using
        (joint.append_left (others.reverse.map Waiting.run).flatten).append_right last.run
  | case5 last middle first others patience shorter joined after eq ih =>
      refine ih.trans ?_
      have joint := perm_join precedes middle last patience
      rw [eq] at joint
      simpa [Waiting.elements] using
        joint.append_left ((others.reverse.map Waiting.run).flatten ++ first.run)

theorem perm_pushAll (precedes : α → α → Bool) (whole : Nat) (runs : List (List α))
    (pile : Pile α) :
    (Waiting.elements (runs.foldl (Pile.push precedes whole) pile).waiting).Perm
      (Waiting.elements pile.waiting ++ runs.flatten) := by
  induction runs generalizing pile with
  | nil => simp
  | cons run rest ih =>
      refine (ih (pile.push precedes whole run)).trans ?_
      simpa using (perm_push precedes whole pile run).append_right rest.flatten

/-- Sorting by runs loses nothing and adds nothing. -/
theorem perm_sortByRuns (precedes : α → α → Bool) (elements : List α) :
    (sort precedes elements).Perm elements := by
  unfold sort
  dsimp only
  refine (perm_mergeAll precedes _ _).trans ((perm_pushAll precedes _ _ _).trans ?_)
  simpa [Waiting.elements] using perm_runsWithin precedes _ _ elements

end RunSort

end SnippetSearch
