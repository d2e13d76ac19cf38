import Mathlib.Data.List.Sigma
import SnippetSearch.Proofs.Ranking.ScoreOrder
import SnippetSearch.Proofs.Ranking.Scores
import SnippetSearch.Proofs.Sorting.Order

/-!
# The best items

The scored items are arranged by falling score, and items with equal scores by
their places in the list that they come from.  There is one such arrangement as
long as all scores are numbers, and a ranking is its beginning: no item that is
left out has a higher score than one that is kept, nor an equal score and an
earlier place.
-/

namespace SnippetSearch

namespace Ranking

variable {α : Type}

/-- A scored item with its place in the list that it comes from. -/
abbrev PlacedEntry (α : Type) := (α × Float) × Nat

/-- Whether an entry has a higher score than another, or an equal one and an earlier place. -/
def Outranks (first second : PlacedEntry α) : Prop :=
  second.1.2 < first.1.2 ∨ ((first.1.2 == second.1.2) = true ∧ first.2 < second.2)

/-- Whether entries with their places are arranged by falling score, then by place. -/
structure IsArrangement (entries : List (α × Float)) (arrangement : List (PlacedEntry α)) :
    Prop where
  perm : arrangement.Perm entries.zipIdx
  ordered : arrangement.Pairwise Outranks

/-! ## Ranks as standings -/

/-- Whether an entry stands higher than another, or as high with an earlier place. -/
def StandsBefore (first second : PlacedEntry α) : Prop :=
  Standing.ofScore second.1.2 < Standing.ofScore first.1.2 ∨
    (Standing.ofScore first.1.2 = Standing.ofScore second.1.2 ∧ first.2 < second.2)

theorem StandsBefore.trans {first second third : PlacedEntry α}
    (earlier : StandsBefore first second) (later : StandsBefore second third) :
    StandsBefore first third := by
  rcases earlier with higher | ⟨level, sooner⟩ <;> rcases later with higher' | ⟨level', sooner'⟩
  · exact .inl (higher'.trans higher)
  · exact .inl (level' ▸ higher)
  · exact .inl (level ▸ higher')
  · exact .inr ⟨level.trans level', sooner.trans sooner'⟩

instance : IsTrans (PlacedEntry α) StandsBefore :=
  ⟨fun _ _ _ => StandsBefore.trans⟩

theorem StandsBefore.asymm {first second : PlacedEntry α} (before : StandsBefore first second) :
    ¬ StandsBefore second first := by
  rintro (higher' | ⟨level', sooner'⟩) <;> rcases before with higher | ⟨level, sooner⟩
  · exact higher.asymm higher'
  · exact higher'.ne level
  · exact higher.ne level'
  · exact sooner.asymm sooner'

theorem outranks_iff {first second : PlacedEntry α} (firstNumber : first.1.2.isNaN = false)
    (secondNumber : second.1.2.isNaN = false) :
    Outranks first second ↔ StandsBefore first second := by
  rw [Outranks, StandsBefore, Standing.lt_iff secondNumber firstNumber,
    Standing.beq_iff firstNumber secondNumber]

/-! ## The arrangement -/

section

variable {entries : List (α × Float)}

theorem zipIdx_pairwise (entries : List (α × Float)) :
    entries.zipIdx.Pairwise fun first second => first.2 < second.2 := by
  have places : (entries.zipIdx.map Prod.snd).Pairwise (· < ·) := by
    rw [List.zipIdx_map_snd]
    exact List.pairwise_lt_range'
  exact List.pairwise_map.mp places

variable (numbers : ∀ entry ∈ entries, entry.2.isNaN = false)

include numbers

theorem isNaN_of_mem_zipIdx {placed : PlacedEntry α} (member : placed ∈ entries.zipIdx) :
    placed.1.2.isNaN = false :=
  numbers placed.1 (List.fst_mem_of_mem_zipIdx member)

/-- An arrangement stands in order, and a list of the same entries in this order is one. -/
theorem isArrangement_iff {arrangement : List (PlacedEntry α)} :
    IsArrangement entries arrangement ↔
      arrangement.Perm entries.zipIdx ∧ arrangement.Pairwise StandsBefore := by
  have number {placed : PlacedEntry α} (perm : arrangement.Perm entries.zipIdx)
      (member : placed ∈ arrangement) : placed.1.2.isNaN = false :=
    isNaN_of_mem_zipIdx numbers (perm.mem_iff.mp member)
  constructor
  · rintro ⟨perm, ordered⟩
    refine ⟨perm, ordered.imp_of_mem ?_⟩
    intro first second isFirst isSecond outranks
    exact (outranks_iff (number perm isFirst) (number perm isSecond)).mp outranks
  · rintro ⟨perm, ordered⟩
    refine ⟨perm, ordered.imp_of_mem ?_⟩
    intro first second isFirst isSecond before
    exact (outranks_iff (number perm isFirst) (number perm isSecond)).mpr before

/-- There is only one arrangement of entries. -/
theorem IsArrangement.unique {left right : List (PlacedEntry α)}
    (isLeft : IsArrangement entries left) (isRight : IsArrangement entries right) :
    left = right := by
  obtain ⟨leftPerm, leftOrdered⟩ := (isArrangement_iff numbers).mp isLeft
  obtain ⟨rightPerm, rightOrdered⟩ := (isArrangement_iff numbers).mp isRight
  refine List.Perm.eq_of_pairwise ?_ leftOrdered rightOrdered (leftPerm.trans rightPerm.symm)
  intro first second _ _ before after
  exact absurd after before.asymm

/-- Whether an entry has to come before another, judged by their scores alone. -/
def scoresHigher (earlier later : α × Float) : Bool :=
  decide (later.2 < earlier.2)

def sortPlaced (entries : List (α × Float)) : List (PlacedEntry α) :=
  StableSort.sort (fun earlier later => scoresHigher earlier.1 later.1) entries.zipIdx

theorem isArrangement_sortPlaced :
    IsArrangement entries (sortPlaced entries) := by
  have agree : entries.zipIdx.Pairwise
      (StableSort.Agrees (fun earlier later => scoresHigher earlier.1 later.1) StandsBefore) := by
    refine (zipIdx_pairwise entries).imp_of_mem ?_
    intro entry later isEntry isLater sooner
    have compared := Standing.lt_iff (isNaN_of_mem_zipIdx numbers isEntry)
      (isNaN_of_mem_zipIdx numbers isLater)
    rw [StableSort.Agrees]
    split
    · next higher => exact .inl (compared.mp (of_decide_eq_true higher))
    · next notHigher =>
        have notAbove := fun above => notHigher (decide_eq_true (compared.mpr above))
        rcases (not_lt.mp notAbove).lt_or_eq with lower | level
        · exact .inl lower
        · exact .inr ⟨level.symm, sooner⟩
  exact (isArrangement_iff numbers).mpr ⟨StableSort.perm_sort _ _,
    StableSort.pairwise_sort StandsBefore agree⟩

/-- The sorted entries are the arranged ones without their places. -/
theorem sort_eq_map_of_isArrangement {arrangement : List (PlacedEntry α)}
    (arranged : IsArrangement entries arrangement) : sort entries = arrangement.map Prod.fst := by
  have comparable : areComparable entries = true := by
    refine List.all_eq_true.mpr fun entry member => ?_
    rw [numbers entry member]
    rfl
  have sorted := StableSort.map_sort Prod.fst scoresHigher entries.zipIdx
  rw [List.zipIdx_map_fst] at sorted
  rw [sort, if_pos comparable, ← (isArrangement_sortPlaced numbers).unique numbers arranged]
  exact sorted.symm

end

section

variable {entries : List (α × Float)} {arrangement : List (PlacedEntry α)}

namespace IsArrangement

/--
What is kept of an arrangement has no lower score than what is left out, and an
earlier place where the scores are equal.
-/
theorem keeps_best (arranged : IsArrangement entries arrangement)
    (numbers : ∀ entry ∈ entries, entry.2.isNaN = false) (count : Nat)
    {kept left : PlacedEntry α} (isKept : kept ∈ arrangement.take count)
    (isLeft : left ∈ arrangement.drop count) :
    ¬ kept.1.2 < left.1.2 ∧ ((kept.1.2 == left.1.2) = true → kept.2 < left.2) := by
  have keptNumber := isNaN_of_mem_zipIdx numbers
    (arranged.perm.mem_iff.mp (List.mem_of_mem_take isKept))
  have leftNumber := isNaN_of_mem_zipIdx numbers
    (arranged.perm.mem_iff.mp (List.mem_of_mem_drop isLeft))
  have ordered := ((isArrangement_iff numbers).mp arranged).2
  rw [← List.take_append_drop count arrangement, List.pairwise_append] at ordered
  have before : StandsBefore kept left := ordered.2.2 kept isKept left isLeft
  rw [Standing.lt_iff keptNumber leftNumber, Standing.beq_iff keptNumber leftNumber]
  rcases before with higher | ⟨level, sooner⟩
  · exact ⟨higher.asymm, fun level => absurd level higher.ne'⟩
  · exact ⟨level.not_lt, fun _ => sooner⟩

theorem nodup_places (arranged : IsArrangement entries arrangement) (count : Nat) :
    ((arrangement.take count).map Prod.snd).Nodup := by
  have all : (arrangement.map Prod.snd).Nodup :=
    (arranged.perm.map Prod.snd).nodup_iff.mpr (List.nodup_zipIdx_map_snd entries)
  exact all.sublist ((List.take_sublist count arrangement).map Prod.snd)

theorem length_take (arranged : IsArrangement entries arrangement) (count : Nat) :
    (arrangement.take count).length = min count entries.length := by
  rw [List.length_take, arranged.perm.length_eq, List.length_zipIdx]

end IsArrangement

end

/-! ## Ranking -/

variable (embedding : α → Embedding) (query : Embedding)

/-- The items with their similarities to the query, whatever the lengths of their vectors are. -/
def scored (items : List α) : List (α × Float) :=
  items.map fun item => (item, query.similarity (embedding item))

/-- Sorted by score, the items are still the same. -/
theorem perm_map_fst_sort_scored (items : List α) :
    ((sort (scored embedding query items)).map Prod.fst).Perm items := by
  have unscored : (scored embedding query items).map Prod.fst = items := by
    rw [scored, List.map_map]
    exact List.map_id items
  have sorted := (perm_sort_entries (scored embedding query items)).map Prod.fst
  rwa [unscored] at sorted

variable {embedding query} {items : List α} {limit : Int}

theorem top_of_nothing (nothing : limit ≤ 0 ∨ items = []) :
    top embedding items query limit = .ok [] := by
  have idle : (decide (limit ≤ 0) || items.isEmpty) = true := by
    rw [Bool.or_eq_true, decide_eq_true_iff, List.isEmpty_iff]
    exact nothing
  rw [top, if_pos idle]

theorem top_of_agree (positive : 0 < limit) (nonempty : items ≠ [])
    (agree : ∀ item ∈ items, (embedding item).length = query.length) :
    top embedding items query limit =
      .ok ((sort (scored embedding query items)).take limit.toNat) := by
  have busy : ¬ (decide (limit ≤ 0) || items.isEmpty) = true := by
    rw [Bool.or_eq_true, decide_eq_true_iff, List.isEmpty_iff]
    exact not_or.mpr ⟨Int.not_le.mpr positive, nonempty⟩
  rw [top, if_neg busy, score_eq, find?_mismatches_of_agree agree]
  rfl

theorem exists_error_iff (positive : 0 < limit) (nonempty : items ≠ []) :
    (∃ mismatch, top embedding items query limit = .error mismatch) ↔
      ∃ item ∈ items, (embedding item).length ≠ query.length := by
  constructor
  · rintro ⟨mismatch, failed⟩
    by_contra agree
    push Not at agree
    rw [top_of_agree positive nonempty agree] at failed
    cases failed
  · rintro ⟨item, member, differs⟩
    have found : (items.find? (mismatches embedding query)).isSome :=
      List.find?_isSome.mpr ⟨item, member, decide_eq_true differs.symm⟩
    obtain ⟨first, isFirst⟩ := Option.isSome_iff_exists.mp found
    exact ⟨_, top_of_mismatch positive isFirst⟩

theorem eq_take_of_top_eq (positive : 0 < limit) (nonempty : items ≠ [])
    {ranked : List (α × Float)} (ranks : top embedding items query limit = .ok ranked) :
    ranked = (sort (scored embedding query items)).take limit.toNat := by
  have agree : ∀ item ∈ items, (embedding item).length = query.length := by
    by_contra differ
    push Not at differ
    obtain ⟨mismatch, failed⟩ := (exists_error_iff positive nonempty).mpr differ
    rw [failed] at ranks
    cases ranks
  rw [top_of_agree positive nonempty agree] at ranks
  exact (Except.ok.inj ranks).symm

theorem top_of_first_mismatch (positive : 0 < limit) {earlier later : List α} {item : α}
    (agree : ∀ other ∈ earlier, (embedding other).length = query.length)
    (differs : (embedding item).length ≠ query.length) :
    top embedding (earlier ++ item :: later) query limit =
      .error ⟨query.length, (embedding item).length⟩ := by
  have itemDiffers : mismatches embedding query item = true := decide_eq_true differs.symm
  apply top_of_mismatch positive
  rw [List.find?_append, find?_mismatches_of_agree agree, Option.none_or,
    List.find?_cons_of_pos itemDiffers]

/-- Scored items that agree with the query in length have their similarities as scores. -/
theorem cosine_of_mem_scored (agree : ∀ item ∈ items, (embedding item).length = query.length)
    {entry : α × Float} (member : entry ∈ scored embedding query items) :
    Embedding.cosine query (embedding entry.1) = .ok entry.2 := by
  obtain ⟨item, isItem, rfl⟩ := List.mem_map.mp member
  exact Embedding.cosine_of_length_eq (agree item isItem).symm

/--
A ranking is empty where no item is wanted or there is none.  Otherwise it
fails if a vector differs in length from the query, be the item wanted or not,
and the first of these items tells both lengths.  Otherwise, as long as all
scores are numbers, it is the beginning of the only arrangement of the scored
items by falling score and, among equal scores, by place: no place is used
twice, and nothing that is left out has a higher score than what is kept, nor
an equal one and an earlier place.
-/
theorem top_is_stable_selection (embedding : α → Embedding) (items : List α) (query : Embedding)
    (limit : Int) :
    (limit ≤ 0 ∨ items = [] → top embedding items query limit = .ok []) ∧
      (0 < limit → items ≠ [] →
        ((∃ mismatch, top embedding items query limit = .error mismatch) ↔
          ∃ item ∈ items, (embedding item).length ≠ query.length) ∧
        (∀ earlier item later, items = earlier ++ item :: later →
          (∀ other ∈ earlier, (embedding other).length = query.length) →
          (embedding item).length ≠ query.length →
          top embedding items query limit = .error ⟨query.length, (embedding item).length⟩) ∧
        ((∀ item ∈ items, (embedding item).length = query.length) →
          ∃ entries : List (α × Float), entries.map Prod.fst = items ∧
            (∀ entry ∈ entries, Embedding.cosine query (embedding entry.1) = .ok entry.2) ∧
            ((∀ entry ∈ entries, entry.2.isNaN = false) →
              ∃ arrangement, IsArrangement entries arrangement ∧
                (∀ other, IsArrangement entries other → other = arrangement) ∧
                top embedding items query limit =
                  .ok ((arrangement.take limit.toNat).map Prod.fst) ∧
                (arrangement.take limit.toNat).length = min limit.toNat items.length ∧
                ((arrangement.take limit.toNat).map Prod.snd).Nodup ∧
                ∀ kept ∈ arrangement.take limit.toNat, ∀ left ∈ arrangement.drop limit.toNat,
                  ¬ kept.1.2 < left.1.2 ∧
                    ((kept.1.2 == left.1.2) = true → kept.2 < left.2)))) := by
  refine ⟨top_of_nothing, fun positive nonempty =>
    ⟨exists_error_iff positive nonempty, ?_, fun agree => ?_⟩⟩
  · rintro earlier item later rfl
    exact top_of_first_mismatch positive
  · have items_eq : (scored embedding query items).map Prod.fst = items := by
      rw [scored, List.map_map]
      exact List.map_id items
    refine ⟨_, items_eq, fun entry => cosine_of_mem_scored agree, fun numbers => ?_⟩
    have arranged := isArrangement_sortPlaced numbers
    refine ⟨_, arranged, fun other isOther => isOther.unique numbers arranged, ?_, ?_,
      arranged.nodup_places _, fun kept isKept left isLeft =>
        arranged.keeps_best numbers _ isKept isLeft⟩
    · rw [top_of_agree positive nonempty agree, sort_eq_map_of_isArrangement numbers arranged,
        List.map_take]
    · rw [arranged.length_take, scored, List.length_map]

end Ranking

end SnippetSearch
