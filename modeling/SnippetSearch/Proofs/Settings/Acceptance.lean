import SnippetSearch.Proofs.Catalog.Boundary
import SnippetSearch.Proofs.Engine.Setup
import SnippetSearch.Proofs.FileTree.Walking

/-!
# Engines of accepted settings

Settings that are accepted have been judged: the numbers are in range and the
folder exists.  An engine is made of them without judging the numbers again,
but its catalog follows the path of the folder a second time.  That leads to
the same place if no link is left on the path, which is so unless the first
time ran into a circle of links and left it by a step upwards.
-/

namespace SnippetSearch

namespace Settings

/-! ## Numbers -/

/--
Whether a number is the one that is set: the argument, else what a variable
says that is not blank, else the default.
-/
structure IsInForce (environment : Environment) (given? : Option Int) (name : Text)
    (default value : Int) : Prop where
  ofArgument : ∀ number, given? = some number → value = number
  ofVariable : given? = none → ∀ raw, environment.get? name = some raw →
    raw.isAllBlank = false → raw.integer? = some value
  ofDefault : given? = none → (∀ raw, environment.get? name = some raw → raw.isAllBlank = true) →
    value = default

theorem isInForce_of_integer {environment : Environment} {name : Text} {default value : Int}
    (found : environment.integer name default = .ok value) :
    IsInForce environment none name default value := by
  refine ⟨nofun, fun _ raw isSet visible => ?_, fun _ blank => ?_⟩
  · rw [Environment.integer, isSet] at found
    dsimp only at found
    rw [visible, if_neg Bool.false_ne_true] at found
    split at found
    · next number isNumber => rw [isNumber, Except.ok.inj found]
    · cases found
  · rw [Environment.integer] at found
    split at found
    · exact (Except.ok.inj found).symm
    · next raw isSet =>
        rw [blank raw isSet, if_pos rfl] at found
        exact (Except.ok.inj found).symm

theorem isInForce_of_findInteger {environment : Environment} {given? : Option Int} {name : Text}
    {default value : Int} (found : findInteger environment given? name default = .ok value) :
    IsInForce environment given? name default value := by
  cases given? with
  | some number =>
      refine ⟨fun other same => ?_, nofun, nofun⟩
      exact (Except.ok.inj found).symm.trans (Option.some.inj same)
  | none =>
      rw [findInteger] at found
      cases read : environment.integer name default with
      | error reason => rw [read] at found; cases found
      | ok number =>
          rw [read] at found
          obtain rfl := Except.ok.inj found
          exact isInForce_of_integer read

/-- A chunking is made of numbers that are in range, and it has these numbers. -/
theorem checkChunking_eq_ok {size overlap : Int} {chunking : Chunking}
    (accepted : checkChunking size overlap = .ok chunking) :
    0 ≤ overlap ∧ overlap < size ∧ (chunking.size : Int) = size ∧
      (chunking.overlap : Int) = overlap := by
  rw [checkChunking] at accepted
  split at accepted
  · cases accepted
  split at accepted
  · next inRange =>
      obtain rfl := Except.ok.inj accepted
      dsimp only
      omega
  · cases accepted

/-- Settings and the chunker accept the same numbers, and make the same chunking of them. -/
theorem toOption_checkChunking (size overlap : Int) :
    (checkChunking size overlap).toOption = (Chunking.ofInts size overlap).toOption := by
  rw [checkChunking, Chunking.ofInts]
  by_cases notPositive : size ≤ 0
  · rw [dif_pos notPositive, dif_pos notPositive]
    rfl
  rw [dif_neg notPositive, dif_neg notPositive]
  by_cases negative : overlap < 0
  · rw [dif_pos negative, dif_neg (by omega)]
    rfl
  rw [dif_neg negative]
  by_cases smaller : overlap < size
  · rw [dif_pos smaller, dif_pos ⟨by omega, smaller⟩]
    rfl
  · rw [dif_neg smaller, dif_neg (by omega)]
    rfl

/-- Settings fail for the numbers that the chunker refuses, in whatever way. -/
theorem checkChunking_fails_iff (size overlap : Int) :
    (∃ failure, checkChunking size overlap = .error failure) ↔
      ∃ refusal, Chunking.ofInts size overlap = .error refusal := by
  have same := toOption_checkChunking size overlap
  generalize checkChunking size overlap = judged at same ⊢
  generalize Chunking.ofInts size overlap = made at same ⊢
  cases judged with
  | error reason =>
      cases made with
      | error other => exact iff_of_true ⟨reason, rfl⟩ ⟨other, rfl⟩
      | ok chunking => cases same
  | ok chunking =>
      cases made with
      | error other => cases same
      | ok other => exact iff_of_false nofun nofun

/-- What is refused is told, unless a number in the wording has too many digits. -/
theorem ofRefusal_eq_configuration_iff {error : ConfigurationError} :
    (∃ refusal, SetupError.ofRefusal error = .configuration refusal) ↔
      error.numbers.all Text.isWritable = true := by
  rw [SetupError.ofRefusal]
  cases error.numbers.all Text.isWritable with
  | true => exact iff_of_true ⟨error, rfl⟩ rfl
  | false => exact iff_of_false nofun nofun

/--
Settings refuse the numbers that the chunker refuses, if the numbers in the
wording of the refusal have not too many digits: the size, and the overlap if
the size is in range.
-/
theorem checkChunking_refuses_iff (size overlap : Int) :
    (∃ refusal, checkChunking size overlap = .error (.configuration refusal)) ↔
      (∃ refusal, Chunking.ofInts size overlap = .error refusal) ∧ Text.isWritable size = true ∧
        (0 < size → Text.isWritable overlap = true) := by
  rw [← checkChunking_fails_iff, checkChunking]
  by_cases notPositive : size ≤ 0
  · rw [dif_pos notPositive]
    have noOverlap : 0 < size → Text.isWritable overlap = true :=
      fun positive => absurd positive (Int.not_lt.mpr notPositive)
    simp only [Except.error.injEq, ofRefusal_eq_configuration_iff, exists_eq', true_and,
      ConfigurationError.numbers, List.all_cons, List.all_nil, Bool.and_true]
    exact (and_iff_left noOverlap).symm
  have positive : 0 < size := Int.not_le.mp notPositive
  rw [dif_neg notPositive]
  by_cases inRange : 0 ≤ overlap ∧ overlap < size
  · rw [dif_pos inRange]
    exact iff_of_false nofun nofun
  · rw [dif_neg inRange]
    simp only [Except.error.injEq, ofRefusal_eq_configuration_iff, exists_eq', true_and,
      ConfigurationError.numbers, List.all_cons, List.all_nil, Bool.and_true, Bool.and_eq_true,
      positive, true_imp_iff]

theorem isWritable_neg_pow {zeros : Nat} (many : Text.maxDigits ≤ zeros) :
    Text.isWritable (-(Nat.pow 10 zeros : Nat)) = false := by
  rw [Text.isWritable, Int.natAbs_neg, Int.natAbs_natCast, decide_eq_false_iff_not, Text.ofNat,
    Nat.length_toDigits_le_iff (by decide) (by decide), Nat.not_lt]
  exact Nat.pow_le_pow_right (by decide) many

theorem ofInts_chunking (chunking : Chunking) :
    Chunking.ofInts chunking.size chunking.overlap = .ok chunking := by
  have smaller := chunking.overlap_lt_size
  rw [Chunking.ofInts, dif_neg (by omega), dif_neg (by omega), dif_pos (by omega)]
  rfl

/-- Accepted settings have a folder that exists, and numbers that were judged. -/
theorem exists_of_resolve {machine : Machine} {given : SettingsArguments} {settings : Settings}
    (accepted : resolve machine given = .ok settings) :
    ∃ size overlap, findBase machine given.baseFolder? = .ok settings.baseFolder ∧
      findInteger machine.environment given.chunkSize? Variable.chunkSize defaultChunkSize =
        .ok size ∧
      findInteger machine.environment given.chunkOverlap? Variable.chunkOverlap
        defaultChunkOverlap = .ok overlap ∧
      checkChunking size overlap = .ok settings.chunking := by
  rw [resolve] at accepted
  obtain ⟨baseFolder, isBase, accepted⟩ := exists_of_bind_eq_ok accepted
  obtain ⟨size, isSize, accepted⟩ := exists_of_bind_eq_ok accepted
  obtain ⟨overlap, isOverlap, accepted⟩ := exists_of_bind_eq_ok accepted
  obtain ⟨chunking, judged, accepted⟩ := exists_of_bind_eq_ok accepted
  obtain rfl := Except.ok.inj accepted
  refine ⟨size, overlap, isBase, isSize, isOverlap, ?_⟩
  cases check : checkChunking size overlap with
  | error reason => rw [check] at judged; cases judged
  | ok other =>
      rw [check] at judged
      rw [Except.ok.inj judged]

/-- The folder of accepted settings is the location of its path, and a folder is there. -/
theorem located_of_findBase {machine : Machine} {given? : Option Text} {location : Location}
    (found : findBase machine given? = .ok location) :
    machine.locate (basePath machine.environment given?) = .ok location ∧
      machine.hasFolder location = .ok true := by
  rw [findBase] at found
  split at found
  · cases found
  · next other located =>
      split at found
      · cases found
      · next has =>
          obtain rfl := Except.ok.inj found
          exact ⟨located, has⟩
      · cases found

end Settings

/-! ## Folders that are found a second time -/

section

variable {machine : Machine}

theorem Machine.locate_location (machine : Machine) (location : Location) :
    machine.locate location.path = machine.resolve location.path := by
  have rooted := Path.isAbsolute_location location
  rw [locate, Path.homeUser?, Path.expandHome?, rooted, if_pos rfl, if_pos rfl]
  rfl

theorem Machine.hasFolder_of_at? (proper : machine.tree.isProper = true) {place : Place}
    {entries : List (Text × FileTree)} (stands : machine.tree.at? place = some (.folder entries))
    (short : Path.isTooLong place.path = false) : machine.hasFolder ⟨place, false⟩ = .ok true := by
  have arrives := FileTree.walk_of_at? proper stands rfl
  have isShort : Path.isTooLong (Location.path ⟨place, false⟩) = false := short
  rw [hasFolder, isShort, if_neg Bool.false_ne_true]
  dsimp only
  rw [arrives, FileTree.leadsToFolder, FileTree.reach?, arrives]
  dsimp only
  rw [stands]
  rfl

def Engine.ofFolder (settings : Settings) (provider : Provider) (base : Location) : Engine where
  indexer :=
    { provider
      chunking := settings.chunking
      filter := .withStandard settings.ignorePatterns }
  catalog := .folder ⟨base, FolderCatalog.standardSuffixes.map Text.lower⟩
  index := .empty

theorem Engine.create_eq_ok {settings : Settings} {base : Location}
    (leads : machine.tree.resolve machine.workingFolder settings.baseFolder.path = .ok base)
    (has : machine.hasFolder base = .ok true) (provider : Provider) :
    create machine settings provider = .ok (ofFolder settings provider base) := by
  have located : machine.locate settings.baseFolder.path = .ok base := by
    rw [machine.locate_location, Machine.resolve, leads]
    rfl
  rw [create, FolderCatalog.ofPath, located]
  dsimp only
  rw [has]
  rfl

end

namespace Settings

/--
What accepted settings hold, and what is made of them.  Each number is the one in force,
whatever the other one is, and both are in range; the chunker refuses exactly the numbers
for which settings fail, so that it refuses none of theirs, and settings tell of the refusal
unless a number in its wording has too many digits.  If the folder is spelled with one
slash and no link stands on the way to it, every provider gets an engine over the same
folder.  In general it gets one over the folder where a walk arrives, provided that no path
is too long, and the two are the same in that case only.  That is the case whenever the path
of the folder settles without a circle of links and is not too long then.
-/
theorem accepted_settings_build_engine {machine : Machine}
    (proper : machine.tree.isProper = true) {entries : List (Text × FileTree)}
    (atWorkingFolder : machine.tree.at? machine.workingFolder = some (.folder entries))
    {given : SettingsArguments} {settings : Settings}
    (accepted : resolve machine given = .ok settings) :
    (∃ size overlap : Int,
      IsInForce machine.environment given.chunkSize? Variable.chunkSize defaultChunkSize size ∧
      IsInForce machine.environment given.chunkOverlap? Variable.chunkOverlap
        defaultChunkOverlap overlap ∧
      0 ≤ overlap ∧ overlap < size ∧ (settings.chunking.size : Int) = size ∧
      (settings.chunking.overlap : Int) = overlap) ∧
    (∀ size overlap : Int,
      ((∃ failure, checkChunking size overlap = .error failure) ↔
        ∃ refusal, Chunking.ofInts size overlap = .error refusal) ∧
      ((∃ refusal, checkChunking size overlap = .error (.configuration refusal)) ↔
        (∃ refusal, Chunking.ofInts size overlap = .error refusal) ∧
          Text.isWritable size = true ∧ (0 < size → Text.isWritable overlap = true))) ∧
    Chunking.ofInts settings.chunking.size settings.chunking.overlap = .ok settings.chunking ∧
    (machine.tree.IsUnlinked settings.baseFolder → ∀ provider,
      Engine.create machine settings provider =
        .ok (.ofFolder settings provider settings.baseFolder)) ∧
    (machine.tree.hasShortPaths [] = true → ∃ there,
      machine.tree.walk settings.baseFolder.place = .ok there ∧
      (∀ provider, Engine.create machine settings provider =
        .ok (.ofFolder settings provider ⟨there, false⟩)) ∧
      (settings.baseFolder = ⟨there, false⟩ ↔ machine.tree.IsUnlinked settings.baseFolder)) ∧
    ∀ expanded spelling,
      Path.expandHome? machine.homeOf (basePath machine.environment given.baseFolder?) =
        some expanded →
      machine.tree.settle machine.workingFolder expanded = .reached spelling →
      Path.isTooLong spelling.path = false →
        machine.tree.IsUnlinked settings.baseFolder := by
  obtain ⟨size, overlap, isBase, isSize, isOverlap, judged⟩ := exists_of_resolve accepted
  obtain ⟨located, has⟩ := located_of_findBase isBase
  obtain ⟨expanded, expands, leadsTo⟩ := Machine.exists_resolve_of_locate located
  have leads :=
    FileTree.leads_of_resolve (FileTree.leads_of_at? proper atWorkingFolder) leadsTo
  obtain ⟨there, others, arrives, stands⟩ :=
    FileTree.exists_walk_of_leadsToFolder (FolderCatalog.leadsToFolder_of_hasFolder has)
  have same_iff := FileTree.eq_iff_isUnlinked arrives leads stands rfl
  refine ⟨?numbers, ?refused, ofInts_chunking _, ?unlinked, ?general, ?settled⟩
  case numbers =>
    exact ⟨size, overlap, isInForce_of_findInteger isSize, isInForce_of_findInteger isOverlap,
      checkChunking_eq_ok judged⟩
  case refused =>
    intro size overlap
    exact ⟨checkChunking_fails_iff size overlap, checkChunking_refuses_iff size overlap⟩
  case unlinked =>
    intro unlinked
    have same := same_iff.mpr unlinked
    refine Engine.create_eq_ok ?_ has
    rw [same]
    exact FileTree.resolve_of_no_link proper _ stands (.inl rfl)
  case general =>
    intro short
    refine ⟨there, arrives, Engine.create_eq_ok ?_ ?_, same_iff⟩
    · rw [FileTree.resolve_eq_locateSettled,
        FileTree.settle_path_of_walk proper short arrives leads]
      exact FileTree.checkLocation_of_no_link proper stands (.inl rfl)
    · exact Machine.hasFolder_of_at? proper stands
        (FileTree.isTooLong_of_hasShortPaths short stands)
  case settled =>
    intro other spelling same settled short
    obtain rfl := Option.some.inj (expands.symm.trans same)
    exact FileTree.isUnlinked_of_resolve (FileTree.isLinkFree_of_at? atWorkingFolder rfl) leadsTo
      settled short

/-- A provider without a service. -/
def silentProvider : Provider := ⟨"model".toList, 2, false, by decide⟩

/-- A machine whose folder is searched through a link, beside a link that is a circle. -/
def circleMachine : Machine where
  tree := .folder
    [("target".toList, .folder [("a.cs".toList, .file [])]),
      ("real".toList, .link "target".toList),
      ("loop".toList, .link "loop".toList)]
  workingFolder := []
  environment := Environment.empty.set Variable.chunkOverlap (some " 7 ".toList)
  accountHomes := []

/-- Through the link alone the folder is found, and the engine is made over it. -/
theorem accepted_settings_build_engine_linked :
    circleMachine.tree.isProper = true ∧ circleMachine.tree.hasShortPaths [] = true ∧
      ∃ settings, resolve circleMachine
          { baseFolder? := some "real".toList, chunkSize? := some 8 } = .ok settings ∧
        settings.chunking = ⟨8, 7, by decide⟩ ∧ settings.baseFolder.path = "/target".toList ∧
        Engine.create circleMachine settings silentProvider =
          .ok (.ofFolder settings silentProvider settings.baseFolder) := by
  have proper : circleMachine.tree.isProper = true := by decide +kernel
  have accepted : resolve circleMachine
      { baseFolder? := some "real".toList, chunkSize? := some 8 } =
        .ok ⟨⟨["target".toList], false⟩, ⟨8, 7, by decide⟩, []⟩ := by rfl
  obtain ⟨-, -, -, builds, -, unlinked⟩ :=
    accepted_settings_build_engine proper rfl accepted
  have settled : circleMachine.tree.settle [] "real".toList =
      .reached ⟨false, 0, ["target".toList]⟩ := by decide +kernel
  exact ⟨proper, by decide +kernel, _, accepted, rfl, by decide,
    builds (unlinked _ _ rfl settled (by decide)) silentProvider⟩

/--
If the path leaves the circle by a step upwards, the engine is made over another
folder; and the refusal of a size of too many digits cannot be worded.
-/
theorem accepted_settings_build_engine_elsewhere :
    let given : SettingsArguments := { baseFolder? := some "loop/../real".toList }
    (resolve circleMachine given).map (fun settings => settings.baseFolder.path) =
        .ok "/real".toList ∧
      (resolve circleMachine given >>= fun settings =>
          Engine.create circleMachine settings silentProvider).map
        (fun engine => engine.catalog.basePath?) = .ok (some "/target".toList) ∧
      checkChunking (-(Nat.pow 10 Text.maxDigits : Nat)) 0 = .error .numeralTooLong ∧
      Chunking.ofInts (-(Nat.pow 10 Text.maxDigits : Nat)) 0 = .error .sizeNotPositive := by
  have notPositive : -((Nat.pow 10 Text.maxDigits : Nat) : Int) ≤ 0 :=
    Int.neg_nonpos_of_nonneg (Int.natCast_nonneg _)
  have tooLong := isWritable_neg_pow (Nat.le_refl Text.maxDigits)
  refine ⟨by decide +kernel, by decide +kernel, ?_, ?_⟩
  · rw [checkChunking, dif_pos notPositive, SetupError.ofRefusal, ConfigurationError.numbers,
      List.all_cons, tooLong, Bool.false_and, if_neg Bool.false_ne_true]
  · rw [Chunking.ofInts, dif_pos notPositive]

end Settings

end SnippetSearch
