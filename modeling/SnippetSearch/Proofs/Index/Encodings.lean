import SnippetSearch.Proofs.Index.FixedFiles
import SnippetSearch.Proofs.Index.History
import SnippetSearch.Proofs.Text.Encoding
import SnippetSearch.Scope

/-!
# Encodings of files

How a text is written to a file shows neither in what is stored for the file
nor in the scopes of its lines: both follow from the text alone.
-/

namespace SnippetSearch

variable {σ : Type}

theorem Machine.readText?_of_written {machine : Machine} {path text : Text}
    (plain : '\r' ∉ text) (unmarked : text.head? ≠ some Text.markCharacter)
    {encoding : Text.FileEncoding} (short : Path.isTooLong (Path.tidy path) = false)
    (written : machine.tree.bytes? (Path.steps machine.workingFolder path) =
      some (encoding.bytes text)) :
    machine.readText? path = some text := by
  rw [Machine.readText?, short, if_neg Bool.false_ne_true, written]
  exact Text.ofFileBytes?_bytes plain unmarked encoding

namespace Indexer

variable {indexer : Indexer} {read other : Text → Option Text}
  {reply : EmbeddingRequest → EmbeddingReply} {list otherList : FolderCatalog → List Text}
  {index : SnippetIndex} {path : Text}

/-- What a visit comes to depends on the file that it reads, and on no other file. -/
theorem read_congr (available : indexer.provider.available = true) (same : read path = other path)
    (index : SnippetIndex) :
    indexer.read (.fixed read reply list) index path () =
      indexer.read (.fixed other reply otherList) index path () := by
  rw [Indexer.read, Indexer.read]
  dsimp only [Surroundings.fixed]
  rw [same]
  cases other path with
  | none => rfl
  | some content =>
      exact congrArg (fun done => (Visit.indexed path content done.1, done.2))
        ((attemptAll_fixed available _).trans (attemptAll_fixed available _).symm)

/-- Indexing one path depends on the file at that path, and on no other file. -/
theorem run_singleton_congr (same : read path = other path) (index : SnippetIndex) :
    (indexer.run (.fixed read reply list) index [path] ()).1 =
      (indexer.run (.fixed other reply otherList) index [path] ()).1 := by
  by_cases available : indexer.provider.available = true
  · have visited : indexer.read (.fixed read reply list) index path () =
        indexer.read (.fixed other reply otherList) index path () :=
      read_congr available same index
    simp only [run, if_pos available, visitAll, visited]
  · simp only [run, if_neg available]

/-- Indexing a new file stores its snippets and counts what came of its wanted chunks. -/
theorem run_singleton (available : indexer.provider.available = true)
    (sound : index.HoldsIndexedOnly) (unknown : index.isIndexed path = false)
    (kept : indexer.filter.ignores path = false) (clean : Path.hasNull path = false)
    {content : Text} (given : read path = some content) :
    let run := (indexer.run (.fixed read reply list) index [path] ()).1
    run.index.snippets = index.snippets ++ indexer.fileSnippets reply path content ∧
    run.summary =
      { indexedFiles := 1
        skippedFiles := 0
        snippetsWritten := (indexer.fileSnippets reply path content).length
        failedChunks := (indexer.chunking.wantedChunks content).countP fun chunk =>
          (indexer.attempt reply chunk).failed } := by
  have unread : path ∉ index.indexedPaths := fun member =>
    Bool.eq_false_iff.mp unknown ((index.isIndexed_iff_mem path).mpr member)
  have visited : indexer.read (.fixed read reply list) index path () =
      (indexer.fileVisit reply path content, ()) := by
    rw [read_fixed available sound unread, given]
  have went := visitAll_cons_of_read (Bool.eq_false_iff.mp unknown) (Bool.eq_false_iff.mp kept)
    (Bool.eq_false_iff.mp clean) (.fixed read reply list) [] visited
  rw [run, if_pos available, went]
  constructor
  · exact congrArg (index.snippets ++ ·) (indexer.snippets_fileVisit reply path content)
  · change IndexingSummary.ofVisits [indexer.fileVisit reply path content] = _
    rw [IndexingSummary.ofVisits, List.flatMap_singleton, List.flatMap_singleton,
      indexer.snippets_fileVisit]
    dsimp only [Visit.attempts, fileVisit]
    rw [List.countP_map]
    rfl

end Indexer

/--
How a text without carriage returns is written to a file leaves no trace, if it does not
start with the character of the mark.  With line feeds, carriage returns or both, with a
mark or without: the scope of every line is the one that the lines of the text give.  An
index takes in the file as it takes in the text; if it has not read the file before, what
is stored are the snippets of the wanted chunks of the text, and these are counted.
-/
theorem encoding_leaves_no_trace {text : Text} (plain : '\r' ∉ text)
    (unmarked : text.head? ≠ some Text.markCharacter) (encoding : Text.FileEncoding)
    (machine : Machine) {path : Text} (clean : Path.hasNull path = false)
    (short : Path.isTooLong (Path.tidy path) = false)
    (written : machine.tree.bytes? (Path.steps machine.workingFolder path) =
      some (encoding.bytes text))
    (indexer : Indexer) (service : EmbeddingService) (around : Surroundings σ) (state : σ)
    (operations : List (IndexOperation σ)) :
    (∀ lineNumber : Int, Scope.ofFile (machine.readText? path) lineNumber =
      Scope.ofLines text.lines lineNumber) ∧
    let reached := (operations.foldl (indexer.perform around) (.empty, state)).1
    let run := (indexer.run (.ofMachine machine service) reached [path] ()).1
    run = (indexer.run (.fixed (fun _ => some text) service.reply fun _ => []) reached
      [path] ()).1 ∧
    (indexer.provider.available = true → indexer.filter.ignores path = false →
      reached.isIndexed path = false →
      run.index.snippets =
        reached.snippets ++ indexer.fileSnippets service.reply path text ∧
      run.summary =
        { indexedFiles := 1
          skippedFiles := 0
          snippetsWritten := (indexer.fileSnippets service.reply path text).length
          failedChunks := (indexer.chunking.wantedChunks text).countP fun chunk =>
            (indexer.attempt service.reply chunk).failed }) := by
  have given : machine.readText? path = some text :=
    machine.readText?_of_written plain unmarked short written
  refine ⟨fun lineNumber => ?_, ?_⟩
  · rw [given]
    rfl
  · intro reached run
    refine ⟨Indexer.run_singleton_congr given reached, fun available kept unknown => ?_⟩
    have sound := indexer.holdsIndexedOnly_of_operations around state operations
    exact Indexer.run_singleton available sound unknown kept clean given

def twoClassText : Text :=
  "namespace N\nclass A \x7b \x7d\nclass B \x7b \x7d".toList

def markedPairs : Text.FileEncoding := ⟨.both, true⟩

/-- A machine with one file, to which the text is written. -/
def twoClassMachine : Machine where
  tree := .folder [("n.cs".toList, .file (markedPairs.bytes twoClassText))]
  workingFolder := []
  environment := .empty
  accountHomes := []

def standardIndexer : Indexer where
  provider := ⟨Provider.defaultModel, 768, true, by decide⟩
  chunking := .standard
  filter := .withStandard []

def constantService : EmbeddingService := ⟨true, fun _ => .values [1]⟩

set_option maxRecDepth 20000 in
/--
In the marked file with two characters at the end of each line, the third line lies in the
namespace and after the first class, and two ranges of lines are stored.
-/
theorem encoding_leaves_no_trace_markedPairs :
    markedPairs.bytes twoClassText ≠ Text.toUtf8 twoClassText ∧
      Scope.ofFile (twoClassMachine.readText? "n.cs".toList) 3 = "N.A".toList ∧
      (standardIndexer.run (.ofMachine twoClassMachine constantService) .empty ["n.cs".toList]
        ()).1.summary = ⟨1, 0, 2, 0⟩ := by
  have plain : '\r' ∉ twoClassText := by decide
  have unmarked : twoClassText.head? ≠ some Text.markCharacter := by decide
  have clean : Path.hasNull "n.cs".toList = false := by decide
  obtain ⟨scope, _, stored⟩ := encoding_leaves_no_trace plain unmarked markedPairs
    twoClassMachine clean (by decide) rfl standardIndexer constantService
    (.ofMachine twoClassMachine constantService) () []
  refine ⟨by decide, (scope 3).trans (by decide), ?_⟩
  refine (stored rfl (by decide +kernel) rfl).2.trans ?_
  decide +kernel

end SnippetSearch
