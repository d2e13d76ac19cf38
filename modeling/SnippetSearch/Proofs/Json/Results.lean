import SnippetSearch.Proofs.Json.Floats
import SnippetSearch.Proofs.Json.RoundTrip
import SnippetSearch.SearchResult

/-!
# Results that are read back

The fields of a result are found under their names in the object that it makes,
and give the result again if its score is a number.  So the results that an
array was made of can be told from the array.
-/

namespace SnippetSearch

namespace SearchResult

/-! ## Results as values -/

def textField? (name : String) (value : Json) : Option Text :=
  (value.field? name.toList).bind Json.text?

def numberField? (name : String) (value : Json) : Option Json.Number :=
  match value.field? name.toList with
  | some (.number number) => some number
  | _ => none

def integerField? (name : String) (value : Json) : Option Int :=
  match numberField? name value with
  | some (.integer number) => some number
  | _ => none

def ofJson? (value : Json) : Option SearchResult := do
  let filePath ← textField? "filePath" value
  let startLine ← integerField? "startLine" value
  let endLine ← integerField? "endLine" value
  let content ← textField? "content" value
  let score ← numberField? "score" value
  let parentScope ← textField? "parentScope" value
  return { filePath, startLine, endLine, content, score := score.toFloat, parentScope }

def listOfJson? : Json → Option (List SearchResult)
  | .array items => items.mapM ofJson?
  | _ => none

/-- A result is told from its object, whatever its texts are, if its score is a number. -/
theorem ofJson?_json {result : SearchResult} (finite : Decimal.isFinite result.score = true) :
    ofJson? result.json = some result := by
  have isPath : textField? "filePath" result.json = some result.filePath :=
    LooseText.text?_ofText result.filePath
  have isStart : integerField? "startLine" result.json = some result.startLine := rfl
  have isEnd : integerField? "endLine" result.json = some result.endLine := rfl
  have isContent : textField? "content" result.json = some result.content :=
    LooseText.text?_ofText result.content
  have isScore : numberField? "score" result.json = some (.ofFloat result.score) := rfl
  have isScope : textField? "parentScope" result.json = some result.parentScope :=
    LooseText.text?_ofText result.parentScope
  rw [ofJson?, isPath, isStart, isEnd, isContent, isScore, isScope]
  simp only [Option.bind_eq_bind, Option.bind_some, Json.Number.toFloat_ofFloat finite]
  rfl

/-- Results are told from their array if all scores are numbers. -/
theorem listOfJson?_jsonArray {results : List SearchResult}
    (finite : results.all (fun result => Decimal.isFinite result.score) = true) :
    listOfJson? (jsonArray results) = some results := by
  rw [jsonArray, listOfJson?]
  induction results with
  | nil => rfl
  | cons result rest ih =>
      obtain ⟨isFinite, areFinite⟩ := Bool.and_eq_true_iff.mp finite
      rw [List.map_cons, List.mapM_cons, ofJson?_json isFinite, ih areFinite]
      rfl

/-- Quotes, a backslash, a line break, a control character and a character of two halves. -/
example :
    (json
      { filePath := "a\"b.cs".toList, startLine := 1, endLine := 2
        content := ['\\', '\n', '\x01', '😀'], score := 0, parentScope := [] }).compact =
      ("\x7b\"filePath\":\"a\\\"b.cs\",\"startLine\":1,\"endLine\":2," ++
        "\"content\":\"\\\\\\n\\u0001\\ud83d\\ude00\"," ++
        "\"score\":0.0,\"parentScope\":\"\"\x7d").toList := by
  decide +kernel

/-! ## Results as text -/

/-- Whether the line numbers of a result have so many digits at most. -/
def fits (maxDigits : Nat) (result : SearchResult) : Bool :=
  (Json.Number.integer result.startLine).fits maxDigits &&
    (Json.Number.integer result.endLine).fits maxDigits

theorem fits_ofUnits (maxDigits : Nat) (negative : Bool) (units : Nat) (exponent : Int) :
    (Json.Number.ofUnits negative units exponent).fits maxDigits = true := by
  unfold Json.Number.ofUnits
  split <;> rfl

/-- A score is no integer, so that it may have any number of digits. -/
theorem fits_ofFloat (maxDigits : Nat) (number : Float) :
    (Json.Number.ofFloat number).fits maxDigits = true := by
  unfold Json.Number.ofFloat
  split
  · rfl
  · rfl
  · next negative mantissa exponent _ =>
      dsimp only
      split
      · rfl
      · cases isFound : Json.Number.shortest? number negative mantissa exponent with
        | none => rfl
        | some found =>
            obtain ⟨count, -, isFound⟩ := List.exists_of_findSome?_eq_some isFound
            obtain ⟨units, -, rfl⟩ := List.mem_map.mp (List.mem_of_find?_eq_some isFound)
            exact fits_ofUnits maxDigits negative units _

theorem fits_jsonArray {maxDigits levels : Nat} {results : List SearchResult}
    (room : 2 ≤ levels) (fit : ∀ result ∈ results, result.fits maxDigits = true) :
    Json.fits maxDigits levels (jsonArray results) = true := by
  obtain ⟨below, rfl⟩ := Nat.exists_eq_add_of_le' room
  rw [jsonArray, Json.fits, Json.itemsFit_eq_all, List.all_map]
  refine List.all_eq_true.mpr fun result member => ?_
  obtain ⟨start, finish⟩ := Bool.and_eq_true_iff.mp (fit result member)
  rw [Function.comp_apply, json, Json.fits_record]
  simp [Json.ofInt, fits_ofFloat, start, finish]

end SearchResult

end SnippetSearch
