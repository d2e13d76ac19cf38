import SnippetSearch.Machine

/-!
# Failed setups

A setting may be refused, a path may lead nowhere, and a folder may be missing.
The wording of a refusal tells the numbers that are refused.  If one of them has
too many digits to be written, it is the wording that fails.
-/

namespace SnippetSearch

def ConfigurationError.numbers : ConfigurationError → List Int
  | .notAnInteger .. | .folderNotFound _ => []
  | .sizeNotPositive size => [size]
  | .overlapOutOfRange size overlap => [size, overlap]
  | .dimensionNotPositive dimension => [dimension]

/-- Why settings or a provider cannot be made, or a folder cannot be searched. -/
inductive SetupError where
  | configuration (error : ConfigurationError)
  | numeralTooLong
  | resolution (error : PathError)
  | noSuchFolder (path : Text)
deriving Repr, DecidableEq

namespace SetupError

/-- What a refusal comes to: it is told, unless its wording fails. -/
def ofRefusal (error : ConfigurationError) : SetupError :=
  if error.numbers.all Text.isWritable then .configuration error else .numeralTooLong

def message : SetupError → Text
  | .configuration error => error.message
  | .numeralTooLong =>
      "Exceeds the limit (".toList ++ Text.ofNat Text.maxDigits ++
        (" digits) for integer string conversion; " ++
          "use sys.set_int_max_str_digits() to increase the limit").toList
  | .resolution error => error.message
  | .noSuchFolder path => "No such directory: ".toList ++ path

end SetupError

end SnippetSearch
