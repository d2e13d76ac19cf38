import SnippetSearch.Environment
import SnippetSearch.Text.Integer
import SnippetSearch.Text.Quoted

/-!
# Configuration

The environment variables that configure the search, and the reasons for
which a configuration is refused.  An integer setting whose variable is unset
or blank has its default.
-/

namespace SnippetSearch

/-! ## The variables -/

namespace Variable

def baseFolder : Text := "CODESCOPE_BASE_DIR".toList

def chunkSize : Text := "CODESCOPE_CHUNK_SIZE".toList

def chunkOverlap : Text := "CODESCOPE_CHUNK_OVERLAP".toList

/-- The patterns of the files that are left out, separated by commas. -/
def ignorePatterns : Text := "CODESCOPE_IGNORE_PATTERNS".toList

def embeddingModel : Text := "CODESCOPE_EMBEDDING_MODEL".toList

def embeddingDimension : Text := "CODESCOPE_EMBEDDING_DIM".toList

def serviceKey : Text := "GOOGLE_API_KEY".toList

def home : Text := "HOME".toList

end Variable

/-! ## Refusals -/

inductive ConfigurationError where
  | notAnInteger (name raw : Text)
  | folderNotFound (path : Text)
  | sizeNotPositive (size : Int)
  | overlapOutOfRange (size overlap : Int)
  | dimensionNotPositive (dimension : Int)
deriving Repr, DecidableEq

def ConfigurationError.message : ConfigurationError → Text
  | .notAnInteger name raw => name ++ " must be an integer, got ".toList ++ raw.quoted
  | .folderNotFound path => "Directory not found: ".toList ++ path
  | .sizeNotPositive size =>
      Variable.chunkSize ++ " must be > 0, got ".toList ++ Text.ofInt size
  | .overlapOutOfRange size overlap =>
      Variable.chunkOverlap ++ " must be >= 0 and smaller than ".toList ++ Variable.chunkSize ++
        " (".toList ++ Text.ofInt size ++ "), got ".toList ++ Text.ofInt overlap
  | .dimensionNotPositive dimension =>
      Variable.embeddingDimension ++ " must be > 0, got ".toList ++ Text.ofInt dimension

namespace Environment

/-- The integer that a variable is set to, or the default if it is unset or blank. -/
def integer (environment : Environment) (name : Text) (default : Int) :
    Except ConfigurationError Int :=
  match environment.get? name with
  | none => .ok default
  | some raw =>
      if raw.isAllBlank then
        .ok default
      else
        match raw.integer? with
        | some value => .ok value
        | none => .error (.notAnInteger name raw)

end Environment

end SnippetSearch
