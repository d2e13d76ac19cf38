import SnippetSearch.Similarity
import SnippetSearch.Text.Loose

/-!
# Embedding requests

A service turns texts into vectors, one text for each request.  It may fail,
or answer with nothing that could be used as a vector; both are errors of the
request alone.
-/

namespace SnippetSearch

/-- What a vector is wanted for. -/
inductive EmbeddingTask where
  | document
  | query
deriving Repr, DecidableEq

def EmbeddingTask.name : EmbeddingTask → Text
  | .document => "RETRIEVAL_DOCUMENT".toList
  | .query => "RETRIEVAL_QUERY".toList

structure EmbeddingRequest where
  model : Text
  text : LooseText
  task : EmbeddingTask
  dimension : Nat
deriving Repr, DecidableEq

inductive EmbeddingReply where
  | failure (message : Text)
  | withoutEmbeddings
  | emptyEmbeddings
  | withoutValues
  | values (vector : Embedding)
deriving Repr

inductive EmbeddingError where
  | notConfigured
  | callFailed (reason : Text)
  | emptyVector
deriving Repr, DecidableEq

def EmbeddingError.message : EmbeddingError → Text
  | .notConfigured => "Embedding provider is not configured.".toList
  | .callFailed reason => "Embedding call failed: ".toList ++ reason
  | .emptyVector => "Embedding provider returned an empty vector.".toList

def EmbeddingReply.vector : EmbeddingReply → Except EmbeddingError Embedding
  | .failure message => .error (.callFailed message)
  | .withoutEmbeddings => .error (.callFailed "'NoneType' object is not subscriptable".toList)
  | .emptyEmbeddings => .error (.callFailed "list index out of range".toList)
  | .withoutValues => .error (.callFailed "'NoneType' object is not iterable".toList)
  | .values [] => .error .emptyVector
  | .values (first :: rest) => .ok (first :: rest)

/-- A service that answers every request in the same way each time. -/
structure EmbeddingService where
  starts : Bool
  reply : EmbeddingRequest → EmbeddingReply

end SnippetSearch
