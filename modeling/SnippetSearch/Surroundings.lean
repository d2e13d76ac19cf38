import SnippetSearch.Catalog
import SnippetSearch.Provider

/-!
# Surroundings

While an index or an engine works it reads files, asks the embedding service
and lists catalogs.  Surroundings answer these three questions from a state
that may change with every question, so that nothing is assumed about files
or services staying as they were.  Fixed surroundings are those of a machine
on which nothing changes.
-/

namespace SnippetSearch

/-- Answers to the questions that the search asks, with the state after each of them. -/
structure Surroundings (σ : Type) where
  /-- The text of the file at a path without null characters, if it can be read. -/
  read : Text → σ → Option Text × σ
  /-- The answer to a request for a vector. -/
  reply : EmbeddingRequest → σ → EmbeddingReply × σ
  /-- The paths of the source files below the folder of a catalog. -/
  list : FolderCatalog → σ → List Text × σ

namespace Surroundings

variable {σ : Type}

/-- Surroundings in which no question changes anything. -/
def fixed (read : Text → Option Text) (reply : EmbeddingRequest → EmbeddingReply)
    (list : FolderCatalog → List Text) : Surroundings Unit where
  read path state := (read path, state)
  reply request state := (reply request, state)
  list catalog state := (list catalog, state)

/-- The surroundings that a machine and a service make while nothing changes. -/
def ofMachine (machine : Machine) (service : EmbeddingService) : Surroundings Unit :=
  fixed machine.readText? service.reply fun catalog => catalog.paths machine.tree

def embed (around : Surroundings σ) (provider : Provider) (task : EmbeddingTask)
    (text : LooseText) (state : σ) : Except EmbeddingError Embedding × σ :=
  if provider.available then
    let (reply, after) := around.reply (provider.request task text) state
    (reply.vector, after)
  else
    (.error .notConfigured, state)

def paths (around : Surroundings σ) (catalog : Catalog) (state : σ) : List Text × σ :=
  match catalog with
  | .fixed paths => (paths, state)
  | .folder catalog => around.list catalog state

end Surroundings

end SnippetSearch
