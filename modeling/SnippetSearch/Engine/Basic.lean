import SnippetSearch.Index.Run

/-!
# Search engines

An engine owns an index and knows how files are indexed and which catalog
they come from.  A new engine has an empty index.
-/

namespace SnippetSearch

/-- A catalog, the way its files are indexed, and what has been indexed of them. -/
structure Engine where
  indexer : Indexer
  catalog : Catalog
  index : SnippetIndex

namespace Engine

def isAvailable (engine : Engine) : Bool :=
  engine.indexer.provider.available

/-- The engine with nothing indexed. -/
def cleared (engine : Engine) : Engine :=
  { engine with index := .empty }

def create (machine : Machine) (settings : Settings) (provider : Provider) :
    Except SetupError Engine :=
  (FolderCatalog.ofPath machine settings.baseFolder.path FolderCatalog.standardSuffixes).map
    fun catalog =>
      { indexer :=
          { provider
            chunking := settings.chunking
            filter := .withStandard settings.ignorePatterns }
        catalog := .folder catalog
        index := .empty }

/-- The engine for settings, with a provider from the environment whose service starts or not. -/
def start (machine : Machine) (serviceStarts : Bool) (settings : Settings) :
    Except SetupError Engine := do
  let provider ← Provider.configure machine.environment {} (.started serviceStarts)
  create machine settings provider

def fromEnvironment (machine : Machine) (serviceStarts : Bool) : Except SetupError Engine := do
  let settings ← Settings.resolve machine {}
  start machine serviceStarts settings

end Engine

end SnippetSearch
