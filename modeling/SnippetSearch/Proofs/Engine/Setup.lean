import SnippetSearch.Engine.Basic

/-!
# Engines that are set up

An engine is set up step by step, and fails with the first step that does.
Where all steps go well the engine starts with nothing indexed.
-/

namespace SnippetSearch

/-- Two steps go well if the first one does, and the second one with what it gave. -/
theorem exists_of_bind_eq_ok {ε α β : Type} {first : Except ε α} {second : α → Except ε β}
    {result : β} (done : first >>= second = .ok result) :
    ∃ value, first = .ok value ∧ second value = .ok result := by
  cases first with
  | error reason => cases done
  | ok value => exact ⟨value, rfl, done⟩

/-- A machine without files on which one variable is set. -/
def Machine.ofVariable (name value : Text) : Machine where
  tree := .folder []
  workingFolder := []
  environment := Environment.empty.set name (some value)
  accountHomes := []

namespace Engine

variable {machine : Machine} {engine : Engine}

/-- Clearing a new engine changes nothing. -/
theorem cleared_of_create {settings : Settings} {provider : Provider}
    (created : create machine settings provider = .ok engine) : engine.cleared = engine := by
  unfold create at created
  cases made : FolderCatalog.ofPath machine settings.baseFolder.path
      FolderCatalog.standardSuffixes with
  | error reason =>
      rw [made] at created
      cases created
  | ok catalog =>
      rw [made] at created
      cases created
      rfl

/-- A new engine has nothing indexed. -/
theorem index_of_fromEnvironment {serviceStarts : Bool}
    (built : fromEnvironment machine serviceStarts = .ok engine) : engine.index = .empty := by
  obtain ⟨settings, -, started⟩ := exists_of_bind_eq_ok built
  obtain ⟨provider, -, created⟩ := exists_of_bind_eq_ok started
  exact congrArg Engine.index (cleared_of_create created).symm

end Engine

end SnippetSearch
