import SnippetSearch.Embedding
import SnippetSearch.Setup

/-!
# Embedding providers

A provider knows which vectors to ask for, and whether there is a service to
ask.  Without a key, or if the service does not start, it is unavailable
rather than refused.
-/

namespace SnippetSearch

/-- Which vectors are asked for, and whether they can be. -/
structure Provider where
  model : Text
  dimension : Nat
  available : Bool
  dimension_pos : 0 < dimension

structure ProviderArguments where
  key? : Option Text := none
  model? : Option Text := none
  dimension? : Option Int := none
deriving Repr, DecidableEq

/-- Where a provider finds its service. -/
inductive ServiceSource where
  | given
  | started (starts : Bool)
deriving Repr, DecidableEq

namespace Provider

/-- The model that is asked unless another is set. -/
def defaultModel : Text := "gemini-embedding-001".toList

def defaultDimension : Int := 768

/-- The model: a nonempty argument, else the variable, else the default. -/
def findModel (environment : Environment) (given? : Option Text) : Text :=
  match given?.filter fun model => !model.isEmpty with
  | some model => model
  | none => (environment.get? Variable.embeddingModel).getD defaultModel

/-- The number of components: an argument other than zero, else the variable, else the default. -/
def findDimension (environment : Environment) (given? : Option Int) :
    Except ConfigurationError Int :=
  match given?.filter fun dimension => dimension != 0 with
  | some dimension => .ok dimension
  | none => environment.integer Variable.embeddingDimension defaultDimension

/-- Whether there is a key for the service, in the argument or in the variable. -/
def hasKey (environment : Environment) (given? : Option Text) : Bool :=
  (given?.filter fun key => !key.isEmpty).isSome ||
    (environment.nonempty? Variable.serviceKey).isSome

def configure (environment : Environment) (given : ProviderArguments) (source : ServiceSource) :
    Except SetupError Provider :=
  match findDimension environment given.dimension? with
  | .error error => .error (.configuration error)
  | .ok dimension =>
      if positive : 0 < dimension then
        .ok
          { model := findModel environment given.model?
            dimension := dimension.toNat
            available :=
              match source with
              | .given => true
              | .started starts => hasKey environment given.key? && starts
            dimension_pos := by omega }
      else
        .error (.ofRefusal (.dimensionNotPositive dimension))

def request (provider : Provider) (task : EmbeddingTask) (text : LooseText) :
    EmbeddingRequest :=
  { model := provider.model, text, task, dimension := provider.dimension }

end Provider

end SnippetSearch
