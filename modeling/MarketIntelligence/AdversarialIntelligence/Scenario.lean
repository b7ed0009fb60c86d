import MarketIntelligence.Foundations.Enumerations
import MarketIntelligence.Foundations.Expansion
import MarketIntelligence.Foundations.Tables

namespace MarketIntelligence
namespace AdversarialIntelligence

open Foundations

/-!
# Propagation of a scenario

Shocks spread along the supported edges of a graph.  A queue holds what is still to be
spread, and a node is reached once from the target of a shock.

The values are floats.  Their type and the operations on it are parameters.
-/

/-- What the service does with floats, and its literals. -/
structure FloatOperations (V : Type) where
  zero : V
  one : V
  fourFifths : V
  sixFifths : V
  multiply : V -> V -> V
  negate : V -> V
  absolute : V -> V
  maximum : V -> V -> V
  minimum : V -> V -> V
  atLeast : V -> V -> Bool
  exceeds : V -> V -> Bool
  truthy : V -> Bool

abbrev Parameters (V : Type) := List (String × V)

structure Shock (V : Type) where
  target : String
  value : V
  deriving DecidableEq, Repr

/-- The keys that an edge may lack are options. -/
structure Edge (V : Type) where
  source : String
  target : String
  supported : Bool
  confidence : Option V
  weight : Option V
  function : Option String
  relationship : Option String
  lag : Option Int
  parameters : Parameters V
  deriving DecidableEq, Repr

structure PathStep (V : Type) where
  source : String
  target : String
  relationship : Option String
  confidence : V
  function : String
  parameters : Parameters V
  intermediateValue : V
  lag : Int
  deriving DecidableEq, Repr

structure Impact (V : Type) where
  sourceShock : String
  subject : String
  value : V
  transmissionPath : List (PathStep V)
  uncertaintyRange : V × V
  deriving DecidableEq, Repr

section Transmission

variable {V : Type} (operations : FloatOperations V)

/-- `parameters.get(name, default)` -/
def parameter (name : String) (default : V) (parameters : Parameters V) : V :=
  ((Tables.lookup Prod.fst name parameters).map Prod.snd).getD default

def transmissionValue (kind : String) (shock : V) (parameters : Parameters V) :
    Except ValueError V :=
  let weight := parameter "weight" operations.one parameters
  let lagDiscount := parameter "lag_discount" operations.one parameters
  let raw := operations.multiply (operations.multiply shock weight) lagDiscount
  if kind = "LINEAR" then .ok raw
  else if kind = "BOUNDED_LINEAR" then
    let bound := operations.absolute (parameter "bound" operations.one parameters)
    .ok (operations.maximum (operations.negate bound) (operations.minimum bound raw))
  else if kind = "THRESHOLD" then
    let threshold := operations.absolute (parameter "threshold" operations.zero parameters)
    .ok (if operations.atLeast (operations.absolute shock) threshold then raw else operations.zero)
  else if kind ∈ ["LAGGED", "WEIGHTED_EXPOSURE", "CAPACITY_WEIGHTED", "LOCATION_WEIGHTED"] then
    .ok raw
  else if kind = "BINARY_DISRUPTION" then
    .ok (if operations.truthy shock then weight else operations.zero)
  else .error (.refused ("unsupported transmission function: " ++ kind))

/-- The kinds of transmission that do not raise. -/
def transmissionFunctions : List String :=
  ["LINEAR", "BOUNDED_LINEAR", "THRESHOLD", "LAGGED", "WEIGHTED_EXPOSURE", "CAPACITY_WEIGHTED",
    "LOCATION_WEIGHTED", "BINARY_DISRUPTION"]

def Edge.kind (edge : Edge V) : String := edge.function.getD "LINEAR"

/-- The parameters of an edge, with its weight under its confidence. -/
def Edge.weighted (edge : Edge V) : Parameters V :=
  Tables.put Prod.fst
    ("weight", operations.multiply (edge.weight.getD operations.one)
      (edge.confidence.getD operations.zero)) edge.parameters

def Edge.live (edge : Edge V) : Bool :=
  edge.supported &&
    edge.confidence.elim false fun confidence => operations.exceeds confidence operations.zero

/-- The entry of a node in `adjacency`. -/
def adjacency (edges : List (Edge V)) (node : String) : List (Edge V) :=
  edges.filter fun edge => edge.live operations && edge.source = node

end Transmission

/-! ## The queue -/

structure QueueItem (V : Type) where
  node : String
  value : V
  path : List (PathStep V)
  depth : Nat
  origin : String
  deriving DecidableEq, Repr

def Shock.queued {V : Type} (shock : Shock V) : QueueItem V :=
  ⟨shock.target, shock.value, [], 0, shock.target⟩

structure Progress (V : Type) where
  visited : List (String × String)
  outputs : List (Impact V)
  deriving DecidableEq, Repr

section Queue

variable {V : Type} (operations : FloatOperations V)

def stepOf (node : String) (edge : Edge V) (transmitted : V) : PathStep V where
  source := node
  target := edge.target
  relationship := edge.relationship
  confidence := edge.confidence.getD operations.zero
  function := edge.kind
  parameters := edge.weighted operations
  intermediateValue := transmitted
  lag := edge.lag.getD 0

/-- What an edge makes of an item. -/
def QueueItem.advance (item : QueueItem V) (edge : Edge V) :
    Except ValueError (QueueItem V) := do
  let transmitted ← transmissionValue operations edge.kind item.value (edge.weighted operations)
  .ok
    { node := edge.target
      value := transmitted
      path := item.path ++ [stepOf operations item.node edge transmitted]
      depth := item.depth + 1
      origin := item.origin }

def QueueItem.impact (item : QueueItem V) : Impact V where
  sourceShock := item.origin
  subject := item.node
  value := item.value
  transmissionPath := item.path
  uncertaintyRange := (operations.multiply item.value operations.fourFifths,
    operations.multiply item.value operations.sixFifths)

/-- The body of the loop over the edges of a node, with the items for the queue. -/
def followEdge (item : QueueItem V) (reached : Progress V × List (QueueItem V))
    (edge : Edge V) : Except ValueError (Progress V × List (QueueItem V)) :=
  let (progress, items) := reached
  if (item.origin, edge.target) ∈ progress.visited ∨
      edge.target ∈ item.path.map PathStep.source then .ok (progress, items)
  else do
    let next ← item.advance operations edge
    .ok ({ visited := progress.visited ++ [(item.origin, edge.target)]
           outputs := progress.outputs ++ [next.impact operations] }, items ++ [next])

/-- The body of `while queue`. -/
def visitItem (edges : List (Edge V)) (maxDepth : Int) (progress : Progress V)
    (item : QueueItem V) : Except ValueError (Progress V × List (QueueItem V)) :=
  if maxDepth ≤ item.depth then .ok (progress, [])
  else (adjacency operations edges item.node).foldlM (followEdge operations item) (progress, [])

/-- A bound on the number of items that the queue ever holds. -/
def turnLimit (shocks : List (Shock V)) (edges : List (Edge V)) : Nat :=
  shocks.length * (edges.length + 1)

/-- `none` would be a queue that does not run empty. -/
def propagateScenario (shocks : List (Shock V)) (edges : List (Edge V)) (maxDepth : Int) :
    Option (Except ValueError (List (Impact V))) :=
  if ¬ (1 ≤ maxDepth ∧ maxDepth ≤ 8) then
    some (.error (.refused "max_depth must be between 1 and 8"))
  else
    (Expansion.search (visitItem operations edges maxDepth) (turnLimit shocks edges)
      ⟨[], []⟩ (shocks.map Shock.queued)).map (Except.map Progress.outputs)

end Queue

end AdversarialIntelligence
end MarketIntelligence
