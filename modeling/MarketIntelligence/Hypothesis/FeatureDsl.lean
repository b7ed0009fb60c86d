import MarketIntelligence.Core.Values
import MarketIntelligence.Foundations.Enumerations
import MarketIntelligence.Foundations.Indexing
import MarketIntelligence.Foundations.Loops
import MarketIntelligence.Foundations.SortedLists
import Mathlib.Data.Rat.Floor
import Mathlib.Data.String.Basic

namespace MarketIntelligence
namespace Hypothesis

open Foundations
open Indexing
open SortedLists

/-!
# Declarative features

A feature is a list of operations on a series, each a dictionary of parameters.  A
specification is checked before it is stored, and the interpreter checks every operation
again before it runs it.  The check and the run read the parameters on their own.

The arithmetic of the arrays, the rounding of integers to floats, and the numbers that are
written in texts are parameters.  A missing value is not a number.
-/

/-! ## Values and exceptions -/

/-- A value in a specification. -/
inductive Value where
  | none
  | bool (value : Bool)
  | int (value : Int)
  | float (value : FloatValue)
  | text (value : String)
  | list (values : List Value)
  | dict (members : List (String × Value))

abbrev Dict := List (String × Value)

/-- The classes of the exceptions that conversions and arrays raise. -/
inductive ErrorKind where
  | value
  | type
  | index
  | zeroDivision
  | overflow
  deriving DecidableEq, Repr

inductive FeatureError where
  | value (text : String)
  | key (name : String)
  | builtin (kind : ErrorKind)
  deriving DecidableEq, Repr

def Value.truthy : Value -> Bool
  | .none => false
  | .bool value => value
  | .int value => value ≠ 0
  | .float value => value ≠ .finite 0
  | .text value => value ≠ ""
  | .list values => ¬ values.isEmpty
  | .dict members => ¬ members.isEmpty

/-- What `isinstance(value, int)` accepts. -/
def Value.integer : Value -> Option Int
  | .bool value => some (if value then 1 else 0)
  | .int value => some value
  | _ => Option.none

/-- What `isinstance(value, (int, float))` accepts, as it is compared. -/
def Value.number : Value -> Option FloatValue
  | .bool value => some (.finite (if value then 1 else 0))
  | .int value => some (.finite value)
  | .float value => some value
  | _ => Option.none

def atMost : FloatValue -> FloatValue -> Bool
  | .notANumber, _ => false
  | _, .notANumber => false
  | .negativeInfinity, _ => true
  | _, .positiveInfinity => true
  | .finite value, .finite other => value ≤ other
  | _, _ => false

def below (value other : FloatValue) : Bool :=
  atMost value other && ! atMost other value

/-- A comparison of what are not numbers raises. -/
def compare (relation : FloatValue -> FloatValue -> Bool) (value other : Value) :
    Except FeatureError Bool :=
  match value.number, other.number with
  | some value, some other => .ok (relation value other)
  | _, _ => .error (.builtin .type)

/-! ## Operations -/

/-- `ALLOWED_OPERATIONS` -/
inductive FeatureOperation where
  | lag
  | difference
  | ratio
  | rollingMean
  | rollingStd
  | rollingChange
  | weightedAverage
  | zscore
  | percentile
  | rank
  | winsorize
  | crossSectionRank
  deriving DecidableEq, Repr

namespace FeatureOperation

def text : FeatureOperation -> String
  | lag => "lag"
  | difference => "difference"
  | ratio => "ratio"
  | rollingMean => "rolling_mean"
  | rollingStd => "rolling_std"
  | rollingChange => "rolling_change"
  | weightedAverage => "weighted_average"
  | zscore => "zscore"
  | percentile => "percentile"
  | rank => "rank"
  | winsorize => "winsorize"
  | crossSectionRank => "cross_section_rank"

instance strEnum : StrEnum FeatureOperation where
  members := [lag, difference, ratio, rollingMean, rollingStd, rollingChange, weightedAverage,
    zscore, percentile, rank, winsorize, crossSectionRank]
  value := text
  mem_members := by
    intro member
    cases member <;> simp
  value_injective := by
    intro first second same
    cases first <;> cases second <;> first | rfl | (simp [text] at same)

end FeatureOperation

/-- The operation that a value names. -/
def operationOf : Value -> Option FeatureOperation
  | .text name => StrEnum.find name
  | _ => Option.none

/-! ## The check -/

/-- `MAX_LOOKBACK` -/
def maxLookback : Int := 2520

def Value.within (low : Int) (value : Value) : Bool :=
  value.integer.any fun given => low ≤ given ∧ given ≤ maxLookback

/-- `operation.get("periods", operation.get("window"))` -/
def periodsOf (operation : Dict) : Value :=
  (operation.lookup "periods").getD ((operation.lookup "window").getD .none)

def lowerOf (operation : Dict) : Value :=
  (operation.lookup "lower").getD (.float (.finite (1 / 100)))

def upperOf (operation : Dict) : Value :=
  (operation.lookup "upper").getD (.float (.finite (99 / 100)))

/-- `0 <= lower < upper <= 1` -/
def boundsOrdered (lower upper : Value) : Except FeatureError Bool := do
  if ← compare atMost (.int 0) lower then
    if ← compare below lower upper then compare atMost upper (.int 1)
    else return false
  else return false

def inPercent (value : FloatValue) : Bool :=
  atMost (.finite 0) value && atMost value (.finite 100)

def validateParameters (name : FeatureOperation) (operation : Dict) : Except FeatureError Unit :=
  match name with
  | .lag | .difference | .rollingMean | .rollingStd | .rollingChange =>
      if (periodsOf operation).within 1 then .ok ()
      else .error (.value (name.text ++ " requires a bounded positive period/window"))
  | .winsorize => do
      if ← boundsOrdered (lowerOf operation) (upperOf operation) then return ()
      else throw (.value "winsorize bounds must satisfy 0 <= lower < upper <= 1")
  | .percentile =>
      if ((operation.lookup "value").bind Value.number).any inPercent then .ok ()
      else .error (.value "percentile must be between 0 and 100")
  | .weightedAverage =>
      match operation.lookup "weights" with
      | some (.list weights) =>
          if ¬ weights.isEmpty ∧ weights.all fun weight => weight.number.isSome then .ok ()
          else .error (.value "weighted_average requires numeric weights")
      | _ => .error (.value "weighted_average requires numeric weights")
  | .ratio | .zscore | .rank | .crossSectionRank => .ok ()

/-- `_validate_operation` -/
def validateOperation (operation : Dict) : Except FeatureError Unit :=
  match operation.lookup "operation" with
  | none => .error (.key "operation")
  | some given =>
      match operationOf given with
      | none => .ok ()
      | some name => validateParameters name operation

def requiredKeys : List String :=
  ["feature_key", "required_datasets", "required_graph_paths", "transformations", "lookback",
   "lag", "missing_data_policy", "normalization", "temporal_policy"]

def unsupported : FeatureError :=
  .value "feature specification contains an unsupported operation"

/-- An item of `transformations`.  A list or a dictionary cannot be looked for in a set. -/
def validateListed : Value -> Except FeatureError Unit
  | .dict operation =>
      match (operation.lookup "operation").getD .none with
      | .list _ | .dict _ => .error (.builtin .type)
      | given => if (operationOf given).isSome then validateOperation operation
        else .error unsupported
  | _ => .error unsupported

def eligibleOnly : Value -> Bool
  | .dict members => ((members.lookup "simulation_eligible_only").getD (.bool false)).truthy
  | _ => false

def validateFeatureSpec (specification : Dict) : Except FeatureError Unit :=
  let missing := requiredKeys.filter fun key => (specification.lookup key).isNone
  let given := fun key => (specification.lookup key).getD .none
  if missing ≠ [] then
    .error (.value ("feature specification is missing: " ++
      String.intercalate ", " (sortedBy id missing)))
  else if ¬ (given "lookback").within 1 then
    .error (.value "lookback must be between 1 and 2520 observations")
  else if ¬ (given "lag").within 0 then
    .error (.value "lag must be between 0 and 2520 observations")
  else if ¬ eligibleOnly (given "temporal_policy") then
    .error (.value "feature specifications must require simulation-eligible inputs")
  else
    match given "transformations" with
    | .list (first :: rest) => (first :: rest).forM validateListed
    | _ => .error (.value "at least one declarative transformation is required")

/-! ## Conversions -/

/-- The arithmetic of the arrays, and what texts stand for. -/
structure Numerics where
  rounding : Rat -> Rat
  floatOfText : String -> Option FloatValue
  intOfText : String -> Option Int
  subtract : FloatValue -> FloatValue -> FloatValue
  divide : FloatValue -> FloatValue -> FloatValue
  sum : List FloatValue -> FloatValue
  average : List FloatValue -> List FloatValue -> FloatValue
  nanmean : List FloatValue -> FloatValue
  nanstd : List FloatValue -> FloatValue
  nanpercentile : List FloatValue -> FloatValue -> FloatValue
  nanquantile : List FloatValue -> FloatValue -> FloatValue
  clip : FloatValue -> FloatValue -> FloatValue -> FloatValue

def finiteOf : FloatValue -> Option Rat
  | .finite value => some value
  | _ => none

/-- An operation that is only worked out on finite floats. -/
def onFinite (operation : Rat -> Rat -> Rat) (value other : FloatValue) : FloatValue :=
  match finiteOf value, finiteOf other with
  | some value, some other => .finite (operation value other)
  | _, _ => .notANumber

def exactMean (values : List FloatValue) : FloatValue :=
  let finite := values.filterMap finiteOf
  if finite = [] then .notANumber else .finite (finite.sum / finite.length)

/-- Exact arithmetic of the finite floats, without deviations, quantiles and weights. -/
def exactNumerics : Numerics where
  rounding := fun value => value
  floatOfText := fun _ => none
  intOfText := String.toInt?
  subtract := onFinite fun value other => value - other
  divide := onFinite fun value other => value / other
  sum := fun values => .finite (values.filterMap finiteOf).sum
  average := fun values _ => exactMean values
  nanmean := exactMean
  nanstd := fun _ => .notANumber
  nanpercentile := fun _ _ => .notANumber
  nanquantile := fun _ _ => .notANumber
  clip := fun value _ _ => value

section Conversions

variable (numerics : Numerics)

/-- The least integer that is rounded to no float. -/
def floatLimit : Nat := 2 ^ 1024 - 2 ^ 970

def floatOfInt (value : Int) : Except ErrorKind FloatValue :=
  if floatLimit ≤ value.natAbs then .error .overflow
  else .ok (.finite (numerics.rounding value))

/-- `float(value)` -/
def toFloat : Value -> Except ErrorKind FloatValue
  | .bool value => .ok (.finite (if value then 1 else 0))
  | .int value => floatOfInt numerics value
  | .float value => .ok value
  | .text value =>
      match numerics.floatOfText value with
      | some number => .ok number
      | none => .error .value
  | .none | .list _ | .dict _ => .error .type

def truncate (value : Rat) : Int :=
  if 0 ≤ value then ⌊value⌋ else ⌈value⌉

/-- `int(value)` -/
def toInt : Value -> Except ErrorKind Int
  | .bool value => .ok (if value then 1 else 0)
  | .int value => .ok value
  | .float (.finite value) => .ok (truncate value)
  | .float .notANumber => .error .value
  | .float _ => .error .overflow
  | .text value =>
      match numerics.intOfText value with
      | some number => .ok number
      | none => .error .value
  | .none | .list _ | .dict _ => .error .type

/-- An array of floats with its shape.  The data are in row order, as many as the shape has
places. -/
structure NdArray where
  shape : List Nat
  data : List FloatValue
  sized : data.length = shape.prod

def NdArray.scalar (value : FloatValue) : NdArray := ⟨[], [value], rfl⟩

theorem length_flatMap_data {arrays : List NdArray} {shape : List Nat}
    (same : forall array, array ∈ arrays -> array.shape = shape) :
    (arrays.flatMap NdArray.data).length = arrays.length * shape.prod := by
  induction arrays with
  | nil => rw [List.flatMap_nil, List.length_nil, List.length_nil, Nat.zero_mul]
  | cons array rest ih =>
      rw [List.flatMap_cons, List.length_append, array.sized, same array List.mem_cons_self,
        ih fun other member => same other (List.mem_cons_of_mem _ member),
        List.length_cons, Nat.add_comm, Nat.succ_mul]

/-- Arrays of one shape side by side, with the dimensions that there can be. -/
def stack : List NdArray -> Except ErrorKind NdArray
  | [] => .ok ⟨[0], [], rfl⟩
  | first :: rest =>
      if same : (forall array, array ∈ first :: rest -> array.shape = first.shape) ∧
          first.shape.length < 64 then
        .ok ⟨(first :: rest).length :: first.shape, (first :: rest).flatMap NdArray.data,
          (length_flatMap_data same.1).trans List.prod_cons.symm⟩
      else .error .value

mutual

/-- `np.asarray(value, dtype=float)` -/
def asarray : Value -> Except ErrorKind NdArray
  | .list values => (asarrays values).bind stack
  | .none => .ok (.scalar .notANumber)
  | .bool value => (toFloat numerics (.bool value)).map .scalar
  | .int value => (toFloat numerics (.int value)).map .scalar
  | .float value => (toFloat numerics (.float value)).map .scalar
  | .text value => (toFloat numerics (.text value)).map .scalar
  | .dict members => (toFloat numerics (.dict members)).map .scalar

def asarrays : List Value -> Except ErrorKind (List NdArray)
  | [] => .ok []
  | value :: rest => do
      let first ← asarray value
      let others ← asarrays rest
      return first :: others

end

end Conversions

/-! ## The interpreter -/

section Interpreter

/-- An exception of a conversion passes through. -/
def passing {α : Type} : Except ErrorKind α -> Except FeatureError α
  | .ok value => .ok value
  | .error kind => .error (.builtin kind)

variable (numerics : Numerics)

/-- `_lag`, for positive periods -/
def lag (values : List FloatValue) (periods : Nat) : List FloatValue :=
  List.replicate (min periods values.length) .notANumber ++ values.take (values.length - periods)

def windowValue (name : FeatureOperation) (current : List FloatValue) :
    Except ErrorKind FloatValue :=
  match name with
  | .rollingMean => .ok (numerics.nanmean current)
  | .rollingStd => .ok (numerics.nanstd current)
  | _ =>
      match current.getLast?, current.head? with
      | some last, some first => .ok (numerics.subtract last first)
      | _, _ => .error .index

def rollingStep (values : List FloatValue) (window : Int) (name : FeatureOperation)
    (result : List FloatValue) (index : Int) : Except ErrorKind (List FloatValue) := do
  let value ← windowValue numerics name (slice (index - window + 1) (index + 1) values)
  match assign index value result with
  | some next => return next
  | none => throw .index

/-- `_rolling` -/
def rolling (values : List FloatValue) (window : Int) (name : FeatureOperation) :
    Except ErrorKind (List FloatValue) :=
  (indices (window - 1) values.length).foldlM (rollingStep numerics values window name)
    (List.replicate values.length .notANumber)

/-- `operation.get("window", operation.get("periods", 1))` -/
def windowOf (operation : Dict) : Value :=
  (operation.lookup "window").getD ((operation.lookup "periods").getD (.int 1))

def denominatorOf (operation : Dict) : Value :=
  (operation.lookup "denominator").getD (.list [])

/-- `operation[key]` -/
def parameter (operation : Dict) (key : String) : Except FeatureError Value :=
  match operation.lookup key with
  | some given => .ok given
  | none => .error (.key key)

/-- `len(array)` -/
def arrayLength (array : NdArray) : Except ErrorKind Nat :=
  match array.shape with
  | [] => .error .type
  | count :: _ => .ok count

/-- What is not a number goes last. -/
def sortsBefore (value other : FloatValue) : Bool :=
  other = .notANumber || atMost value other

/-- `np.argsort(values, kind="stable")` -/
def argsort {α : Type} (before : α -> α -> Bool) (values : List α) : List Nat :=
  (values.zipIdx.mergeSort fun first second => before first.1 second.1).map Prod.snd

def ranks (values : List FloatValue) : List FloatValue :=
  (argsort (fun first second : Nat => first ≤ second) (argsort sortsBefore values)).map
    fun order : Nat => .finite ((order + 1 : Nat) : Rat)

def standardized (values : List FloatValue) : List FloatValue :=
  if numerics.nanstd values = .finite 0 then values.map fun _ => .finite 0
  else values.map fun value =>
    numerics.divide (numerics.subtract value (numerics.nanmean values)) (numerics.nanstd values)

/-- `np.divide` where the denominator is not zero -/
def quotient (value denominator : FloatValue) : FloatValue :=
  if denominator = .finite 0 then .notANumber else numerics.divide value denominator

def shapeMismatch : FeatureError := .value "ratio denominator must match input shape"

def lengthMismatch : FeatureError := .value "weighted_average weights must match input length"

/-- The branch of an operation. -/
def run (result : List FloatValue) (operation : Dict) (name : FeatureOperation) :
    Except FeatureError (List FloatValue) :=
  match name with
  | .lag => do
      let periods ← passing (toInt numerics (← parameter operation "periods"))
      return lag result periods.toNat
  | .difference => do
      let periods ← passing (toInt numerics (← parameter operation "periods"))
      return List.zipWith numerics.subtract result (lag result periods.toNat)
  | .ratio => do
      let denominator ← passing (asarray numerics (denominatorOf operation))
      if denominator.shape ≠ [result.length] then throw shapeMismatch
      else return List.zipWith (quotient numerics) result denominator.data
  | .rollingMean | .rollingStd | .rollingChange => do
      let window ← passing (toInt numerics (windowOf operation))
      passing (rolling numerics result window name)
  | .weightedAverage => do
      let weights ← passing (asarray numerics (← parameter operation "weights"))
      if (← passing (arrayLength weights)) ≠ result.length then throw lengthMismatch
      else if numerics.sum weights.data = .finite 0 then throw (.builtin .zeroDivision)
      else return [numerics.average result weights.data]
  | .zscore => return standardized numerics result
  | .percentile => do
      let value ← passing (toFloat numerics (← parameter operation "value"))
      return [numerics.nanpercentile result value]
  | .rank | .crossSectionRank => return ranks result
  | .winsorize => do
      let lower := numerics.nanquantile result (← passing (toFloat numerics (lowerOf operation)))
      let upper := numerics.nanquantile result (← passing (toFloat numerics (upperOf operation)))
      return result.map fun value => numerics.clip value lower upper

/-- One pass of the loop: the operation is checked, and its result is the series that the next
one takes. -/
def executeOperation (result : List FloatValue) (operation : Dict) :
    Except FeatureError (List FloatValue) := do
  validateOperation operation
  match (operation.lookup "operation").bind operationOf with
  | none => return result
  | some name => run numerics result operation name

def executeOperations (values : List (Option FloatValue)) (transformations : List Dict) :
    Except FeatureError (List FloatValue) :=
  transformations.foldlM (executeOperation numerics) (values.map fun value =>
    value.getD .notANumber)

end Interpreter

end Hypothesis
end MarketIntelligence
