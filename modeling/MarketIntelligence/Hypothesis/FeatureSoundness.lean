import MarketIntelligence.Hypothesis.FeatureCausality

namespace MarketIntelligence
namespace Hypothesis

open Foundations
open Loops

/-!
# Accepted features and their runs

The check of an operation does not ask for all that its run reads.  A lag is accepted with
a window and runs on its periods, a rolling operation is checked by its periods and runs on
its window, and the weights and the denominator are not looked at closely.

Here is what more a program needs, walked along with the length of the series, and that an
accepted program runs exactly when it has it.
-/

/-! ## What a run needs -/

section Needs

variable (numerics : Numerics)

def weightsOf (operation : Dict) : List Value :=
  match operation.lookup "weights" with
  | some (.list weights) => weights
  | _ => []

/-- What the branch of an operation needs beside the check. -/
def Clear (name : FeatureOperation) (operation : Dict) (length : Nat) : Prop :=
  match name with
  | .lag | .difference => exists given, operation.lookup "periods" = some given
  | .ratio => exists array, asarray numerics (denominatorOf operation) = .ok array
  | .rollingMean | .rollingStd =>
      exists window, toInt numerics (windowOf operation) = .ok window ∧ 1 - (length : Int) ≤ window
  | .rollingChange => exists window, toInt numerics (windowOf operation) = .ok window ∧ 1 ≤ window
  | .weightedAverage =>
      exists data, (weightsOf operation).mapM (toFloat numerics) = .ok data ∧
        (data.length = length -> numerics.sum data ≠ .finite 0)
  | .zscore | .percentile | .rank | .winsorize | .crossSectionRank => True

/-- The parameter has another length than the series. -/
def Mismatched (name : FeatureOperation) (operation : Dict) (length : Nat) : Prop :=
  match name with
  | .ratio => exists array, asarray numerics (denominatorOf operation) = .ok array ∧
      array.shape ≠ [length]
  | .weightedAverage => (weightsOf operation).length ≠ length
  | _ => False

def lengthAfter (name : FeatureOperation) (length : Nat) : Nat :=
  match name with
  | .weightedAverage | .percentile => 1
  | _ => length

/-- What a program needs, up to the first mismatch. -/
def Executable : List Dict -> Nat -> Prop
  | [], _ => True
  | operation :: rest, length =>
      forall name, (operation.lookup "operation").bind operationOf = some name ->
        Clear numerics name operation length ∧
          (¬ Mismatched numerics name operation length ->
            Executable rest (lengthAfter name length))

end Needs

/-- The mismatches that the interpreter reports. -/
def Reported (failure : FeatureError) : Prop :=
  failure = shapeMismatch ∨ failure = lengthMismatch

/-- A series, or a mismatch of lengths. -/
def Runs (outcome : Except FeatureError (List FloatValue)) : Prop :=
  match outcome with
  | .ok _ => True
  | .error failure => Reported failure

/-- How a branch ends, against what it needs. -/
inductive Ends (numerics : Numerics) (name : FeatureOperation) (operation : Dict) (length : Nat) :
    Except FeatureError (List FloatValue) -> Prop where
  | returned {next : List FloatValue} (clear : Clear numerics name operation length)
      (matched : ¬ Mismatched numerics name operation length)
      (sized : next.length = lengthAfter name length) :
      Ends numerics name operation length (.ok next)
  | mismatched {failure : FeatureError} (clear : Clear numerics name operation length)
      (other : Mismatched numerics name operation length) (reported : Reported failure) :
      Ends numerics name operation length (.error failure)
  | stopped {failure : FeatureError} (unclear : ¬ Clear numerics name operation length)
      (other : ¬ Reported failure) : Ends numerics name operation length (.error failure)

/-! ## The branches -/

section Branches

variable {numerics : Numerics} {operation : Dict} {result : List FloatValue}

theorem not_reported_builtin (kind : ErrorKind) : ¬ Reported (.builtin kind) := by
  rintro (same | same)
  · cases same
  · cases same

theorem not_reported_key (name : String) : ¬ Reported (.key name) := by
  rintro (same | same)
  · cases same
  · cases same

theorem passing_ok {α : Type} {outcome : Except ErrorKind α} {value : α}
    (done : outcome = .ok value) : passing outcome = .ok value := by
  subst done
  rfl

theorem passing_error {α : Type} {outcome : Except ErrorKind α} {kind : ErrorKind}
    (done : outcome = .error kind) : passing outcome = .error (.builtin kind) := by
  subst done
  rfl

theorem toInt_of_integer {given : Value} {value : Int} (read : given.integer = some value) :
    toInt numerics given = .ok value := by
  cases given with
  | bool flag =>
      cases read
      rfl
  | int number =>
      cases read
      rfl
  | none | float | text | list | dict => cases read

theorem within_integer {given : Value} {low : Int} (inside : given.within low = true) :
    exists value, given.integer = some value ∧ low ≤ value := by
  rw [Value.within] at inside
  cases read : given.integer with
  | none =>
      rw [read] at inside
      cases inside
  | some value =>
      rw [read] at inside
      exact ⟨value, rfl, (of_decide_eq_true inside).1⟩

/-- The branches of a lag and of a difference. -/
theorem ends_lagged {name : FeatureOperation}
    (needs : Clear numerics name operation result.length <->
      exists given, operation.lookup "periods" = some given)
    (matched : ¬ Mismatched numerics name operation result.length)
    (after : lengthAfter name result.length = result.length)
    (checked : (periodsOf operation).within 1 = true)
    {step : Nat -> List FloatValue}
    (sized : forall periods, (step periods).length = result.length) :
    Ends numerics name operation result.length (do
      let periods ← passing (toInt numerics (← parameter operation "periods"))
      return step periods.toNat) := by
  cases found : operation.lookup "periods" with
  | none =>
      have absent : parameter operation "periods" = .error (.key "periods") := by
        rw [parameter, found]
      rw [except_bind_error absent]
      refine .stopped ?_ (not_reported_key _)
      rw [needs, found]
      rintro ⟨given, impossible⟩
      cases impossible
  | some given =>
      have present : parameter operation "periods" = .ok given := by
        rw [parameter, found]
      rw [periodsOf, found, Option.getD_some] at checked
      rcases within_integer checked with ⟨value, read, _⟩
      rw [except_bind_eq present, except_bind_eq (passing_ok (toInt_of_integer read))]
      exact .returned (needs.mpr ⟨given, found⟩) matched ((sized _).trans after.symm)

theorem ends_ratio : Ends numerics .ratio operation result.length
    (run numerics result operation .ratio) := by
  rw [run]
  cases read : asarray numerics (denominatorOf operation) with
  | error kind =>
      rw [except_bind_error (passing_error rfl)]
      refine .stopped ?_ (not_reported_builtin kind)
      rintro ⟨array, impossible⟩
      rw [read] at impossible
      cases impossible
  | ok array =>
      rw [except_bind_eq (passing_ok rfl)]
      by_cases shaped : array.shape = [result.length]
      · rw [if_neg (not_not_intro shaped)]
        refine .returned ⟨array, read⟩ ?_ ?_
        · rintro ⟨other, again, different⟩
          rw [read] at again
          cases again
          exact different shaped
        · have count : array.data.length = result.length := by
            rw [array.sized, shaped, List.prod_cons, List.prod_nil, Nat.mul_one]
          rw [List.length_zipWith, count, min_self]
          rfl
      · rw [if_pos shaped]
        exact .mismatched ⟨array, read⟩ ⟨array, read, shaped⟩ (Or.inl rfl)

/-! ### Windows from the end -/

theorem length_rolling {window : Int} (positive : 1 ≤ window) (values : List FloatValue)
    (name : FeatureOperation) :
    exists next, rolling numerics values window name = .ok next ∧ next.length = values.length := by
  rcases Int.eq_ofNat_of_zero_le (by omega : 0 ≤ window) with ⟨count, same⟩
  subst same
  refine ⟨_, rolling_positive (by omega) values name, ?_⟩
  rw [Causality.byPlace, List.length_map, List.length_range]

/-- A mean and a deviation are defined on every window. -/
def FeatureOperation.Averages (name : FeatureOperation) : Prop :=
  name = .rollingMean ∨ name = .rollingStd

theorem windowValue_average {name : FeatureOperation} (averages : name.Averages)
    (current : List FloatValue) : exists value, windowValue numerics name current = .ok value := by
  rcases averages with same | same
  · subst same
    exact ⟨_, rfl⟩
  · subst same
    exact ⟨_, rfl⟩

theorem foldlM_average {values : List FloatValue} {window : Int} {name : FeatureOperation}
    (averages : name.Averages) {places : List Int}
    (inside : forall index, index ∈ places -> -values.length ≤ index ∧ index < values.length)
    {start : List FloatValue} (length : start.length = values.length) :
    exists next, places.foldlM (rollingStep numerics values window name) start = .ok next ∧
      next.length = values.length := by
  induction places generalizing start with
  | nil => exact ⟨start, rfl, length⟩
  | cons index rest ih =>
      rcases windowValue_average averages
        (Indexing.slice (index - window + 1) (index + 1) values) with ⟨value, found⟩
      rcases inside index List.mem_cons_self with ⟨low, high⟩
      rcases Indexing.assign_some value (length ▸ low) (length ▸ high) with ⟨next, assigned, kept⟩
      have first : rollingStep numerics values window name start index = .ok next := by
        rw [rollingStep, except_bind_eq found, assigned]
        rfl
      rw [List.foldlM_cons, except_bind_eq first]
      exact ih (fun other member => inside other (List.mem_cons_of_mem _ member))
        (kept.trans length)

theorem rolling_average_ok {values : List FloatValue} {window : Int} {name : FeatureOperation}
    (averages : name.Averages) (enough : 1 - (values.length : Int) ≤ window) :
    exists next, rolling numerics values window name = .ok next ∧ next.length = values.length := by
  apply foldlM_average averages _ List.length_replicate
  intro index member
  rcases Indexing.mem_indices.mp member with ⟨low, high⟩
  omega

theorem rolling_average_stops {values : List FloatValue} {window : Int} {name : FeatureOperation}
    (averages : name.Averages) (short : window < 1 - (values.length : Int))
    (nonempty : 0 < values.length) :
    rolling numerics values window name = .error .index := by
  rcases windowValue_average averages
    (Indexing.slice (window - 1 - window + 1) (window - 1 + 1) values) with ⟨value, found⟩
  have first : rollingStep numerics values window name
      (List.replicate values.length .notANumber) (window - 1) = .error .index := by
    rw [rollingStep, except_bind_eq found,
      Indexing.assign_none value (by rw [List.length_replicate]; omega)]
    rfl
  rw [rolling, Indexing.indices_cons (by omega), List.foldlM_cons, except_bind_error first]

theorem windowValue_error {name : FeatureOperation} {current : List FloatValue} {kind : ErrorKind}
    (stopped : windowValue numerics name current = .error kind) : kind = .index := by
  by_cases empty : current = []
  · subst empty
    cases name <;> cases stopped <;> rfl
  · rw [windowValue_ok empty] at stopped
    cases stopped

theorem rollingStep_error {values start : List FloatValue} {window index : Int}
    {name : FeatureOperation} {kind : ErrorKind}
    (stopped : rollingStep numerics values window name start index = .error kind) :
    kind = .index := by
  rw [rollingStep] at stopped
  cases found : windowValue numerics name
    (Indexing.slice (index - window + 1) (index + 1) values) with
  | error other =>
      rw [except_bind_error found] at stopped
      cases stopped
      exact windowValue_error found
  | ok value =>
      rw [except_bind_eq found] at stopped
      cases assigned : Indexing.assign index value start with
      | none =>
          rw [assigned] at stopped
          cases stopped
          rfl
      | some next =>
          rw [assigned] at stopped
          cases stopped

/-- The window that ends before the first place is empty, and a change has no end there. -/
theorem rolling_change_stops {values : List FloatValue} {window : Int} (small : window ≤ 0)
    (nonempty : 0 < values.length) :
    rolling numerics values window .rollingChange = .error .index := by
  have stuck : forall start next,
      rollingStep numerics values window .rollingChange start (-1) ≠ .ok next := by
    intro start next done
    have empty : windowValue numerics .rollingChange
        (Indexing.slice (-1 - window + 1) (-1 + 1) values) = .error .index := by
      have ends : (-1 : Int) + 1 = 0 := rfl
      rw [ends, Indexing.slice_zero]
      rfl
    rw [rollingStep, except_bind_error empty] at done
    cases done
  have listed : (-1 : Int) ∈ Indexing.indices (window - 1) values.length :=
    Indexing.mem_indices.mpr ⟨by omega, by omega⟩
  have raises : exists kind, rolling numerics values window .rollingChange = .error kind ∧
      kind = .index := by
    refine foldlM_raises ?_ listed stuck _
    intro index _ start kind stopped
    exact rollingStep_error stopped
  rcases raises with ⟨kind, stopped, same⟩
  rw [stopped, same]

/-! ### The other branches -/

/-- The branches of the rolling operations, which differ in the windows that are enough. -/
theorem ends_windowed {name : FeatureOperation} {Enough : Int -> Prop}
    (needs : Clear numerics name operation result.length <-> exists window,
      toInt numerics (windowOf operation) = .ok window ∧ Enough window)
    (matched : ¬ Mismatched numerics name operation result.length)
    (after : lengthAfter name result.length = result.length)
    (rolls : forall window, Enough window -> exists next,
      rolling numerics result window name = .ok next ∧ next.length = result.length)
    (stops : forall window, ¬ Enough window ->
      rolling numerics result window name = .error .index) :
    Ends numerics name operation result.length (do
      let window ← passing (toInt numerics (windowOf operation))
      passing (rolling numerics result window name)) := by
  cases read : toInt numerics (windowOf operation) with
  | error kind =>
      rw [except_bind_error (passing_error rfl)]
      refine .stopped ?_ (not_reported_builtin kind)
      rw [needs, read]
      rintro ⟨window, impossible, _⟩
      cases impossible
  | ok window =>
      rw [except_bind_eq (passing_ok rfl)]
      by_cases enough : Enough window
      · rcases rolls window enough with ⟨next, done, length⟩
        rw [done]
        exact .returned (needs.mpr ⟨window, read, enough⟩) matched (length.trans after.symm)
      · rw [stops window enough]
        refine .stopped ?_ (not_reported_builtin .index)
        rw [needs, read]
        rintro ⟨other, same, low⟩
        cases same
        exact enough low

/-- Numbers that are converted one by one make an array of one dimension. -/
theorem asarrays_numbers {weights : List Value}
    (numbers : forall weight, weight ∈ weights -> weight.number.isSome = true) :
    asarrays numerics weights =
      (weights.mapM (toFloat numerics)).map (List.map NdArray.scalar) := by
  induction weights with
  | nil => rfl
  | cons weight rest ih =>
      have first : asarray numerics weight = (toFloat numerics weight).map .scalar := by
        have number := numbers weight List.mem_cons_self
        cases weight with
        | bool flag => rfl
        | int value => rfl
        | float value => rfl
        | none | text | list | dict => cases number
      rw [asarrays, first, ih fun other member =>
        numbers other (List.mem_cons_of_mem _ member), List.mapM_cons]
      cases toFloat numerics weight with
      | error kind => rfl
      | ok value =>
          cases rest.mapM (toFloat numerics) with
          | error kind => rfl
          | ok data => rfl

theorem flatMap_scalar (values : List FloatValue) :
    (values.map NdArray.scalar).flatMap NdArray.data = values := by
  induction values with
  | nil => rfl
  | cons value rest ih =>
      rw [List.map_cons, List.flatMap_cons, ih]
      rfl

theorem stack_scalars (value : FloatValue) (rest : List FloatValue) :
    exists array, stack ((value :: rest).map .scalar) = .ok array ∧
      array.shape = [(value :: rest).length] ∧ array.data = value :: rest := by
  have same : (forall array, array ∈ NdArray.scalar value :: rest.map NdArray.scalar ->
      array.shape = (NdArray.scalar value).shape) ∧ (NdArray.scalar value).shape.length < 64 := by
    refine ⟨?_, Nat.succ_pos 63⟩
    intro array member
    rcases List.mem_cons.mp member with same | later
    · rw [same]
    · rcases List.mem_map.mp later with ⟨other, _, equal⟩
      rw [← equal]
      rfl
  refine ⟨_, dif_pos same, ?_, ?_⟩
  · exact congrArg (fun count => [count + 1]) (List.length_map _)
  · exact flatMap_scalar (value :: rest)

theorem ends_weighted {weights : List Value}
    (listed : operation.lookup "weights" = some (.list weights)) (nonempty : weights ≠ [])
    (numbers : forall weight, weight ∈ weights -> weight.number.isSome = true) :
    Ends numerics .weightedAverage operation result.length
      (run numerics result operation .weightedAverage) := by
  have own : weightsOf operation = weights := by
    rw [weightsOf, listed]
  have present : parameter operation "weights" = .ok (.list weights) := by
    rw [parameter, listed]
  rw [run, except_bind_eq present, asarray, asarrays_numbers numbers]
  cases converted : weights.mapM (toFloat numerics) with
  | error kind =>
      refine .stopped ?_ (not_reported_builtin kind)
      rintro ⟨data, impossible, _⟩
      rw [own, converted] at impossible
      cases impossible
  | ok data =>
      have paired : List.Forall₂ (fun _ _ => True) weights data :=
        forall₂_of_mapM converted fun _ _ _ _ => trivial
      have count := paired.length_eq
      have clear : (data.length = result.length -> numerics.sum data ≠ .finite 0) ->
          Clear numerics .weightedAverage operation result.length :=
        fun nonzero => ⟨data, own ▸ converted, nonzero⟩
      cases data with
      | nil => exact absurd (List.length_eq_zero_iff.mp count) nonempty
      | cons value rest =>
          rcases stack_scalars value rest with ⟨array, stacked, shape, same⟩
          have length : arrayLength array = .ok (value :: rest).length := by
            rw [arrayLength, shape]
          have read : ((Except.ok (value :: rest) : Except ErrorKind (List FloatValue)).map
              (List.map NdArray.scalar)).bind stack = .ok array := stacked
          rw [except_bind_eq (passing_ok read), except_bind_eq (passing_ok length)]
          by_cases sized : (value :: rest).length = result.length
          · rw [if_neg (not_not_intro sized), same]
            by_cases zero : numerics.sum (value :: rest) = .finite 0
            · rw [if_pos zero]
              refine .stopped ?_ (not_reported_builtin .zeroDivision)
              rintro ⟨data, again, nonzero⟩
              rw [own, converted] at again
              cases again
              exact nonzero sized zero
            · rw [if_neg zero]
              refine .returned (clear fun _ => zero) (fun other => other ?_) rfl
              rw [own, count, sized]
          · rw [if_pos sized]
            refine .mismatched (clear fun equal => absurd equal sized) ?_ (Or.inr rfl)
            intro equal
            rw [own, count] at equal
            exact sized equal

/-! ### Bounds of parameters -/

theorem atMost_trans {value middle other : FloatValue} (first : atMost value middle = true)
    (second : atMost middle other = true) : atMost value other = true := by
  cases value <;> cases middle <;> cases other <;> simp_all [atMost]
  exact le_trans first second

theorem toFloat_bounded {given : Value} {number : FloatValue} (read : given.number = some number)
    (inside : inPercent number = true) : exists value, toFloat numerics given = .ok value := by
  cases given with
  | bool flag => exact ⟨_, rfl⟩
  | float value => exact ⟨value, rfl⟩
  | int value =>
      cases read
      rcases Bool.and_eq_true_iff.mp inside with ⟨low, high⟩
      have least : (0 : Rat) ≤ value := of_decide_eq_true low
      have most : (value : Rat) ≤ 100 := of_decide_eq_true high
      have lower : 0 ≤ value := by exact_mod_cast least
      have upper : value ≤ 100 := by exact_mod_cast most
      have limit : 100 < floatLimit := by decide +kernel
      refine ⟨.finite (numerics.rounding value), ?_⟩
      rw [toFloat, floatOfInt, if_neg (by omega)]
  | none | text | list | dict => cases read

theorem compare_true {relation : FloatValue -> FloatValue -> Bool} {value other : Value}
    (holds : compare relation value other = .ok true) :
    exists first second, value.number = some first ∧ other.number = some second ∧
      relation first second = true := by
  rw [compare] at holds
  cases first : value.number with
  | none =>
      rw [first] at holds
      cases holds
  | some number =>
      cases second : other.number with
      | none =>
          rw [first, second] at holds
          cases holds
      | some another =>
          rw [first, second] at holds
          exact ⟨number, another, rfl, rfl, Except.ok.inj holds⟩

theorem boundsOrdered_true {lower upper : Value} (ordered : boundsOrdered lower upper = .ok true) :
    (exists number, lower.number = some number ∧ inPercent number = true) ∧
      exists number, upper.number = some number ∧ inPercent number = true := by
  rw [boundsOrdered] at ordered
  rcases except_bind_ok ordered with ⟨positive, low, rest⟩
  cases positive with
  | false => cases rest
  | true =>
      rcases except_bind_ok rest with ⟨smaller, between, last⟩
      cases smaller with
      | false => cases last
      | true =>
          rcases compare_true low with ⟨zero, first, zeroRead, firstRead, least⟩
          rcases compare_true between with ⟨one, other, oneRead, otherRead, order⟩
          rcases compare_true last with ⟨second, top, secondRead, topRead, most⟩
          rw [firstRead] at oneRead
          rw [otherRead] at secondRead
          cases zeroRead
          cases oneRead
          cases secondRead
          cases topRead
          have increasing := (Bool.and_eq_true_iff.mp order).1
          have hundred : atMost (.finite ((1 : Int) : Rat)) (.finite 100) = true := by
            decide
          have zero : atMost (.finite 0) first = true := by
            simpa using least
          refine ⟨⟨first, firstRead, Bool.and_eq_true_iff.mpr ⟨zero, ?_⟩⟩,
            ⟨other, otherRead, Bool.and_eq_true_iff.mpr ⟨atMost_trans zero increasing, ?_⟩⟩⟩
          · exact atMost_trans increasing (atMost_trans most hundred)
          · exact atMost_trans most hundred

theorem ends_percentile
    (bounded : ((operation.lookup "value").bind Value.number).any inPercent = true) :
    Ends numerics .percentile operation result.length
      (run numerics result operation .percentile) := by
  cases found : operation.lookup "value" with
  | none =>
      rw [found] at bounded
      cases bounded
  | some given =>
      rw [found, Option.bind_some] at bounded
      cases read : given.number with
      | none =>
          rw [read] at bounded
          cases bounded
      | some number =>
          rw [read] at bounded
          have present : parameter operation "value" = .ok given := by
            rw [parameter, found]
          have converts : exists value, toFloat numerics given = .ok value :=
            toFloat_bounded read bounded
          rcases converts with ⟨value, converted⟩
          rw [run, except_bind_eq present, except_bind_eq (passing_ok converted)]
          exact .returned trivial (fun other => other) rfl

theorem ends_winsorize
    (ordered : boundsOrdered (lowerOf operation) (upperOf operation) = .ok true) :
    Ends numerics .winsorize operation result.length
      (run numerics result operation .winsorize) := by
  rcases boundsOrdered_true ordered with ⟨⟨low, lowRead, lowInside⟩, ⟨high, highRead, highInside⟩⟩
  have lowers : exists value, toFloat numerics (lowerOf operation) = .ok value :=
    toFloat_bounded lowRead lowInside
  have uppers : exists value, toFloat numerics (upperOf operation) = .ok value :=
    toFloat_bounded highRead highInside
  rcases lowers with ⟨lower, lowConverted⟩
  rcases uppers with ⟨upper, highConverted⟩
  rw [run, except_bind_eq (passing_ok lowConverted), except_bind_eq (passing_ok highConverted)]
  exact .returned trivial (fun other => other) (List.length_map _)

theorem length_ranks (values : List FloatValue) : (ranks values).length = values.length := by
  rw [ranks, List.length_map, argsort, List.length_map, List.length_mergeSort, List.length_zipIdx,
    argsort, List.length_map, List.length_mergeSort, List.length_zipIdx]

theorem length_standardized (values : List FloatValue) :
    (standardized numerics values).length = values.length := by
  rw [standardized]
  split
  · exact List.length_map _
  · exact List.length_map _

/-- Every branch of a checked operation ends as its needs say. -/
theorem run_ends {name : FeatureOperation} (checked : validateParameters name operation = .ok ())
    (nonempty : 0 < result.length) :
    Ends numerics name operation result.length (run numerics result operation name) := by
  have periods : (if (periodsOf operation).within 1 then (.ok () : Except FeatureError Unit)
      else .error (.value (name.text ++ " requires a bounded positive period/window"))) = .ok () ->
      (periodsOf operation).within 1 = true := by
    intro passed
    by_contra outside
    rw [if_neg outside] at passed
    cases passed
  cases name with
  | lag =>
      have matched : ¬ Mismatched numerics .lag operation result.length := fun other => other
      exact ends_lagged Iff.rfl matched rfl (periods checked) (length_lag result)
  | difference =>
      have matched : ¬ Mismatched numerics .difference operation result.length :=
        fun other => other
      have sized : forall count,
          (List.zipWith numerics.subtract result (lag result count)).length = result.length := by
        intro count
        rw [List.length_zipWith, length_lag, min_self]
      exact ends_lagged Iff.rfl matched rfl (periods checked) sized
  | ratio => exact ends_ratio
  | rollingMean =>
      have averages : FeatureOperation.rollingMean.Averages := Or.inl rfl
      exact ends_windowed Iff.rfl (fun other => other) rfl
        (fun window enough => rolling_average_ok averages enough)
        (fun window short => rolling_average_stops averages (not_le.mp short) nonempty)
  | rollingStd =>
      have averages : FeatureOperation.rollingStd.Averages := Or.inr rfl
      exact ends_windowed Iff.rfl (fun other => other) rfl
        (fun window enough => rolling_average_ok averages enough)
        (fun window short => rolling_average_stops averages (not_le.mp short) nonempty)
  | rollingChange =>
      exact ends_windowed Iff.rfl (fun other => other) rfl
        (fun window positive => length_rolling positive result .rollingChange)
        (fun window small => rolling_change_stops (by omega) nonempty)
  | weightedAverage =>
      rw [validateParameters] at checked
      split at checked
      · rename_i weights listed
        split at checked
        · rename_i numeric
          exact ends_weighted listed (by simpa using numeric.1) (List.all_eq_true.mp numeric.2)
        · cases checked
      · cases checked
  | zscore => exact .returned trivial (fun other => other) (length_standardized result)
  | percentile =>
      apply ends_percentile
      by_contra outside
      rw [validateParameters, if_neg outside] at checked
      cases checked
  | rank => exact .returned trivial (fun other => other) (length_ranks result)
  | crossSectionRank => exact .returned trivial (fun other => other) (length_ranks result)
  | winsorize =>
      apply ends_winsorize
      rw [validateParameters] at checked
      rcases except_bind_ok checked with ⟨ordered, done, rest⟩
      cases ordered with
      | false => cases rest
      | true => exact done

end Branches

/-! ## Programs -/

section Programs

variable {numerics : Numerics}

/-- The operations of an accepted specification. -/
def transformationsOf (specification : Dict) : List Dict :=
  match specification.lookup "transformations" with
  | some (.list values) => values.filterMap fun value =>
      match value with
      | .dict operation => some operation
      | _ => none
  | _ => []

/-- What the check establishes of an operation. -/
def Checked (operation : Dict) : Prop :=
  exists name, (operation.lookup "operation").bind operationOf = some name ∧
    validateParameters name operation = .ok ()

theorem Checked.validated {operation : Dict} (checked : Checked operation) :
    validateOperation operation = .ok () := by
  rcases checked with ⟨name, named, passed⟩
  rw [validateOperation]
  cases given : operation.lookup "operation" with
  | none =>
      rw [given] at named
      cases named
  | some value =>
      rw [given, Option.bind_some] at named
      dsimp only
      rw [named]
      exact passed

theorem checked_of_listed {operation : Dict}
    (passed : validateListed (.dict operation) = .ok ()) : Checked operation := by
  rw [validateListed] at passed
  cases given : operation.lookup "operation" with
  | none =>
      rw [given] at passed
      cases passed
  | some value =>
      rw [given, Option.getD_some] at passed
      cases value with
      | none | bool | int | float | list | dict => cases passed
      | text name =>
          cases found : StrEnum.find (α := FeatureOperation) name with
          | none =>
              have unnamed : ¬ (operationOf (.text name)).isSome = true := by
                rw [operationOf, found]
                exact Bool.false_ne_true
              dsimp only at passed
              rw [if_neg unnamed] at passed
              cases passed
          | some operationName =>
              have named : operationOf (.text name) = some operationName := found
              have isNamed : (operationOf (.text name)).isSome = true := by
                rw [named]
                rfl
              dsimp only at passed
              rw [if_pos isNamed, validateOperation, given] at passed
              dsimp only at passed
              rw [named] at passed
              exact ⟨operationName, by rw [given, Option.bind_some, named], passed⟩

theorem executeOperation_ends {operation : Dict} (checked : Checked operation)
    {result : List FloatValue} (nonempty : 0 < result.length) :
    exists name, (operation.lookup "operation").bind operationOf = some name ∧
      Ends numerics name operation result.length
        (executeOperation numerics result operation) := by
  have validated := checked.validated
  rcases checked with ⟨name, named, passed⟩
  refine ⟨name, named, ?_⟩
  rw [executeOperation, except_bind_eq validated, named]
  exact run_ends passed nonempty

theorem lengthAfter_pos (name : FeatureOperation) {length : Nat} (positive : 0 < length) :
    0 < lengthAfter name length := by
  cases name <;> first | exact positive | exact Nat.one_pos

/-- A checked program runs exactly when it has what its runs need. -/
theorem foldlM_runs_iff {transformations : List Dict}
    (checked : forall operation, operation ∈ transformations -> Checked operation)
    {result : List FloatValue} (nonempty : 0 < result.length) :
    Runs (transformations.foldlM (executeOperation numerics) result) <->
      Executable numerics transformations result.length := by
  induction transformations generalizing result with
  | nil => exact ⟨fun _ => trivial, fun _ => trivial⟩
  | cons operation rest ih =>
      rcases executeOperation_ends (checked operation List.mem_cons_self) nonempty
        with ⟨name, named, ends⟩
      have only : Executable numerics (operation :: rest) result.length <->
          Clear numerics name operation result.length ∧
            (¬ Mismatched numerics name operation result.length ->
              Executable numerics rest (lengthAfter name result.length)) := by
        rw [Executable]
        constructor
        · intro all
          exact all name named
        · intro own other found
          rw [named] at found
          cases found
          exact own
      rw [List.foldlM_cons, only]
      cases done : executeOperation numerics result operation with
      | ok next =>
          rw [done] at ends
          cases ends with
          | returned clear matched sized =>
              have later := ih
                (fun other member => checked other (List.mem_cons_of_mem _ member))
                (sized ▸ lengthAfter_pos name nonempty)
              rw [sized] at later
              rw [except_bind_eq rfl, later]
              exact ⟨fun runs => ⟨clear, fun _ => runs⟩, fun needs => needs.2 matched⟩
      | error failure =>
          rw [done] at ends
          rw [except_bind_error rfl]
          cases ends with
          | mismatched clear other reported =>
              exact ⟨fun _ => ⟨clear, fun matched => absurd other matched⟩, fun _ => reported⟩
          | stopped unclear other =>
              exact ⟨fun reported => absurd reported other, fun needs => absurd needs.1 unclear⟩

theorem checked_of_accepted {specification : Dict}
    (accepted : validateFeatureSpec specification = .ok ()) {operation : Dict}
    (member : operation ∈ transformationsOf specification) : Checked operation := by
  unfold validateFeatureSpec at accepted
  dsimp only at accepted
  split at accepted
  · cases accepted
  split at accepted
  · cases accepted
  split at accepted
  · cases accepted
  split at accepted
  · cases accepted
  cases given : specification.lookup "transformations" with
  | none =>
      rw [given] at accepted
      cases accepted
  | some value =>
      rw [given, Option.getD_some] at accepted
      cases value with
      | none | bool | int | float | text | dict => cases accepted
      | list values =>
          rw [transformationsOf, given] at member
          rcases List.mem_filterMap.mp member with ⟨listed, inside, same⟩
          cases listed with
          | none | bool | int | float | text | list => cases same
          | dict found =>
              cases same
              cases values with
              | nil => cases inside
              | cons first rest => exact checked_of_listed (except_forM_ok accepted inside)

variable (numerics) in
/-- An accepted program gives a series on every series that is not empty, or reports a
mismatch of lengths. -/
def ProgramRuns (specification : Dict) (series : List (Option FloatValue)) : Prop :=
  validateFeatureSpec specification = .ok () -> series ≠ [] ->
    Runs (executeOperations numerics series (transformationsOf specification))

/-- A program that the validation accepts runs on a series that is not empty exactly if its
operations are executable on series of this length.  The validation itself does not look at all
of what can raise. -/
theorem programRuns_iff (numerics : Numerics) (specification : Dict)
    (series : List (Option FloatValue)) :
    ProgramRuns numerics specification series <->
      (validateFeatureSpec specification = .ok () -> series ≠ [] ->
        Executable numerics (transformationsOf specification) series.length) := by
  apply imp_congr_right
  intro accepted
  apply imp_congr_right
  intro nonempty
  have length : (series.map fun value => value.getD FloatValue.notANumber).length =
      series.length := List.length_map _
  rw [executeOperations, foldlM_runs_iff fun operation member =>
    checked_of_accepted accepted member]
  · rw [length]
  · rw [length]
    exact List.length_pos_of_ne_nil nonempty

/-- A lag that is given as a window. -/
def windowLag : Dict :=
  [("feature_key", .text "momentum"), ("required_datasets", .list []),
   ("required_graph_paths", .list []),
   ("transformations", .list [.dict [("operation", .text "lag"), ("window", .int 1)]]),
   ("lookback", .int 90), ("lag", .int 1), ("missing_data_policy", .text "mark_missing"),
   ("normalization", .text "train_only_zscore"),
   ("temporal_policy", .dict [("simulation_eligible_only", .bool true)])]

theorem windowLag_raises : ¬ ProgramRuns exactNumerics windowLag [some (.finite 1)] := by
  intro runs
  have outcome : Runs (.error (.key "periods")) := runs rfl (List.cons_ne_nil _ _)
  exact not_reported_key "periods" outcome

end Programs

end Hypothesis
end MarketIntelligence
