import MarketIntelligence.Hypothesis.FeatureDsl

namespace MarketIntelligence
namespace Hypothesis

open Foundations
open Causality
open Loops

/-!
# Features see no later value

The operations that look back along the series are causal: a lag moves values to later
places, and a window ends at its own place.  So is every pipeline of them, and what makes
one raise does not depend on the values.
-/

/-! ## Windows -/

section Windows

variable (numerics : Numerics)

/-- What a window that is not empty gives. -/
def windowResult (name : FeatureOperation) (current : List FloatValue) : FloatValue :=
  match name with
  | .rollingMean => numerics.nanmean current
  | .rollingStd => numerics.nanstd current
  | _ => numerics.subtract (current.getLastD .notANumber) (current.headD .notANumber)

/-- What a windowed operation has at a place: the result over the window that ends there, and no
number before the first whole one. -/
def windowedAt (window : Nat) (name : FeatureOperation) (values : List FloatValue) (place : Nat) :
    FloatValue :=
  if window ≤ place + 1 then
    windowResult numerics name (slice (place + 1 - window) (place + 1) values)
  else .notANumber

variable {numerics}

theorem windowValue_ok {name : FeatureOperation} {current : List FloatValue}
    (nonempty : current ≠ []) :
    windowValue numerics name current = .ok (windowResult numerics name current) := by
  cases current with
  | nil => exact absurd rfl nonempty
  | cons first rest =>
      cases name <;> rfl

/-- A pass at a place after a whole window. -/
theorem rollingStep_place {values result : List FloatValue} {window : Nat}
    {name : FeatureOperation} {place : Nat} (positive : 0 < window) (whole : window ≤ place + 1)
    (inside : place < values.length) (length : result.length = values.length) :
    rollingStep numerics values window name result place =
      .ok (result.set place (windowedAt numerics window name values place)) := by
  have starts : ((place : Int) - window + 1) = ((place + 1 - window : Nat) : Int) := by omega
  have ends : ((place : Int) + 1) = ((place + 1 : Nat) : Int) := by omega
  have current : Indexing.slice ((place : Int) - window + 1) (place + 1) values =
      slice (place + 1 - window) (place + 1) values := by
    rw [starts, ends, Indexing.slice_eq (by omega) (by omega)]
  have nonempty : slice (place + 1 - window) (place + 1) values ≠ [] := by
    intro empty
    have count := congrArg List.length empty
    rw [slice, List.length_drop, List.length_take, List.length_nil] at count
    omega
  rw [rollingStep, current, windowValue_ok nonempty, windowedAt, if_pos whole,
    except_bind_eq rfl, Indexing.assign_nat (length ▸ inside)]
  rfl

/-- The rest of the loop. -/
theorem foldlM_rollingStep {values : List FloatValue} {window : Nat} {name : FeatureOperation}
    (positive : 0 < window) {remaining place : Nat} (last : place + remaining = values.length)
    (whole : window ≤ place + 1) {result : List FloatValue}
    (length : result.length = values.length) :
    (Indexing.indices place values.length).foldlM (rollingStep numerics values window name)
        result =
      .ok (result.take place ++
        (List.range' place remaining).map (windowedAt numerics window name values)) := by
  induction remaining generalizing place result with
  | zero =>
      have none : Indexing.indices place values.length = [] := by
        rw [Indexing.indices, Int.toNat_of_nonpos (by omega)]
        rfl
      rw [none, List.range'_zero, List.map_nil, List.append_nil, List.take_of_length_le (by omega)]
      rfl
  | succ remaining ih =>
      have next : ((place : Int) + 1) = ((place + 1 : Nat) : Int) := by omega
      rw [Indexing.indices_cons (by omega), List.foldlM_cons,
        rollingStep_place positive whole (by omega) length, except_bind_eq rfl, next,
        ih (by omega) (by omega) (by rw [List.length_set]; exact length),
        List.range'_succ, List.map_cons, List.take_add_one, List.getElem?_set_self (by omega),
        List.take_set_of_le (Nat.le_refl place), Option.toList_some, List.append_assoc,
        List.singleton_append]

/-- A positive window gives every place its window. -/
theorem map_windowedAt_early {window count : Nat} (early : count < window)
    (name : FeatureOperation) (values : List FloatValue) :
    (List.range count).map (windowedAt numerics window name values) =
      List.replicate count .notANumber := by
  apply List.eq_replicate_iff.mpr
  refine ⟨by rw [List.length_map, List.length_range], ?_⟩
  intro value member
  rcases List.mem_map.mp member with ⟨place, listed, same⟩
  have before := List.mem_range.mp listed
  rw [← same, windowedAt, if_neg (by omega)]

theorem rolling_positive {window : Nat} (positive : 0 < window) (values : List FloatValue)
    (name : FeatureOperation) :
    rolling numerics values window name =
      .ok (byPlace (windowedAt numerics window name) values) := by
  rw [rolling, byPlace]
  by_cases short : values.length < window
  · have none : Indexing.indices (window - 1) values.length = [] := by
      rw [Indexing.indices, Int.toNat_of_nonpos (by omega)]
      rfl
    rw [none, map_windowedAt_early short]
    rfl
  · have lead : (window : Int) - 1 = ((window - 1 : Nat) : Int) := by omega
    have count : window - 1 + (values.length - (window - 1)) = values.length := by omega
    have places : List.range values.length =
        List.range (window - 1) ++ List.range' (window - 1) (values.length - (window - 1)) := by
      have whole : List.range' 0 (window - 1) ++
          List.range' (0 + (window - 1)) (values.length - (window - 1)) =
          List.range' 0 (window - 1 + (values.length - (window - 1))) := List.range'_append_1
      rw [Nat.zero_add, count, ← List.range_eq_range', ← List.range_eq_range'] at whole
      exact whole.symm
    rw [lead, foldlM_rollingStep positive count (by omega) List.length_replicate, places,
      List.map_append, map_windowedAt_early (by omega), List.take_replicate,
      min_eq_left (by omega)]

theorem causal_windowedAt (window : Nat) (name : FeatureOperation) :
    Causal (byPlace (windowedAt numerics window name)) := by
  apply causal_byPlace
  intro values count place before _
  rw [windowedAt, windowedAt, slice_take before]

end Windows

/-! ## Lags -/

theorem causal_lag (periods : Nat) : Causal fun values => lag values periods := by
  intro values count
  dsimp only
  rw [lag, lag, List.length_take, List.take_append, List.length_replicate, List.take_replicate,
    List.take_take, List.take_take]
  refine congrArg₂ (· ++ ·) (congrArg (List.replicate · _) ?_) (congrArg (List.take · values) ?_)
  · omega
  · omega

theorem length_lag (values : List FloatValue) (periods : Nat) :
    (lag values periods).length = values.length := by
  rw [lag, List.length_append, List.length_replicate, List.length_take]
  omega

/-! ## Pipelines -/

section Pipelines

variable {numerics : Numerics}

def FeatureOperation.looksBack : FeatureOperation -> Bool
  | .lag | .difference | .rollingMean | .rollingStd | .rollingChange => true
  | _ => false

/-- An operation that looks back, with every parameter that it names a positive integer.  A
negative one can make a slice reach beyond its place. -/
structure PositivePeriods (operation : Dict) : Prop where
  looksBack : exists name : FeatureOperation, name.looksBack ∧
    operation.lookup "operation" = some (.text name.text)
  periods : forall given, operation.lookup "periods" = some given ->
    exists count : Nat, 0 < count ∧ given = .int count
  window : forall given, operation.lookup "window" = some given ->
    exists count : Nat, 0 < count ∧ given = .int count

/-- The operation raises whatever the values are, or gives causal results. -/
def Uniform (step : List FloatValue -> Except FeatureError (List FloatValue)) : Prop :=
  (exists failure, forall values, step values = .error failure) ∨
    exists process, Causal process ∧ forall values, step values = .ok (process values)

theorem windowOf_positive {operation : Dict} (positive : PositivePeriods operation) :
    exists count : Nat, 0 < count ∧ windowOf operation = .int count := by
  rw [windowOf]
  cases window : operation.lookup "window" with
  | some given => exact positive.window given window
  | none =>
      cases periods : operation.lookup "periods" with
      | some given => exact positive.periods given periods
      | none => exact ⟨1, Nat.one_pos, rfl⟩

theorem toInt_nat (count : Nat) : passing (toInt numerics (.int count)) = .ok (count : Int) := rfl

/-- A lag without its parameter raises on every series, and else moves the values. -/
theorem uniform_lagged {operation : Dict} (positive : PositivePeriods operation)
    {step : List FloatValue -> Nat -> List FloatValue}
    (causal : forall periods, Causal fun values => step values periods) :
    Uniform fun values => (do
      let periods ← passing (toInt numerics (← parameter operation "periods"))
      return step values periods.toNat) := by
  cases found : operation.lookup "periods" with
  | none =>
      refine Or.inl ⟨.key "periods", fun values => ?_⟩
      rw [parameter, found]
      rfl
  | some given =>
      rcases positive.periods given found with ⟨count, _, same⟩
      refine Or.inr ⟨fun values => step values count, causal count, fun values => ?_⟩
      have read : parameter operation "periods" = .ok (.int count) := by
        rw [parameter, found, same]
      dsimp only
      rw [except_bind_eq read, except_bind_eq (toInt_nat count)]
      rfl

theorem uniform_rolling {operation : Dict} (positive : PositivePeriods operation)
    (name : FeatureOperation) :
    Uniform fun values => (do
      let window ← passing (toInt numerics (windowOf operation))
      passing (rolling numerics values window name)) := by
  rcases windowOf_positive positive with ⟨count, counted, same⟩
  refine Or.inr ⟨byPlace (windowedAt numerics count name), causal_windowedAt count name,
    fun values => ?_⟩
  dsimp only
  rw [same, except_bind_eq (toInt_nat count), rolling_positive counted]
  rfl

theorem uniform_run {operation : Dict} (positive : PositivePeriods operation)
    {name : FeatureOperation} (looksBack : name.looksBack) :
    Uniform fun values => run numerics values operation name := by
  cases name with
  | lag => exact uniform_lagged positive causal_lag
  | difference =>
      exact uniform_lagged positive fun periods =>
        causal_id.zipWith numerics.subtract (causal_lag periods)
  | rollingMean => exact uniform_rolling positive .rollingMean
  | rollingStd => exact uniform_rolling positive .rollingStd
  | rollingChange => exact uniform_rolling positive .rollingChange
  | ratio | weightedAverage | zscore | percentile | rank | winsorize | crossSectionRank =>
      cases looksBack

theorem uniform_executeOperation {operation : Dict} (positive : PositivePeriods operation) :
    Uniform fun values => executeOperation numerics values operation := by
  rcases positive.looksBack with ⟨name, looksBack, named⟩
  have found : (operation.lookup "operation").bind operationOf = some name := by
    rw [named]
    exact StrEnum.find_value name
  cases validated : validateOperation operation with
  | error failure =>
      refine Or.inl ⟨failure, fun values => ?_⟩
      dsimp only
      rw [executeOperation, validated]
      rfl
  | ok passed =>
      have same : forall values,
          executeOperation numerics values operation = run numerics values operation name := by
        intro values
        rw [executeOperation, validated, except_bind_eq rfl, found]
      rcases uniform_run positive looksBack with ⟨failure, stops⟩ | ⟨process, causal, gives⟩
      · exact Or.inl ⟨failure, fun values => (same values).trans (stops values)⟩
      · exact Or.inr ⟨process, causal, fun values => (same values).trans (gives values)⟩

/-- The results agree on their first places, or both raise the same error.  What comes after
these places is left open. -/
inductive SamePrefix (count : Nat) :
    Except FeatureError (List FloatValue) -> Except FeatureError (List FloatValue) -> Prop where
  | returned {values others : List FloatValue} (same : values.take count = others.take count) :
      SamePrefix count (.ok values) (.ok others)
  | raised (failure : FeatureError) : SamePrefix count (.error failure) (.error failure)

theorem foldlM_samePrefix {count : Nat} {transformations : List Dict}
    (positive : forall operation, operation ∈ transformations -> PositivePeriods operation)
    {values others : List FloatValue} (same : values.take count = others.take count) :
    SamePrefix count (transformations.foldlM (executeOperation numerics) values)
      (transformations.foldlM (executeOperation numerics) others) := by
  induction transformations generalizing values others with
  | nil => exact .returned same
  | cons operation rest ih =>
      rw [List.foldlM_cons, List.foldlM_cons]
      rcases uniform_executeOperation (positive operation List.mem_cons_self) with
        ⟨failure, stops⟩ | ⟨process, causal, gives⟩
      · have first : executeOperation numerics values operation = .error failure := stops values
        have second : executeOperation numerics others operation = .error failure := stops others
        rw [first, second]
        exact .raised failure
      · rw [except_bind_eq (gives values), except_bind_eq (gives others)]
        exact ih
          (fun other member => positive other (List.mem_cons_of_mem _ member)) (causal.agree same)

/-- Series that agree on their first places have features that agree there, whatever the later
places are, for every pipeline of operations that look back. -/
theorem executeOperations_causal (numerics : Numerics) {transformations : List Dict}
    (positive : forall operation, operation ∈ transformations -> PositivePeriods operation)
    {values others : List (Option FloatValue)} {count : Nat}
    (same : values.take count = others.take count) :
    SamePrefix count (executeOperations numerics values transformations)
      (executeOperations numerics others transformations) := by
  apply foldlM_samePrefix positive
  rw [← List.map_take, same, List.map_take]

/-- A lag and a mean on a series that goes on and one that ends. -/
theorem laggedMean_causal :
    SamePrefix 2
      (executeOperations exactNumerics [some (.finite 1), none, some (.finite 5)]
        [[("operation", .text "lag"), ("periods", .int 1)],
          [("operation", .text "rolling_mean"), ("window", .int 2)]])
      (executeOperations exactNumerics [some (.finite 1), none]
        [[("operation", .text "lag"), ("periods", .int 1)],
          [("operation", .text "rolling_mean"), ("window", .int 2)]]) :=
  executeOperations_causal exactNumerics (by
    intro operation member
    rcases List.mem_cons.mp member with same | later
    · subst same
      exact ⟨⟨.lag, rfl, rfl⟩, fun _ found => ⟨1, Nat.one_pos, (Option.some.inj found).symm⟩,
        (fun _ found => by cases found)⟩
    · rw [List.mem_singleton.mp later]
      exact ⟨⟨.rollingMean, rfl, rfl⟩, (fun _ found => by cases found),
        fun _ found => ⟨2, Nat.two_pos, (Option.some.inj found).symm⟩⟩) rfl

end Pipelines

end Hypothesis
end MarketIntelligence
