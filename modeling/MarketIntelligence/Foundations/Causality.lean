import Mathlib.Data.List.Basic
import Mathlib.Order.MinMax

namespace MarketIntelligence
namespace Foundations
namespace Causality

/-!
# Causal functions on series

A function from series to series is causal when what it gives on a prefix is that prefix of
what it gives on the whole.  Then its first results depend on the first inputs alone.

Causal functions compose.  Loops that carry a state along the series, places that look back
a number of places, and results that start after some places are causal.
-/

universe u v w

variable {α : Type u} {β : Type v} {γ : Type w}

def Causal (process : List α -> List β) : Prop :=
  forall values count, process (values.take count) = (process values).take count

/-- Series that agree on their first places have results that agree there. -/
theorem Causal.agree {process : List α -> List β} (causal : Causal process)
    {values others : List α} {count : Nat} (same : values.take count = others.take count) :
    (process values).take count = (process others).take count := by
  rw [← causal, same, causal]

theorem Causal.comp {outer : List β -> List γ} {inner : List α -> List β} (second : Causal outer)
    (first : Causal inner) : Causal fun values => outer (inner values) := by
  intro values count
  dsimp only
  rw [first, second]

theorem causal_id : Causal fun values : List α => values :=
  fun _ _ => rfl

theorem Causal.zipWith {δ : Type*} {left : List α -> List β} {right : List α -> List γ}
    (combine : β -> γ -> δ) (first : Causal left) (second : Causal right) :
    Causal fun values => List.zipWith combine (left values) (right values) := by
  intro values count
  dsimp only
  rw [first, second, List.take_zipWith]

/-! ## Results place by place -/

section Places

/-- The result of each place, from the whole series. -/
def byPlace (result : List α -> Nat -> β) (values : List α) : List β :=
  (List.range values.length).map (result values)

/-- The values from `start` on and before `stop`. -/
def slice (start stop : Nat) (values : List α) : List α :=
  (values.take stop).drop start

variable {result : List α -> Nat -> β}

theorem causal_byPlace
    (looksBack : forall values count place, place < count -> place < values.length ->
      result (values.take count) place = result values place) :
    Causal (byPlace result) := by
  intro values count
  rw [byPlace, byPlace, ← List.map_take, List.length_take, List.take_range]
  apply List.map_congr_left
  intro place member
  rcases lt_min_iff.mp (List.mem_range.mp member) with ⟨before, inside⟩
  exact looksBack values count place before inside

theorem slice_take {start stop count : Nat} (inside : stop ≤ count) (values : List α) :
    slice start stop (values.take count) = slice start stop values := by
  rw [slice, slice, List.take_take, min_eq_left inside]

theorem getD_take {count place : Nat} (inside : place < count) (values : List α) (missing : α) :
    (values.take count).getD place missing = values.getD place missing := by
  rw [List.getD_eq_getElem?_getD, List.getD_eq_getElem?_getD, List.getElem?_take_of_lt inside]

theorem mem_slice {start stop : Nat} {values : List α} {value : α}
    (member : value ∈ slice start stop values) :
    exists place, start ≤ place ∧ place < stop ∧ values[place]? = some value := by
  rcases List.getElem?_of_mem member with ⟨offset, found⟩
  rw [slice, List.getElem?_drop, List.getElem?_take] at found
  by_cases before : start + offset < stop
  · rw [if_pos before] at found
    exact ⟨start + offset, Nat.le_add_right _ _, before, found⟩
  · rw [if_neg before] at found
    cases found

theorem take_eq_append_slice {start stop : Nat} (order : start ≤ stop) (values : List α) :
    values.take stop = values.take start ++ slice start stop values := by
  have parts := List.take_append_drop start (values.take stop)
  rw [List.take_take, min_eq_left order] at parts
  exact parts.symm

end Places

/-! ## Loops with a state -/

section Scans

variable {σ : Type*}

/-- What the body gives at each value, with the state that it hands on. -/
def scan (body : σ -> α -> σ × β) : σ -> List α -> List β
  | _, [] => []
  | state, value :: rest => (body state value).2 :: scan body (body state value).1 rest

variable {body : σ -> α -> σ × β}

theorem scan_take (state : σ) (values : List α) (count : Nat) :
    scan body state (values.take count) = (scan body state values).take count := by
  induction values generalizing state count with
  | nil => rw [List.take_nil, scan, List.take_nil]
  | cons value rest ih =>
      cases count with
      | zero => rfl
      | succ count =>
          rw [List.take_succ_cons, scan, scan, List.take_succ_cons, ih]

theorem length_scan (state : σ) (values : List α) :
    (scan body state values).length = values.length := by
  induction values generalizing state with
  | nil => rfl
  | cons value rest ih =>
      rw [scan, List.length_cons, ih, List.length_cons]

theorem scan_congr {other : σ -> α -> σ × β} {values : List α}
    (same : forall value, value ∈ values -> forall state, body state value = other state value)
    (state : σ) : scan body state values = scan other state values := by
  induction values generalizing state with
  | nil => rfl
  | cons value rest ih =>
      rw [scan, scan, same value List.mem_cons_self,
        ih fun next member => same next (List.mem_cons_of_mem _ member)]

/-- A loop whose state is known at every place. -/
theorem scan_eq_map_range {values : List α} {state : Nat -> σ} {result : Nat -> β}
    (step : forall place value, values[place]? = some value ->
      body (state place) value = (state (place + 1), result place)) :
    scan body (state 0) values = (List.range values.length).map result := by
  induction values generalizing state result with
  | nil => rfl
  | cons value rest ih =>
      have first := step 0 value rfl
      have others := ih fun place next found => step (place + 1) next found
      rw [scan, first, others, List.length_cons, List.range_succ_eq_map, List.map_cons,
        List.map_map]
      rfl

theorem take_zipIdx (values : List α) (count start : Nat) :
    (values.take count).zipIdx start = (values.zipIdx start).take count := by
  induction values generalizing count start with
  | nil => rw [List.take_nil, List.zipIdx_nil, List.take_nil]
  | cons value rest ih =>
      cases count with
      | zero => rfl
      | succ count =>
          rw [List.take_succ_cons, List.zipIdx_cons, List.zipIdx_cons, List.take_succ_cons,
            ih]

/-- The body may look at the places before its own. -/
theorem causal_scan_zipIdx {body : List α -> σ -> α × Nat -> σ × β}
    (looksBack : forall values count state entry, entry.2 < count ->
      body (values.take count) state entry = body values state entry) (state : σ) :
    Causal fun values => scan (body values) state values.zipIdx := by
  intro values count
  have same : scan (body (values.take count)) state (values.take count).zipIdx =
      scan (body values) state (values.take count).zipIdx := by
    apply scan_congr
    intro entry member state
    apply looksBack
    have inside := List.snd_lt_of_mem_zipIdx member
    rw [List.length_take] at inside
    omega
  dsimp only
  rw [same, take_zipIdx, scan_take]

end Scans

/-! ## Results that start late -/

section WarmUp

/-- Nothing at the first places, and then running results from a seed. -/
def warmedUp (lead : Nat) (step : β -> α -> β) (seed : β) (rest : List α) : List (Option β) :=
  List.replicate lead none ++ (rest.scanl step seed).map some

variable {lead count : Nat} {step : β -> α -> β} {seed : β} {rest : List α}

theorem take_warmedUp_of_le (early : count ≤ lead) :
    (warmedUp lead step seed rest).take count = List.replicate count none := by
  rw [warmedUp, List.take_append_of_le_length (by rw [List.length_replicate]; exact early),
    List.take_replicate, min_eq_left early]

theorem take_warmedUp (late : lead < count) :
    (warmedUp lead step seed rest).take count =
      warmedUp lead step seed (rest.take (count - lead - 1)) := by
  have places : count - lead = count - lead - 1 + 1 := by omega
  rw [warmedUp, warmedUp, List.take_append, List.length_replicate, List.take_replicate,
    min_eq_right late.le, ← List.map_take, places, List.take_scanl, Nat.add_sub_cancel]

/-- The seed is taken from the first values, and the others are worked in one by one. -/
def smoothed (period : Nat) (seed : List α -> β) (step : β -> α -> β) (values : List α) :
    List (Option β) :=
  if values.length < period then List.replicate values.length none
  else warmedUp (period - 1) step (seed (values.take period)) (values.drop period)

theorem causal_smoothed {period : Nat} (positive : 0 < period) (seed : List α -> β)
    (step : β -> α -> β) : Causal (smoothed period seed step) := by
  intro values count
  rw [smoothed, smoothed, List.length_take]
  by_cases short : values.length < period
  · rw [if_pos short, if_pos (lt_of_le_of_lt (min_le_right _ _) short), List.take_replicate]
  by_cases early : count < period
  · rw [if_neg short, if_pos (lt_of_le_of_lt (min_le_left _ _) early),
      take_warmedUp_of_le (by omega), min_eq_left (by omega)]
  · have rest : (values.take count).drop period = (values.drop period).take (count - period) := by
      rw [List.drop_take]
    have places : count - (period - 1) - 1 = count - period := by omega
    rw [if_neg short, if_neg (by omega), take_warmedUp (by omega), List.take_take,
      min_eq_left (by omega), rest, places]

theorem length_smoothed {period : Nat} (positive : 0 < period) {seed : List α -> β}
    {step : β -> α -> β} {values : List α} :
    (smoothed period seed step values).length = values.length := by
  rw [smoothed]
  by_cases short : values.length < period
  · rw [if_pos short, List.length_replicate]
  · rw [if_neg short, warmedUp, List.length_append, List.length_replicate, List.length_map,
      List.length_scanl, List.length_drop]
    omega

/-- Exactly the places from `lead` on are defined. -/
def StartsAt (lead : Nat) (series : List (Option β)) : Prop :=
  forall place value, series[place]? = some value -> (value.isSome = true <-> lead ≤ place)

theorem startsAt_smoothed {period : Nat} (positive : 0 < period) (seed : List α -> β)
    (step : β -> α -> β) (values : List α) :
    StartsAt (period - 1) (smoothed period seed step values) := by
  intro place value found
  rw [smoothed] at found
  split at found
  · rename_i short
    rcases List.getElem?_eq_some_iff.mp found with ⟨inside, same⟩
    rw [List.length_replicate] at inside
    rw [List.getElem_replicate] at same
    subst same
    exact iff_of_false Bool.false_ne_true (by omega)
  · rw [warmedUp, List.getElem?_append, List.length_replicate] at found
    by_cases early : place < period - 1
    · rw [if_pos early, List.getElem?_replicate, if_pos early] at found
      cases found
      exact iff_of_false Bool.false_ne_true (not_le.mpr early)
    · rw [if_neg early, List.getElem?_map] at found
      rcases Option.map_eq_some_iff.mp found with ⟨result, _, same⟩
      subst same
      exact iff_of_true rfl (not_lt.mp early)

theorem StartsAt.take {series : List (Option β)} (starts : StartsAt lead series) (count : Nat) :
    StartsAt lead (series.take count) := by
  intro place value found
  rw [List.getElem?_take] at found
  split at found
  · exact starts place value found
  · cases found

theorem StartsAt.length_filterMap {series : List (Option β)} (starts : StartsAt lead series) :
    (series.filterMap id).length = series.length - lead := by
  induction series generalizing lead with
  | nil => exact (Nat.zero_sub lead).symm
  | cons value rest ih =>
      have first := starts 0 value rfl
      cases lead with
      | zero =>
          have later : StartsAt 0 rest := fun place next found =>
            (starts (place + 1) next found).trans
              (iff_of_true (Nat.zero_le _) (Nat.zero_le _))
          rcases Option.isSome_iff_exists.mp (first.mpr (Nat.le_refl 0)) with ⟨result, same⟩
          subst same
          have length : ((some result :: rest).filterMap id).length =
            (rest.filterMap id).length + 1 := rfl
          rw [length, ih later, List.length_cons, Nat.sub_zero, Nat.sub_zero]
      | succ lead =>
          have later : StartsAt lead rest := fun place next found =>
            (starts (place + 1) next found).trans Nat.succ_le_succ_iff
          have missing : value = none := by
            cases value with
            | none => rfl
            | some result => exact absurd (first.mp rfl) (Nat.not_succ_le_zero lead)
          subst missing
          have same : (none :: rest).filterMap id = rest.filterMap id := rfl
          rw [same, ih later, List.length_cons, Nat.succ_sub_succ]

end WarmUp

/-! ## Results of the defined places -/

section Spreads

/-- Every defined place gets the next of the results. -/
def spread (results : List (Option β)) : Nat -> List (Option α) -> List (Option β) :=
  scan fun next value =>
    match value with
    | none => (next, none)
    | some _ => (next + 1, results.getD next none)

variable {results others : List (Option β)}

theorem spread_congr {values : List (Option α)} {next : Nat}
    (same : forall place, place < next + (values.filterMap id).length ->
      results.getD place none = others.getD place none) :
    spread results next values = spread others next values := by
  induction values generalizing next with
  | nil => rfl
  | cons value rest ih =>
      cases value with
      | none => exact congrArg (none :: ·) (ih same)
      | some found =>
          have here : results.getD next none = others.getD next none :=
            same next (Nat.lt_add_of_pos_right (Nat.succ_pos _))
          have later : spread results (next + 1) rest = spread others (next + 1) rest := by
            apply ih
            intro place before
            apply same
            have length : ((some found :: rest).filterMap id).length =
              (rest.filterMap id).length + 1 := rfl
            omega
          exact congrArg₂ List.cons here later

/-- A defined place gets the result after those of the defined places before it. -/
theorem getElem?_spread {values : List (Option α)} {next place : Nat} {value : Option α}
    (found : values[place]? = some value) :
    (spread results next values)[place]? = some (value.bind fun _ =>
      results.getD (next + ((values.take place).filterMap id).length) none) := by
  induction values generalizing next place with
  | nil => cases found
  | cons head tail ih =>
      cases place with
      | zero =>
          cases found
          cases value with
          | none => rfl
          | some given => rfl
      | succ place =>
          cases head with
          | none => exact ih found
          | some given =>
              have later : (spread results (next + 1) tail)[place]? = some (value.bind fun _ =>
                  results.getD (next + 1 + ((tail.take place).filterMap id).length) none) :=
                ih found
              have length : (((some given :: tail).take (place + 1)).filterMap id).length =
                ((tail.take place).filterMap id).length + 1 := rfl
              rw [length, ← Nat.add_assoc, Nat.add_right_comm]
              exact later

/-- The defined values are processed by themselves, and the results put back in their
places. -/
theorem causal_spread {process : List α -> List (Option β)} (causal : Causal process) :
    Causal fun values : List (Option α) => spread (process (values.filterMap id)) 0 values := by
  intro values count
  have compact : (values.take count).filterMap id <+: values.filterMap id :=
    (List.take_prefix count values).filterMap id
  have results : process ((values.take count).filterMap id) =
      (process (values.filterMap id)).take ((values.take count).filterMap id).length := by
    rw [← causal, ← List.prefix_iff_eq_take.mp compact]
  have same : spread (process ((values.take count).filterMap id)) 0 (values.take count) =
      spread (process (values.filterMap id)) 0 (values.take count) := by
    apply spread_congr
    intro place inside
    rw [results, getD_take (by omega)]
  exact same.trans (scan_take 0 values count)

/-- At the defined places stand the results, in their order. -/
theorem spread_defined {values : List (Option α)} {next : Nat}
    (enough : next + (values.filterMap id).length ≤ results.length) :
    ((values.zip (spread results next values)).filterMap fun entry =>
      entry.1.map fun _ => entry.2) =
      (results.drop next).take (values.filterMap id).length := by
  induction values generalizing next with
  | nil => rfl
  | cons value rest ih =>
      cases value with
      | none => exact ih enough
      | some found =>
          have length : ((some found :: rest).filterMap id).length =
            (rest.filterMap id).length + 1 := rfl
          rw [length] at enough ⊢
          have inside : next < results.length := by omega
          rw [List.drop_eq_getElem_cons inside, List.take_succ_cons,
            ← ih (by omega)]
          have here : results.getD next none = results[next] := by
            rw [List.getD_eq_getElem?_getD, List.getElem?_eq_getElem inside, Option.getD_some]
          rw [← here]
          rfl

theorem spread_undefined {values : List (Option α)} {next : Nat} {found : Option β}
    (member : (none, found) ∈ values.zip (spread results next values)) : found = none := by
  induction values generalizing next with
  | nil => cases member
  | cons value rest ih =>
      cases value with
      | none =>
          rcases List.mem_cons.mp member with same | later
          · exact (Prod.mk.inj same).2
          · exact ih later
      | some given =>
          rcases List.mem_cons.mp member with same | later
          · cases (Prod.mk.inj same).1
          · exact ih later

end Spreads

end Causality
end Foundations
end MarketIntelligence
