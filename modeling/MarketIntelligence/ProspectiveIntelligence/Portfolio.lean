import MarketIntelligence.Core.Values
import MarketIntelligence.Foundations.Tables
import Mathlib.Algebra.BigOperators.Ring.List
import Mathlib.Algebra.Order.BigOperators.Group.List
import Mathlib.Algebra.Order.Field.Basic
import Mathlib.Tactic.Linarith
import Mathlib.Tactic.Positivity

namespace MarketIntelligence
namespace ProspectiveIntelligence

open Foundations

/-!
# Portfolio construction

The investable part of a portfolio is shared in proportion to the scores, with a cap on
every position.  What the caps leave over is added in rounds, in equal parts, to the
positions below the cap.  A position that comes close to the cap leaves the rounds.

A round either removes a position or uses up what remains, so there are finitely many.
Between rounds a position below the cap is at least as large as every position of a lower
score, and this with the total is what the rounds keep.
-/

/-! ## The rounds -/

/-- The `1e-9` of the loop. -/
def tolerance : Rat := 1 / 1000000000

theorem tolerance_pos : 0 < tolerance := by
  unfold tolerance
  norm_num

/-- The weights so far, a dictionary in its order, with what is left to give out and the names
that may still take some of it. -/
structure Book where
  weights : List (String × Rat)
  remaining : Rat
  uncapped : List String
  deriving DecidableEq, Repr

/-- `entries[key]`, for a key that is there. -/
def amount (key : String) (entries : List (String × Rat)) : Rat :=
  ((Tables.lookup Prod.fst key entries).map Prod.snd).getD 0

theorem amount_of_mem {key : String} {value : Rat} {entries : List (String × Rat)}
    (distinct : (entries.map Prod.fst).Nodup) (member : (key, value) ∈ entries) :
    amount key entries = value := by
  rw [amount, Tables.lookup_of_mem distinct member]
  rfl

/-- `sum(entries.values())` -/
def total (entries : List (String × Rat)) : Rat := (entries.map Prod.snd).sum

section Rounds

variable (maxPosition : Rat)

/-- What a position gets of an equal part. -/
def share (add weight : Rat) : Rat := min add (maxPosition - weight)

/-- The position comes close to the cap. -/
def Caps (add weight : Rat) : Prop :=
  maxPosition - tolerance ≤ weight + share maxPosition add weight

instance (add weight : Rat) : Decidable (Caps maxPosition add weight) :=
  inferInstanceAs (Decidable (_ ≤ _))

/-- The body of the inner loop: a name takes its part, or what its cap leaves room for, and is
then out of the rounds. -/
def topUp (add : Rat) (book : Book) (key : String) : Book :=
  let delta := share maxPosition add (amount key book.weights)
  { weights := Tables.put Prod.fst (key, amount key book.weights + delta) book.weights
    remaining := book.remaining - delta
    uncapped := if Caps maxPosition add (amount key book.weights) then book.uncapped.erase key
      else book.uncapped }

/-- The equal part of what remains. -/
def Book.part (book : Book) : Rat := book.remaining / book.uncapped.length

/-- The body of the outer loop: every name that is not at its cap yet is offered an equal part.
-/
def round (book : Book) : Book :=
  book.uncapped.foldl (topUp maxPosition book.part) book

/-- The outer loop goes on. -/
def Book.Open (book : Book) : Prop :=
  tolerance < book.remaining ∧ book.uncapped ≠ []

instance (book : Book) : Decidable book.Open :=
  inferInstanceAs (Decidable (_ ∧ _))

variable {maxPosition}

theorem share_of_not_caps {add weight : Rat} (below : ¬ Caps maxPosition add weight) :
    share maxPosition add weight = add := by
  rcases min_choice add (maxPosition - weight) with part | rest
  · exact part
  · exfalso
    apply below
    rw [Caps, share, rest, add_sub_cancel]
    exact (sub_lt_self maxPosition tolerance_pos).le

theorem share_nonneg {add weight : Rat} (nonneg : 0 ≤ add) (below : weight ≤ maxPosition) :
    0 ≤ share maxPosition add weight :=
  le_min nonneg (sub_nonneg.mpr below)

theorem add_share (add weight : Rat) :
    weight + share maxPosition add weight = min (weight + add) maxPosition := by
  rw [share, ← min_add_add_left, add_sub_cancel]

theorem add_share_mono {add smaller larger : Rat} (order : smaller ≤ larger) :
    smaller + share maxPosition add smaller ≤ larger + share maxPosition add larger := by
  rw [add_share, add_share]
  exact min_le_min_right _ (add_le_add_left order add)

/-! ### One position -/

theorem topUp_sublist (add : Rat) (book : Book) (key : String) :
    (topUp maxPosition add book key).uncapped.Sublist book.uncapped := by
  rw [topUp]
  simp only
  split
  · exact List.erase_sublist
  · exact List.Sublist.refl _

theorem topUp_amount (add : Rat) (book : Book) (key other : String) :
    amount other (topUp maxPosition add book key).weights =
      if key = other then amount key book.weights + share maxPosition add (amount key book.weights)
      else amount other book.weights := by
  rw [topUp, amount, Tables.lookup_put]
  split <;> rfl

theorem mem_topUp_uncapped {add : Rat} {book : Book} (distinct : book.uncapped.Nodup)
    (key other : String) :
    other ∈ (topUp maxPosition add book key).uncapped <->
      other ∈ book.uncapped ∧ ¬ (other = key ∧ Caps maxPosition add (amount key book.weights)) := by
  rw [topUp]
  by_cases caps : Caps maxPosition add (amount key book.weights)
  · rw [if_pos caps, distinct.mem_erase_iff, and_comm, and_iff_left caps]
  · rw [if_neg caps, and_iff_left fun both => caps both.2]

theorem topUp_conserves {book : Book} {key : String}
    (listed : key ∈ book.weights.map Prod.fst) (add : Rat) :
    (topUp maxPosition add book key).weights.map Prod.fst = book.weights.map Prod.fst ∧
      total (topUp maxPosition add book key).weights + (topUp maxPosition add book key).remaining =
        total book.weights + book.remaining := by
  constructor
  · cases found : Tables.lookup Prod.fst key book.weights with
    | none =>
        exact absurd listed (Tables.lookup_isNone_iff.mp (Option.isNone_iff_eq_none.mpr found))
    | some row => exact Tables.map_put found
  · have written := Tables.sum_put Prod.fst Prod.snd
      (key, amount key book.weights + share maxPosition add (amount key book.weights)) book.weights
    have before : ((Tables.lookup Prod.fst key book.weights).map Prod.snd).getD 0 =
        amount key book.weights := rfl
    rw [before] at written
    rw [topUp, total, total]
    linarith

/-! ### All positions of a round -/

theorem foldl_topUp_sublist (add : Rat) (keys : List String) (book : Book) :
    (keys.foldl (topUp maxPosition add) book).uncapped.Sublist book.uncapped := by
  induction keys generalizing book with
  | nil => exact List.Sublist.refl _
  | cons key rest ih =>
      exact (ih _).trans (topUp_sublist add book key)

theorem foldl_topUp_amount {keys : List String} (distinct : keys.Nodup) (add : Rat) (book : Book)
    (other : String) :
    amount other (keys.foldl (topUp maxPosition add) book).weights =
      if other ∈ keys then
        amount other book.weights + share maxPosition add (amount other book.weights)
      else amount other book.weights := by
  induction keys generalizing book with
  | nil => rw [if_neg List.not_mem_nil, List.foldl_nil]
  | cons key rest ih =>
      rcases List.nodup_cons.mp distinct with ⟨fresh, others⟩
      rw [List.foldl_cons, ih others, topUp_amount]
      by_cases same : key = other
      · subst same
        rw [if_neg fresh, if_pos rfl, if_pos List.mem_cons_self]
      · rw [if_neg same]
        simp only [List.mem_cons, Ne.symm same, false_or]

theorem mem_foldl_topUp_uncapped {keys : List String} {book : Book} (distinct : keys.Nodup)
    (apart : book.uncapped.Nodup) (add : Rat) (other : String) :
    other ∈ (keys.foldl (topUp maxPosition add) book).uncapped <->
      other ∈ book.uncapped ∧
        ¬ (other ∈ keys ∧ Caps maxPosition add (amount other book.weights)) := by
  induction keys generalizing book with
  | nil =>
      rw [List.foldl_nil, and_iff_left fun both => List.not_mem_nil both.1]
  | cons key rest ih =>
      rcases List.nodup_cons.mp distinct with ⟨fresh, others⟩
      rw [List.foldl_cons, ih others ((topUp_sublist add book key).nodup apart),
        mem_topUp_uncapped apart, topUp_amount, and_assoc, List.mem_cons]
      by_cases same : key = other
      · subst same
        rw [if_pos rfl, and_iff_left fun both => fresh both.1, eq_self, true_or]
      · rw [if_neg same]
        simp only [Ne.symm same, false_and, not_false_eq_true, true_and, false_or]

theorem foldl_topUp_remaining {keys : List String} (distinct : keys.Nodup) (add : Rat)
    (book : Book) :
    (keys.foldl (topUp maxPosition add) book).remaining = book.remaining -
      (keys.map fun key => share maxPosition add (amount key book.weights)).sum := by
  induction keys generalizing book with
  | nil => rw [List.foldl_nil, List.map_nil, List.sum_nil, sub_zero]
  | cons key rest ih =>
      rcases List.nodup_cons.mp distinct with ⟨fresh, others⟩
      have same : (rest.map fun other =>
          share maxPosition add (amount other (topUp maxPosition add book key).weights)) =
          rest.map fun other => share maxPosition add (amount other book.weights) := by
        apply List.map_congr_left
        intro other member
        have different : key ≠ other := fun equal => fresh (equal ▸ member)
        rw [topUp_amount, if_neg different]
      rw [List.foldl_cons, ih others, same, List.map_cons, List.sum_cons, topUp]
      exact sub_sub _ _ _

theorem foldl_topUp_conserves {keys : List String} {book : Book}
    (listed : forall key, key ∈ keys -> key ∈ book.weights.map Prod.fst) (add : Rat) :
    (keys.foldl (topUp maxPosition add) book).weights.map Prod.fst = book.weights.map Prod.fst ∧
      total (keys.foldl (topUp maxPosition add) book).weights +
        (keys.foldl (topUp maxPosition add) book).remaining =
        total book.weights + book.remaining := by
  induction keys generalizing book with
  | nil => exact ⟨rfl, rfl⟩
  | cons key rest ih =>
      rcases topUp_conserves (listed key List.mem_cons_self) add with ⟨names, conserved⟩
      rcases ih fun other member =>
        names ▸ listed other (List.mem_cons_of_mem _ member) with ⟨later, kept⟩
      exact ⟨later.trans names, kept.trans conserved⟩

/-- A round removes a position, or every position gets its whole part. -/
theorem foldl_topUp_removes (add : Rat) (keys : List String) (book : Book)
    (listed : forall key, key ∈ keys -> key ∈ book.uncapped) :
    (keys.foldl (topUp maxPosition add) book).uncapped.length < book.uncapped.length ∨
      (keys.foldl (topUp maxPosition add) book).remaining = book.remaining - keys.length * add := by
  induction keys generalizing book with
  | nil =>
      right
      rw [List.foldl_nil, List.length_nil, Nat.cast_zero, zero_mul, sub_zero]
  | cons key rest ih =>
      rw [List.foldl_cons]
      by_cases caps : Caps maxPosition add (amount key book.weights)
      · left
        refine lt_of_le_of_lt (foldl_topUp_sublist add rest _).length_le ?_
        rw [topUp, if_pos caps, List.length_erase_of_mem (listed key List.mem_cons_self)]
        have nonempty := List.length_pos_of_mem (listed key List.mem_cons_self)
        omega
      · have same : (topUp maxPosition add book key).uncapped = book.uncapped := by
          rw [topUp, if_neg caps]
        have taken : (topUp maxPosition add book key).remaining = book.remaining - add := by
          rw [topUp, share_of_not_caps caps]
        rcases ih (topUp maxPosition add book key) (fun other member =>
          same ▸ listed other (List.mem_cons_of_mem _ member)) with fewer | used
        · left
          rw [same] at fewer
          exact fewer
        · right
          rw [used, taken, List.length_cons, Nat.cast_succ]
          ring

theorem round_amount {book : Book} (distinct : book.uncapped.Nodup) (key : String) :
    amount key (round maxPosition book).weights =
      if key ∈ book.uncapped then
        amount key book.weights + share maxPosition book.part (amount key book.weights)
      else amount key book.weights :=
  foldl_topUp_amount distinct book.part book key

theorem mem_round_uncapped {book : Book} (distinct : book.uncapped.Nodup) (key : String) :
    key ∈ (round maxPosition book).uncapped <->
      key ∈ book.uncapped ∧ ¬ Caps maxPosition book.part (amount key book.weights) := by
  rw [round, mem_foldl_topUp_uncapped distinct distinct]
  exact and_congr_right fun member => not_congr (and_iff_right member)

theorem length_mul_part {book : Book} (nonempty : book.uncapped ≠ []) :
    book.uncapped.length * book.part = book.remaining := by
  have length_ne : (book.uncapped.length : Rat) ≠ 0 := by
    exact_mod_cast (List.length_pos_of_ne_nil nonempty).ne'
  exact mul_div_cancel₀ _ length_ne

theorem round_removes {book : Book} (nonempty : book.uncapped ≠ []) :
    (round maxPosition book).uncapped.length < book.uncapped.length ∨
      (round maxPosition book).remaining = 0 := by
  rcases foldl_topUp_removes book.part book.uncapped book (fun key member => member)
    with fewer | used
  · exact Or.inl fewer
  · right
    rw [round, used, length_mul_part nonempty, sub_self]

/-- The rounds that may still come. -/
def Book.rounds (book : Book) : Nat :=
  book.uncapped.length + if tolerance < book.remaining then 1 else 0

theorem rounds_round {book : Book} (going : book.Open) :
    (round maxPosition book).rounds < book.rounds := by
  have shorter : (round maxPosition book).uncapped.length ≤ book.uncapped.length :=
    (foldl_topUp_sublist book.part book.uncapped book).length_le
  rw [Book.rounds, Book.rounds, if_pos going.1]
  have outcome : (round maxPosition book).uncapped.length < book.uncapped.length ∨
      (round maxPosition book).remaining = 0 := round_removes going.2
  rcases outcome with fewer | used
  · split <;> omega
  · have spent : ¬ tolerance < (round maxPosition book).remaining := by
      rw [used]
      exact not_lt.mpr tolerance_pos.le
    rw [if_neg spent]
    omega

/-- The outer loop, which hands out what is left in rounds.  Each round takes a name off the list
or uses up the rest, so it ends. -/
def redistribute (maxPosition : Rat) (book : Book) : Book :=
  if book.Open then redistribute maxPosition (round maxPosition book) else book
termination_by book.rounds
decreasing_by exact rounds_round ‹_›

/-! ## What the rounds keep -/

/-- A position that left the rounds is close to the cap, and one that is still in them has
all positions of lower scores in them and below it. -/
structure Sound (raw : String -> Rat) (names : List String) (maxPosition investable : Rat)
    (book : Book) : Prop where
  keys : book.weights.map Prod.fst = names
  bounds : forall key, key ∈ names ->
    0 ≤ amount key book.weights ∧ amount key book.weights ≤ maxPosition
  conserved : total book.weights + book.remaining = investable
  remaining : 0 ≤ book.remaining
  listed : forall key, key ∈ book.uncapped -> key ∈ names
  distinct : book.uncapped.Nodup
  capped : forall key, key ∈ names -> key ∉ book.uncapped ->
    maxPosition - tolerance ≤ amount key book.weights
  ordered : forall key other, key ∈ names -> other ∈ names -> raw other ≤ raw key ->
    key ∈ book.uncapped ->
    other ∈ book.uncapped ∧ amount other book.weights ≤ amount key book.weights

section Invariant

variable {raw : String -> Rat} {names : List String} {investable : Rat} {book : Book}

theorem part_nonneg (nonneg : 0 ≤ book.remaining) : 0 ≤ book.part :=
  div_nonneg nonneg (Nat.cast_nonneg _)

theorem round_remaining (sound : Sound raw names maxPosition investable book)
    (nonempty : book.uncapped ≠ []) : 0 ≤ (round maxPosition book).remaining := by
  have parts : (book.uncapped.map fun key =>
      share maxPosition book.part (amount key book.weights)).sum ≤
      (book.uncapped.map fun key => share maxPosition book.part (amount key book.weights)).length •
        book.part := by
    apply List.sum_le_card_nsmul
    intro given member
    rcases List.mem_map.mp member with ⟨key, _, same⟩
    exact same ▸ min_le_left _ _
  rw [List.length_map, nsmul_eq_mul, length_mul_part nonempty] at parts
  rw [round, foldl_topUp_remaining sound.distinct]
  exact sub_nonneg.mpr parts

theorem round_sound (sound : Sound raw names maxPosition investable book)
    (nonempty : book.uncapped ≠ []) :
    Sound raw names maxPosition investable (round maxPosition book) := by
  have inside : forall key, key ∈ book.uncapped -> key ∈ book.weights.map Prod.fst :=
    fun key member => sound.keys ▸ sound.listed key member
  have conserves : (round maxPosition book).weights.map Prod.fst = book.weights.map Prod.fst ∧
      total (round maxPosition book).weights + (round maxPosition book).remaining =
        total book.weights + book.remaining := foldl_topUp_conserves inside book.part
  have positive := part_nonneg sound.remaining
  refine ⟨conserves.1.trans sound.keys, ?_, conserves.2.trans sound.conserved,
    round_remaining sound nonempty, ?_, (foldl_topUp_sublist _ _ _).nodup sound.distinct, ?_, ?_⟩
  · intro key member
    rcases sound.bounds key member with ⟨nonneg, below⟩
    rw [round_amount sound.distinct]
    split
    · constructor
      · exact add_nonneg nonneg (share_nonneg positive below)
      · rw [add_share]
        exact min_le_right _ _
    · exact ⟨nonneg, below⟩
  · intro key member
    exact sound.listed key ((mem_round_uncapped sound.distinct key).mp member).1
  · intro key member left
    rw [round_amount sound.distinct]
    by_cases before : key ∈ book.uncapped
    · rw [if_pos before]
      by_contra apart
      exact left ((mem_round_uncapped sound.distinct key).mpr ⟨before, apart⟩)
    · rw [if_neg before]
      exact sound.capped key member before
  · intro key other member otherMember order stays
    rcases (mem_round_uncapped sound.distinct key).mp stays with ⟨before, below⟩
    rcases sound.ordered key other member otherMember order before with ⟨otherBefore, smaller⟩
    have grows : amount other book.weights +
        share maxPosition book.part (amount other book.weights) ≤
        amount key book.weights + share maxPosition book.part (amount key book.weights) :=
      add_share_mono smaller
    constructor
    · refine (mem_round_uncapped sound.distinct other).mpr ⟨otherBefore, fun caps => below ?_⟩
      exact le_trans caps grows
    · rw [round_amount sound.distinct, round_amount sound.distinct, if_pos before,
        if_pos otherBefore]
      exact grows

/-- The loop ends, and its last book is as the first. -/
theorem redistribute_sound (sound : Sound raw names maxPosition investable book) :
    Sound raw names maxPosition investable (redistribute maxPosition book) ∧
      ¬ (redistribute maxPosition book).Open := by
  induction book using redistribute.induct maxPosition with
  | case1 book going ih =>
      rw [redistribute, if_pos going]
      exact ih (round_sound sound going.2)
  | case2 book closed =>
      rw [redistribute, if_neg closed]
      exact ⟨sound, closed⟩

end Invariant
end Rounds

/-! ## The plan -/

/-- A dictionary of scores names every entity once. -/
structure ScoreMap where
  entries : List (String × Rat)
  distinct : (entries.map Prod.fst).Nodup

def ScoreMap.names (scores : ScoreMap) : List String := scores.entries.map Prod.fst

/-- The keyword arguments. -/
structure PortfolioOptions where
  method : String := "SCORE_CAPPED"
  maxPosition : Rat := 1 / 5
  minCash : Rat := 1 / 10
  deriving DecidableEq, Repr

/-- What is returned.  The last two entries are absent when there are no scores. -/
structure PortfolioPlan where
  weights : List (String × Rat)
  cashWeight : Rat
  method : String
  noShorting : Option Bool
  noLeverage : Option Bool
  deriving DecidableEq, Repr

structure ValueError where
  text : String
  deriving DecidableEq, Repr

def supportedMethods : List String :=
  ["EQUAL_WEIGHT", "SCORE_CAPPED", "VOLATILITY_SCALED", "RISK_PARITY", "MINIMUM_VARIANCE"]

section Plan

variable (scores : ScoreMap) (options : PortfolioOptions)

def rawScore (score : Rat) : Rat :=
  if options.method = "EQUAL_WEIGHT" then 1 else max 0 score

def rawScores : List (String × Rat) :=
  scores.entries.map fun entry => (entry.1, rawScore options entry.2)

/-- `sum(raw.values()) or 1.0` -/
def scoreTotal : Rat :=
  if total (rawScores scores options) = 0 then 1 else total (rawScores scores options)

def investable : Rat := 1 - options.minCash

def openingWeight (raw : Rat) : Rat :=
  min options.maxPosition (investable options * raw / scoreTotal scores options)

/-- The book before the loop. -/
def openingBook : Book :=
  let weights := (rawScores scores options).map fun entry =>
    (entry.1, openingWeight scores options entry.2)
  { weights := weights
    remaining := investable options - total weights
    uncapped := (weights.filter fun entry => entry.2 < options.maxPosition).map Prod.fst }

/-- The weights before the final rounding. -/
def finalWeights : List (String × Rat) :=
  (redistribute options.maxPosition (openingBook scores options)).weights

/-- `construct_portfolio` -/
def constructPortfolio : Except ValueError PortfolioPlan :=
  if options.method ∉ supportedMethods then .error ⟨"unsupported construction method"⟩
  else if scores.entries = [] then
    .ok { weights := [], cashWeight := 1, method := options.method, noShorting := none
          noLeverage := none }
  else
    let weights := finalWeights scores options
    .ok { weights := weights.map fun entry => (entry.1, DecimalGrid.roundTo shareUnit entry.2)
          cashWeight := DecimalGrid.roundTo shareUnit (1 - total weights)
          method := options.method
          noShorting := some (weights.all fun entry => 0 ≤ entry.2)
          noLeverage := some (total weights ≤ 1) }

variable {scores options}

theorem map_rawScores :
    (rawScores scores options).map Prod.fst = scores.names := by
  rw [rawScores, List.map_map]
  rfl

theorem rawScore_nonneg (score : Rat) : 0 ≤ rawScore options score := by
  rw [rawScore]
  split
  · exact zero_le_one
  · exact le_max_left 0 score

theorem rawScore_mono {score other : Rat} (order : other ≤ score) :
    rawScore options other ≤ rawScore options score := by
  rw [rawScore, rawScore]
  split
  · exact le_refl 1
  · exact max_le_max_left 0 order

theorem rawScores_nonneg {entry : String × Rat} (member : entry ∈ rawScores scores options) :
    0 ≤ entry.2 := by
  rcases List.mem_map.mp member with ⟨_, _, same⟩
  rw [← same]
  exact rawScore_nonneg _

theorem total_rawScores_nonneg : 0 ≤ total (rawScores scores options) := by
  apply List.sum_nonneg
  intro value member
  rcases List.mem_map.mp member with ⟨entry, listed, same⟩
  exact same ▸ rawScores_nonneg listed

theorem scoreTotal_pos : 0 < scoreTotal scores options := by
  rw [scoreTotal]
  split
  · exact zero_lt_one
  · exact lt_of_le_of_ne total_rawScores_nonneg (Ne.symm ‹_›)

theorem openingWeight_mono (cash : options.minCash ≤ 1) {raw other : Rat} (order : other ≤ raw) :
    openingWeight scores options other ≤ openingWeight scores options raw :=
  min_le_min_left _ (div_le_div_of_nonneg_right
    (mul_le_mul_of_nonneg_left order (sub_nonneg.mpr cash)) scoreTotal_pos.le)

theorem map_openingBook :
    (openingBook scores options).weights.map Prod.fst = scores.names := by
  rw [openingBook, List.map_map, ← map_rawScores]
  rfl

theorem openingBook_amount {key : String} {score : Rat} (member : (key, score) ∈ scores.entries) :
    amount key (openingBook scores options).weights =
      openingWeight scores options (rawScore options score) := by
  apply amount_of_mem
  · rw [map_openingBook]
    exact scores.distinct
  · exact List.mem_map.mpr ⟨_, List.mem_map.mpr ⟨_, member, rfl⟩, rfl⟩

theorem mem_openingBook_uncapped {key : String} {score : Rat}
    (member : (key, score) ∈ scores.entries) :
    key ∈ (openingBook scores options).uncapped <->
      openingWeight scores options (rawScore options score) < options.maxPosition := by
  have own : (key, openingWeight scores options (rawScore options score)) ∈
      (openingBook scores options).weights :=
    List.mem_map.mpr ⟨_, List.mem_map.mpr ⟨_, member, rfl⟩, rfl⟩
  have distinct : ((openingBook scores options).weights.map Prod.fst).Nodup := by
    rw [map_openingBook]
    exact scores.distinct
  constructor
  · intro listed
    rcases List.mem_map.mp listed with ⟨entry, kept, same⟩
    rcases List.mem_filter.mp kept with ⟨inside, below⟩
    have equal := List.inj_on_of_nodup_map distinct inside own same
    subst equal
    exact of_decide_eq_true below
  · intro below
    exact List.mem_map.mpr ⟨_, List.mem_filter.mpr ⟨own, decide_eq_true below⟩, rfl⟩

theorem total_openingBook (cash : options.minCash ≤ 1) :
    total (openingBook scores options).weights ≤ investable options := by
  have nonneg : 0 ≤ investable options := sub_nonneg.mpr cash
  have parts : total (openingBook scores options).weights ≤
      ((rawScores scores options).map fun entry =>
        investable options / scoreTotal scores options * entry.2).sum := by
    rw [total, openingBook, List.map_map]
    apply List.sum_le_sum
    intro entry _
    rw [div_mul_eq_mul_div]
    exact min_le_right _ _
  refine parts.trans ?_
  rw [List.sum_map_mul_left, ← total]
  by_cases zero : total (rawScores scores options) = 0
  · rw [zero, mul_zero]
    exact nonneg
  · rw [scoreTotal, if_neg zero, div_mul_cancel₀ _ zero]

/-- What the entities are ordered by. -/
def ranking (scores : ScoreMap) (options : PortfolioOptions) (key : String) : Rat :=
  rawScore options (amount key scores.entries)

theorem mem_scores_of_names {key : String} (member : key ∈ scores.names) :
    (key, amount key scores.entries) ∈ scores.entries := by
  rcases List.mem_map.mp member with ⟨entry, listed, same⟩
  subst same
  rw [amount_of_mem scores.distinct listed]
  exact listed

theorem openingBook_sound (cash : 0 ≤ options.minCash ∧ options.minCash ≤ 1)
    (cap : 0 ≤ options.maxPosition) :
    Sound (ranking scores options) scores.names options.maxPosition (investable options)
      (openingBook scores options) := by
  have distinct : ((openingBook scores options).weights.map Prod.fst).Nodup := by
    rw [map_openingBook]
    exact scores.distinct
  refine ⟨map_openingBook, ?_, add_sub_cancel _ _, sub_nonneg.mpr (total_openingBook cash.2), ?_,
    (List.filter_sublist.map Prod.fst).nodup distinct, ?_, ?_⟩
  · intro key member
    rw [openingBook_amount (mem_scores_of_names member)]
    refine ⟨le_min cap ?_, min_le_left _ _⟩
    exact div_nonneg (mul_nonneg (sub_nonneg.mpr cash.2) (rawScore_nonneg _)) scoreTotal_pos.le
  · intro key listed
    rw [← map_openingBook]
    exact (List.filter_sublist.map Prod.fst).subset listed
  · intro key member left
    have listed := mem_scores_of_names member
    rw [openingBook_amount listed]
    have full := not_lt.mp (mt (mem_openingBook_uncapped listed).mpr left)
    exact (sub_lt_self _ tolerance_pos).le.trans full
  · intro key other member otherMember order inside
    have below := (mem_openingBook_uncapped (mem_scores_of_names member)).mp inside
    have smaller : openingWeight scores options (ranking scores options other) ≤
        openingWeight scores options (ranking scores options key) :=
      openingWeight_mono cash.2 order
    rw [openingBook_amount (mem_scores_of_names member),
      openingBook_amount (mem_scores_of_names otherMember)]
    exact ⟨(mem_openingBook_uncapped (mem_scores_of_names otherMember)).mpr
      (lt_of_le_of_lt smaller below), smaller⟩

variable (scores options) in
/-- The weights are in their bounds, use up what there is to invest up to the tolerance of the
rounds, and follow the scores: a higher score never gets less, but for the tolerance. -/
structure Feasible (weights : List (String × Rat)) : Prop where
  keys : weights.map Prod.fst = scores.names
  bounds : forall key weight, (key, weight) ∈ weights -> 0 ≤ weight ∧ weight ≤ options.maxPosition
  total : |total weights -
    min (1 - options.minCash) (scores.entries.length * options.maxPosition)| ≤
    (scores.entries.length + 1) * tolerance
  ordered : forall key other score otherScore weight otherWeight,
    (key, score) ∈ scores.entries -> (other, otherScore) ∈ scores.entries -> otherScore ≤ score ->
    (key, weight) ∈ weights -> (other, otherWeight) ∈ weights -> otherWeight ≤ weight + tolerance

section Closing

variable {book : Book}
  (sound : Sound (ranking scores options) scores.names options.maxPosition (investable options)
    book)

include sound

theorem Sound.amount_of_mem {key : String} {weight : Rat}
    (member : (key, weight) ∈ book.weights) : amount key book.weights = weight := by
  apply ProspectiveIntelligence.amount_of_mem _ member
  rw [sound.keys]
  exact scores.distinct

theorem Sound.name_of_mem {entry : String × Rat} (member : entry ∈ book.weights) :
    entry.1 ∈ scores.names := by
  rw [← sound.keys]
  exact List.mem_map_of_mem member

theorem Sound.length_weights :
    (book.weights.map Prod.snd).length = scores.entries.length := by
  have same := congrArg List.length sound.keys
  rw [ScoreMap.names, List.length_map, List.length_map] at same
  rw [List.length_map, same]

/-- A closed book invests all but the tolerance, or every position is close to the cap. -/
theorem Sound.total_of_closed (closed : ¬ book.Open) :
    |total book.weights -
      min (1 - options.minCash) (scores.entries.length * options.maxPosition)| ≤
      (scores.entries.length + 1) * tolerance := by
  have invested := sound.conserved
  have remaining := sound.remaining
  have room : total book.weights ≤ scores.entries.length * options.maxPosition := by
    have each := List.sum_le_card_nsmul (book.weights.map Prod.snd) options.maxPosition (by
      intro weight member
      rcases List.mem_map.mp member with ⟨entry, listed, same⟩
      rw [← same, ← sound.amount_of_mem listed]
      exact (sound.bounds _ (sound.name_of_mem listed)).2)
    rwa [sound.length_weights, nsmul_eq_mul] at each
  have slack : 0 ≤ (scores.entries.length : Rat) * tolerance :=
    mul_nonneg (Nat.cast_nonneg _) tolerance_pos.le
  have upper : total book.weights ≤
      min (1 - options.minCash) (scores.entries.length * options.maxPosition) := by
    apply le_min _ room
    rw [← investable]
    linarith
  rw [abs_sub_comm, abs_of_nonneg (sub_nonneg.mpr upper)]
  by_cases spent : tolerance < book.remaining
  · -- Nothing is below the cap, so every position is within the tolerance of it.
    have empty : book.uncapped = [] := by
      by_contra nonempty
      exact closed ⟨spent, nonempty⟩
    have each := List.card_nsmul_le_sum (book.weights.map Prod.snd)
      (options.maxPosition - tolerance) (by
        intro weight member
        rcases List.mem_map.mp member with ⟨entry, listed, same⟩
        rw [← same, ← sound.amount_of_mem listed]
        exact sound.capped _ (sound.name_of_mem listed) (by simp [empty]))
    rw [sound.length_weights, nsmul_eq_mul, mul_sub] at each
    have full := min_le_right (1 - options.minCash) (scores.entries.length * options.maxPosition)
    rw [total] at *
    linarith [tolerance_pos]
  · have part := min_le_left (1 - options.minCash) (scores.entries.length * options.maxPosition)
    rw [investable] at invested
    linarith

theorem Sound.feasible (closed : ¬ book.Open) :
    Feasible scores options book.weights := by
  refine ⟨sound.keys, ?_, sound.total_of_closed closed, ?_⟩
  · intro key weight member
    rw [← sound.amount_of_mem member]
    exact sound.bounds key (sound.name_of_mem member)
  · intro key other score otherScore weight otherWeight scored otherScored order member otherMember
    have name := sound.name_of_mem member
    have otherName := sound.name_of_mem otherMember
    rw [← sound.amount_of_mem member, ← sound.amount_of_mem otherMember]
    by_cases inside : key ∈ book.uncapped
    · have ranked : ranking scores options other ≤ ranking scores options key := by
        rw [ranking, ranking, ProspectiveIntelligence.amount_of_mem scores.distinct scored,
          ProspectiveIntelligence.amount_of_mem scores.distinct otherScored]
        exact rawScore_mono order
      exact (sound.ordered key other name otherName ranked inside).2.trans
        (le_add_of_nonneg_right tolerance_pos.le)
    · have near := sound.capped key name inside
      have below := (sound.bounds other otherName).2
      linarith

end Closing

/-- The construction ends, for every map of scores and all admissible options, with weights that
are feasible before the final rounding. -/
theorem constructPortfolio_feasible (scores : ScoreMap) (options : PortfolioOptions)
    (nonempty : scores.entries ≠ []) (supported : options.method ∈ supportedMethods)
    (cash : 0 ≤ options.minCash ∧ options.minCash ≤ 1) (cap : 0 ≤ options.maxPosition) :
    Feasible scores options (finalWeights scores options) ∧
      exists plan, constructPortfolio scores options = .ok plan ∧
        plan.weights = (finalWeights scores options).map fun entry =>
          (entry.1, DecimalGrid.roundTo shareUnit entry.2) := by
  have opening : Sound (ranking scores options) scores.names options.maxPosition
      (investable options) (openingBook scores options) := openingBook_sound cash cap
  rcases redistribute_sound opening with ⟨sound, closed⟩
  rw [constructPortfolio, if_neg (not_not_intro supported), if_neg nonempty]
  exact ⟨sound.feasible closed, _, rfl, rfl⟩

/-- Three positions, one of them at the cap before the rounds. -/
theorem threePositions_feasible :
    Feasible ⟨[("ALPHA", 3), ("BETA", 2), ("GAMMA", -1)], by decide⟩
        { method := "SCORE_CAPPED", maxPosition := 2 / 5, minCash := 1 / 10 }
        (finalWeights ⟨[("ALPHA", 3), ("BETA", 2), ("GAMMA", -1)], by decide⟩
          { method := "SCORE_CAPPED", maxPosition := 2 / 5, minCash := 1 / 10 }) :=
  (constructPortfolio_feasible _ _ (by decide) (by decide) (by norm_num) (by norm_num)).1

end Plan

end ProspectiveIntelligence
end MarketIntelligence
