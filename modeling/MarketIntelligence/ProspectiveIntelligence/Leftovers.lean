import MarketIntelligence.ProspectiveIntelligence.Portfolio

namespace MarketIntelligence
namespace ProspectiveIntelligence

open Foundations

/-!
# Who gets what the caps leave over

A score that is not positive counts as zero, so its position starts without capital.  The
rounds hand out what the caps cut off by the room below the cap and do not look at the
scores, so that such a position is among the first to be topped up.

It stays empty when nothing is handed out, or when the cap leaves it no room.
-/

/-! ## Positions through the rounds -/

section Rounds

variable {maxPosition : Rat} {book : Book} {key : String}

theorem redistribute_closed (closed : ¬ book.Open) : redistribute maxPosition book = book := by
  rw [redistribute, if_neg closed]

theorem round_nodup (distinct : book.uncapped.Nodup) :
    (round maxPosition book).uncapped.Nodup :=
  (foldl_topUp_sublist book.part book.uncapped book).nodup distinct

/-- A position outside the rounds keeps its weight. -/
theorem redistribute_outside (distinct : book.uncapped.Nodup) (outside : key ∉ book.uncapped) :
    amount key (redistribute maxPosition book).weights = amount key book.weights := by
  induction book using redistribute.induct maxPosition with
  | case1 book going ih =>
      have still : key ∉ (round maxPosition book).uncapped :=
        fun member => outside ((mem_round_uncapped distinct key).mp member).1
      rw [redistribute, if_pos going, ih (round_nodup distinct) still,
        round_amount distinct, if_neg outside]
  | case2 book closed => rw [redistribute_closed closed]

/-- A round takes no weight away, and none goes over the cap. -/
theorem round_grows (going : book.Open) (distinct : book.uncapped.Nodup)
    (below : amount key book.weights ≤ maxPosition) :
    amount key book.weights ≤ amount key (round maxPosition book).weights ∧
      amount key (round maxPosition book).weights ≤ maxPosition := by
  have part : 0 ≤ book.part := part_nonneg (tolerance_pos.trans going.1).le
  rw [round_amount distinct]
  split
  · constructor
    · exact le_add_of_nonneg_right (share_nonneg part below)
    · rw [add_share]
      exact min_le_right _ _
  · exact ⟨le_refl _, below⟩

theorem redistribute_grows (distinct : book.uncapped.Nodup)
    (below : amount key book.weights ≤ maxPosition) :
    amount key book.weights ≤ amount key (redistribute maxPosition book).weights := by
  induction book using redistribute.induct maxPosition with
  | case1 book going ih =>
      rcases round_grows going distinct below with ⟨grows, within⟩
      rw [redistribute, if_pos going]
      exact grows.trans (ih (round_nodup distinct) within)
  | case2 book closed => rw [redistribute_closed closed]

/-- The first round gives something to every position in it. -/
theorem redistribute_tops_up (going : book.Open) (distinct : book.uncapped.Nodup)
    (inside : key ∈ book.uncapped) (below : amount key book.weights < maxPosition) :
    amount key book.weights < amount key (redistribute maxPosition book).weights := by
  have part : 0 < book.part := by
    have count : (0 : Rat) < book.uncapped.length := by
      exact_mod_cast List.length_pos_of_mem inside
    exact div_pos (tolerance_pos.trans going.1) count
  have first : amount key book.weights < amount key (round maxPosition book).weights := by
    rw [round_amount distinct, if_pos inside]
    exact lt_add_of_pos_right _ (lt_min part (sub_pos.mpr below))
  rcases round_grows going distinct below.le with ⟨_, within⟩
  rw [redistribute, if_pos going]
  exact first.trans_le (redistribute_grows (round_nodup distinct) within)

end Rounds

/-! ## Scores that are not positive -/

section Scores

variable (scores : ScoreMap) (options : PortfolioOptions)

/-- What the caps cut off the proportional weights. -/
def cutOff : Rat :=
  ((rawScores scores options).map fun entry =>
    max 0 (investable options * entry.2 / scoreTotal scores options - options.maxPosition)).sum

/-- A score that is not positive gets no weight in the end, neither in the first allocation nor
when what the caps leave over is given out. -/
def FundsOnlyPositive : Prop :=
  forall key score, (key, score) ∈ scores.entries -> score ≤ 0 ->
    amount key (finalWeights scores options) = 0

/-- The caps leave nothing over that such a score could get: all scores are positive, the cap is
zero, or what it cuts off is within the tolerance at which the rounds stop. -/
def Contained : Prop :=
  (forall entry, entry ∈ scores.entries -> 0 < entry.2) ∨ options.maxPosition = 0 ∨
    0 < options.maxPosition ∧ cutOff scores options ≤ tolerance

variable {scores options}

theorem total_rawScores_pos {entry : String × Rat} (member : entry ∈ rawScores scores options)
    (positive : 0 < entry.2) : 0 < total (rawScores scores options) := by
  have least : entry.2 ≤ total (rawScores scores options) := by
    apply List.single_le_sum
    · intro value listed
      rcases List.mem_map.mp listed with ⟨other, known, same⟩
      exact same ▸ rawScores_nonneg known
    · exact List.mem_map_of_mem member
  exact positive.trans_le least

theorem min_add_cut (cap value : Rat) : min cap value + max 0 (value - cap) = value := by
  rcases le_total cap value with above | below
  · rw [min_eq_left above, max_eq_right (sub_nonneg.mpr above), add_sub_cancel]
  · rw [min_eq_right below, max_eq_left (sub_nonpos.mpr below), add_zero]

/-- The capital that is left before the rounds is what the caps cut off. -/
theorem openingBook_remaining (nonzero : total (rawScores scores options) ≠ 0) :
    (openingBook scores options).remaining = cutOff scores options := by
  have parts : ((rawScores scores options).map fun entry =>
      investable options * entry.2 / scoreTotal scores options).sum = investable options := by
    have factored : ((rawScores scores options).map fun entry =>
        investable options * entry.2 / scoreTotal scores options) =
        (rawScores scores options).map fun entry =>
          investable options / scoreTotal scores options * entry.2 := by
      apply List.map_congr_left
      intro entry _
      exact mul_div_right_comm _ _ _
    rw [factored, List.sum_map_mul_left, ← total, scoreTotal, if_neg nonzero,
      div_mul_cancel₀ _ nonzero]
  have split : ((rawScores scores options).map fun entry =>
      investable options * entry.2 / scoreTotal scores options).sum =
      total (openingBook scores options).weights + cutOff scores options := by
    rw [total, openingBook, cutOff, List.map_map, ← List.sum_map_add]
    congr 1
    apply List.map_congr_left
    intro entry _
    exact (min_add_cut options.maxPosition _).symm
  have left : (openingBook scores options).remaining =
      investable options - total (openingBook scores options).weights := rfl
  rw [left, ← parts, split, add_sub_cancel_left]

/-- A score that is not positive starts with the least of the cap and nothing. -/
theorem openingBook_nonpositive (scored : options.method ≠ "EQUAL_WEIGHT") {key : String}
    {score : Rat} (member : (key, score) ∈ scores.entries) (nonpositive : score ≤ 0) :
    amount key (openingBook scores options).weights = min options.maxPosition 0 := by
  have raw : rawScore options score = 0 := by
    rw [rawScore, if_neg scored, max_eq_left nonpositive]
  rw [openingBook_amount member, raw, openingWeight, mul_zero, zero_div]

theorem mem_openingBook_nonpositive (scored : options.method ≠ "EQUAL_WEIGHT") {key : String}
    {score : Rat} (member : (key, score) ∈ scores.entries) (nonpositive : score ≤ 0) :
    key ∈ (openingBook scores options).uncapped <-> 0 < options.maxPosition := by
  have raw : rawScore options score = 0 := by
    rw [rawScore, if_neg scored, max_eq_left nonpositive]
  rw [mem_openingBook_uncapped member, raw, openingWeight, mul_zero, zero_div, min_lt_iff]
  exact or_iff_right (lt_irrefl _)

theorem openingBook_nodup : (openingBook scores options).uncapped.Nodup := by
  have distinct : ((openingBook scores options).weights.map Prod.fst).Nodup := by
    rw [map_openingBook]
    exact scores.distinct
  exact (List.filter_sublist.map Prod.fst).nodup distinct

/-- What the rounds give to a score that is not positive. -/
theorem finalWeights_nonpositive (scored : options.method ≠ "EQUAL_WEIGHT")
    (nonzero : total (rawScores scores options) ≠ 0) {key : String} {score : Rat}
    (member : (key, score) ∈ scores.entries) (nonpositive : score ≤ 0) :
    amount key (finalWeights scores options) = 0 <->
      options.maxPosition = 0 ∨
        0 < options.maxPosition ∧ cutOff scores options ≤ tolerance := by
  have opening := openingBook_nonpositive scored member nonpositive
  have rounds := mem_openingBook_nonpositive scored member nonpositive
  rw [finalWeights]
  rcases lt_trichotomy options.maxPosition 0 with negative | zero | positive
  · rw [redistribute_outside openingBook_nodup (mt rounds.mp negative.not_gt), opening,
      min_eq_left negative.le]
    exact ⟨Or.inl, fun room => room.resolve_right fun both => negative.not_gt both.1⟩
  · have outside : key ∉ (openingBook scores options).uncapped :=
      mt rounds.mp fun positive => positive.ne' zero
    rw [redistribute_outside openingBook_nodup outside, opening, zero, min_self]
    exact iff_of_true rfl (Or.inl rfl)
  · have inside := rounds.mpr positive
    rw [min_eq_right positive.le] at opening
    have remaining := openingBook_remaining nonzero
    by_cases spent : cutOff scores options ≤ tolerance
    · have closed : ¬ (openingBook scores options).Open :=
        fun going => not_lt.mpr spent (remaining ▸ going.1)
      rw [redistribute_closed closed, opening]
      exact iff_of_true rfl (Or.inr ⟨positive, spent⟩)
    · have going : (openingBook scores options).Open :=
        ⟨remaining ▸ not_le.mp spent, List.ne_nil_of_mem inside⟩
      have funded := redistribute_tops_up going openingBook_nodup inside (opening ▸ positive)
      rw [opening] at funded
      refine iff_of_false funded.ne' ?_
      rintro (zero | ⟨_, small⟩)
      · exact positive.ne' zero
      · exact spent small

/-- Scores that are not positive stay without weight exactly when there are none, or the
caps leave nothing over for them. -/
theorem constructPortfolio_fundsOnlyPositive_iff (scores : ScoreMap) (options : PortfolioOptions)
    (supported : options.method ∈ supportedMethods) (scored : options.method ≠ "EQUAL_WEIGHT")
    (positive : exists entry, entry ∈ scores.entries ∧ 0 < entry.2) :
    (FundsOnlyPositive scores options <-> Contained scores options) ∧
      exists plan, constructPortfolio scores options = .ok plan ∧
        plan.weights = (finalWeights scores options).map fun entry =>
          (entry.1, DecimalGrid.roundTo shareUnit entry.2) := by
  rcases positive with ⟨best, listed, above⟩
  constructor
  · have raw : 0 < rawScore options best.2 := by
      rw [rawScore, if_neg scored]
      exact lt_max_of_lt_right above
    have member : (best.1, rawScore options best.2) ∈ rawScores scores options :=
      List.mem_map.mpr ⟨best, listed, rfl⟩
    have nonzero : total (rawScores scores options) ≠ 0 := (total_rawScores_pos member raw).ne'
    constructor
    · intro funds
      by_cases all : forall entry, entry ∈ scores.entries -> 0 < entry.2
      · exact Or.inl all
      · simp only [not_forall, not_lt] at all
        rcases all with ⟨entry, member, nonpositive⟩
        exact Or.inr ((finalWeights_nonpositive scored nonzero member nonpositive).mp
          (funds entry.1 entry.2 member nonpositive))
    · intro contained key score member nonpositive
      rcases contained with all | room
      · exact absurd (all _ member) (not_lt.mpr nonpositive)
      · exact (finalWeights_nonpositive scored nonzero member nonpositive).mpr room
  · rw [constructPortfolio, if_neg (not_not_intro supported), if_neg (List.ne_nil_of_mem listed)]
    exact ⟨_, rfl, rfl⟩

/-- Two positions, and a cap that cuts off most of the first. -/
def cappedPair : ScoreMap := ⟨[("ALPHA", 1), ("BETA", -1)], by decide⟩

theorem cappedPair_weights :
    finalWeights cappedPair { } = [("ALPHA", 1 / 5), ("BETA", 1 / 5)] := by
  have going : (openingBook cappedPair { }).Open := by decide +kernel
  have closed : ¬ (round (1 / 5) (openingBook cappedPair { })).Open := by decide +kernel
  rw [finalWeights, redistribute, if_pos going, redistribute_closed closed]
  decide +kernel

theorem cappedPair_funds_nonpositive :
    ¬ forall (scores : ScoreMap) (options : PortfolioOptions) (plan : PortfolioPlan),
      options.method ∈ supportedMethods -> options.method ≠ "EQUAL_WEIGHT" ->
        (exists entry, entry ∈ scores.entries ∧ 0 < entry.2) ->
          constructPortfolio scores options = .ok plan ->
            forall key score, (key, score) ∈ scores.entries -> score ≤ 0 ->
              amount key plan.weights = 0 := by
  intro rule
  have outcome := rule cappedPair { } _ (by decide) (by decide)
    ⟨("ALPHA", 1), by decide, by norm_num⟩ rfl "BETA" (-1) (by decide) (by norm_num)
  dsimp only at outcome
  rw [cappedPair_weights] at outcome
  exact absurd outcome (by decide +kernel)

theorem roomyPair_contained :
    FundsOnlyPositive cappedPair { maxPosition := 1 } := by
  have positive : exists entry, entry ∈ cappedPair.entries ∧ 0 < entry.2 :=
    ⟨("ALPHA", 1), by decide, by norm_num⟩
  exact ((constructPortfolio_fundsOnlyPositive_iff cappedPair { maxPosition := 1 }
    (by decide) (by decide) positive).1).mpr (Or.inr (Or.inr ⟨by norm_num, by decide +kernel⟩))

end Scores

end ProspectiveIntelligence
end MarketIntelligence
