import MarketIntelligence.Backtesting.Solvency
import MarketIntelligence.Foundations.AverageCost

namespace MarketIntelligence
namespace Backtesting

open Foundations

/-!
# The books of a backtest

The trades are the record.  At every snapshot the cash is what they paid and
brought in, each quantity is what they bought and sold less the residuals written
off by closing sales, and the cash with the book value of the holdings exceeds
the initial cash by the profit realized on the sales less the cost of those
residuals.

One order is a purchase or a disposal at average cost, which settles these three
identities at once.  A rebalance repeats it, and a snapshot keeps the trades made
so far, since every later trade has a later time.
-/

/-! ## Orders as purchases and disposals -/

def Position.holding (position : Position) : AverageCost.Holding Rat where
  quantity := position.quantity
  averageCost := position.averageCost

/-- The holding an order was executed against. -/
def Fill.holding (fill : Fill) : AverageCost.Holding Rat :=
  (fill.before.positions fill.symbol).holding

def Fill.cost (fill : Fill) : Rat :=
  fill.trade.grossValue + fill.trade.fees

def Fill.proceeds (fill : Fill) : Rat :=
  fill.trade.grossValue - fill.trade.fees

/-- The profit of a sale before it is quantized. -/
def Fill.realized (fill : Fill) : Rat :=
  fill.proceeds - fill.trade.quantity * fill.holding.averageCost

/-- The residual a closing sale writes off. -/
def Fill.writtenOff (fill : Fill) : Rat :=
  fill.holding.writtenOff shareUnit fill.trade.quantity

/-- What an order leaves of the ledger it was executed against. -/
inductive Settled (fill : Fill) : Ledger -> Prop where
  | bought (position : Position) (side : fill.trade.side = .buy)
      (held : fill.holding.quantity + fill.trade.quantity ≠ 0)
      (holding : position.holding = fill.holding.acquire fill.trade.quantity fill.cost) :
      Settled fill (fill.before.post fill.symbol position (fill.before.cash - fill.cost))
  | sold (position : Position) (side : fill.trade.side = .sell)
      (holding : position.holding = fill.holding.dispose shareUnit fill.trade.quantity)
      (rounded : fill.trade.realizedPnl = money fill.realized) :
      Settled fill (fill.before.post fill.symbol position (fill.before.cash + fill.proceeds))

theorem order_settled {config : BacktestConfig} {call : RebalanceCall} {symbol : String}
    {side : Side} {quantity : Rat} {state next : Rebalancing}
    (done : state.order config call symbol side quantity = .ok next) :
    exists trade : SimulatedTrade,
      next.fills = state.fills ++ [⟨symbol, state.ledger, trade⟩] ∧
      Settled ⟨symbol, state.ledger, trade⟩ next.ledger ∧
      trade.side = side ∧ trade.quantity = quantity := by
  unfold Rebalancing.order at done
  rcases Loops.except_bind_ok done with ⟨filled, executed, rest⟩
  cases rest
  unfold execute at executed
  cases side with
  | buy =>
      dsimp only at executed
      by_cases closed : (state.ledger.positions symbol).quantity + quantity = 0
      · rw [if_pos closed] at executed
        cases executed
      · rw [if_neg closed] at executed
        cases executed
        refine ⟨_, rfl, ?_, rfl, rfl⟩
        refine Settled.bought _ rfl closed ?_
        simp only [Position.holding, AverageCost.Holding.acquire, AverageCost.Holding.bookValue,
          Fill.holding, Fill.cost, add_assoc]
  | sell =>
      dsimp only at executed
      cases executed
      refine ⟨_, rfl, ?_, rfl, rfl⟩
      refine Settled.sold _ rfl ?_ rfl
      simp only [Position.holding, AverageCost.Holding.dispose, Fill.holding]
      by_cases closes : (state.ledger.positions symbol).quantity - quantity ≤ shareUnit
      · rw [if_pos closes]
        exact (if_pos closes).symm
      · rw [if_neg closes]
        exact (if_neg closes).symm

/-! ## What the trades add up to -/

def sumOver (counts : Fill -> Bool) (value : Fill -> Rat) (fills : List Fill) : Rat :=
  ((fills.filter counts).map value).sum

theorem sumOver_append (counts : Fill -> Bool) (value : Fill -> Rat) (fills : List Fill)
    (made : Fill) :
    sumOver counts value (fills ++ [made]) =
      sumOver counts value fills + if counts made then value made else 0 := by
  unfold sumOver
  cases counted : counts made with
  | true => simp [List.filter_append, counted]
  | false => simp [List.filter_append, counted]

/-- The sum of gross value and fee over the purchases. -/
def boughtFor (fills : List Fill) : Rat :=
  sumOver (fun fill => fill.trade.side = .buy) Fill.cost fills

/-- The sum of gross value less fee over the sales. -/
def soldFor (fills : List Fill) : Rat :=
  sumOver (fun fill => fill.trade.side = .sell) Fill.proceeds fills

def tradedQuantity (side : Side) (symbol : String) (fills : List Fill) : Rat :=
  sumOver (fun fill => fill.trade.side = side ∧ fill.symbol = symbol)
    (fun fill => fill.trade.quantity) fills

def writtenOffQuantity (symbol : String) (fills : List Fill) : Rat :=
  sumOver (fun fill => fill.trade.side = .sell ∧ fill.symbol = symbol) Fill.writtenOff fills

/-- The profit of the sales before any rounding: what each brought in against the average cost of
the shares it sold. -/
def realizedProfit (fills : List Fill) : Rat :=
  sumOver (fun fill => fill.trade.side = .sell) Fill.realized fills

/-- The average cost of the residuals written off. -/
def writtenOffCost (fills : List Fill) : Rat :=
  sumOver (fun fill => fill.trade.side = .sell)
    (fun fill => fill.writtenOff * fill.holding.averageCost) fills

/-- The sum of quantity times average cost. -/
def bookValue (config : BacktestConfig) (ledger : Ledger) : Rat :=
  (config.symbols.map fun symbol =>
    (ledger.positions symbol).quantity * (ledger.positions symbol).averageCost).sum

/-- The ledger is what the trades add up to. -/
structure Booked (config : BacktestConfig) (fills : List Fill) (ledger : Ledger) : Prop where
  cash : ledger.cash = config.initialCash - boughtFor fills + soldFor fills
  quantity : forall symbol, (ledger.positions symbol).quantity =
    tradedQuantity .buy symbol fills - tradedQuantity .sell symbol fills -
      writtenOffQuantity symbol fills
  profit : ledger.cash + bookValue config ledger - config.initialCash =
    realizedProfit fills - writtenOffCost fills

theorem Booked.initial (config : BacktestConfig) :
    Booked config [] (Simulation.initial config).ledger where
  cash := by simp [Simulation.initial, boughtFor, soldFor, sumOver]
  quantity := fun symbol => by
    simp [Simulation.initial, Position.empty, tradedQuantity, writtenOffQuantity, sumOver]
  profit := by
    simp [Simulation.initial, Position.empty, bookValue, realizedProfit, writtenOffCost, sumOver]

/-- An order changes the book value by what it changes in its own position. -/
theorem Fill.bookValue_post {config : BacktestConfig} (fill : Fill)
    (known : fill.symbol ∈ config.symbols) (position : Position) (cash : Rat) :
    bookValue config (fill.before.post fill.symbol position cash) =
      bookValue config fill.before + (position.holding.bookValue - fill.holding.bookValue) := by
  have total := AverageCost.sum_replace config.symbols_nodup known fun other different =>
    congrArg (fun held : Position => held.quantity * held.averageCost)
      (post_other fill.before position cash different)
  rw [post_same] at total
  exact total

section Settlement

variable {config : BacktestConfig} {fill : Fill} {after : Ledger}

theorem post_quantity (ledger : Ledger) (symbol other : String) (position : Position) (cash : Rat) :
    ((ledger.post symbol position cash).positions other).quantity =
      (ledger.positions other).quantity +
        if symbol = other then position.quantity - (ledger.positions symbol).quantity else 0 := by
  by_cases here : symbol = other
  · rw [← here, post_same, if_pos rfl]
    ring
  · rw [post_other ledger position cash (Ne.symm here), if_neg here, add_zero]

/-- An order of a configured symbol keeps the books. -/
theorem Settled.booked {fills : List Fill} (settled : Settled fill after)
    (known : fill.symbol ∈ config.symbols) (booked : Booked config fills fill.before) :
    Booked config (fills ++ [fill]) after := by
  have cash := booked.cash
  have profit := booked.profit
  cases settled with
  | bought position side held holding =>
      have quantity : position.quantity = fill.holding.quantity + fill.trade.quantity :=
        congrArg AverageCost.Holding.quantity holding
      have value := fill.holding.bookValue_acquire fill.cost held
      rw [← holding] at value
      refine { cash := ?_, quantity := ?_, profit := ?_ }
      · simp only [post_cash, boughtFor, soldFor, sumOver_append, side, decide_true, if_true,
          reduceCtorEq, decide_false, Bool.false_eq_true, if_false]
        rw [cash]
        unfold boughtFor soldFor
        ring
      · intro symbol
        rw [post_quantity, booked.quantity symbol, quantity]
        simp only [tradedQuantity, writtenOffQuantity, sumOver_append, side, reduceCtorEq,
          false_and, true_and, decide_false, Bool.false_eq_true, if_false, decide_eq_true_eq]
        by_cases here : fill.symbol = symbol
        · simp only [if_pos here, Fill.holding, Position.holding]
          ring
        · simp only [if_neg here]
          ring
      · rw [fill.bookValue_post known, post_cash, value]
        simp only [realizedProfit, writtenOffCost, sumOver_append, side, reduceCtorEq,
          decide_false, Bool.false_eq_true, if_false]
        unfold realizedProfit writtenOffCost at profit
        linarith
  | sold position side holding rounded =>
      have quantity : position.quantity =
          fill.holding.quantity - fill.trade.quantity - fill.writtenOff :=
        (congrArg AverageCost.Holding.quantity holding).trans fill.holding.quantity_dispose
      have value : position.holding.bookValue = fill.holding.bookValue -
          fill.trade.quantity * fill.holding.averageCost -
            fill.writtenOff * fill.holding.averageCost :=
        (congrArg AverageCost.Holding.bookValue holding).trans fill.holding.bookValue_dispose
      refine { cash := ?_, quantity := ?_, profit := ?_ }
      · simp only [post_cash, boughtFor, soldFor, sumOver_append, side, decide_true, if_true,
          reduceCtorEq, decide_false, Bool.false_eq_true, if_false]
        rw [cash]
        unfold boughtFor soldFor
        ring
      · intro symbol
        rw [post_quantity, booked.quantity symbol, quantity]
        simp only [tradedQuantity, writtenOffQuantity, sumOver_append, side, reduceCtorEq,
          false_and, true_and, decide_false, Bool.false_eq_true, if_false, decide_eq_true_eq]
        by_cases here : fill.symbol = symbol
        · simp only [if_pos here, Fill.holding, Position.holding]
          ring
        · simp only [if_neg here]
          ring
      · have realized : fill.realized =
            fill.proceeds - fill.trade.quantity * fill.holding.averageCost := rfl
        rw [fill.bookValue_post known, post_cash, value]
        simp only [realizedProfit, writtenOffCost, sumOver_append, side, decide_true, if_true]
        unfold realizedProfit writtenOffCost at profit
        linarith

theorem Settled.profit (settled : Settled fill after) (side : fill.trade.side = .sell) :
    fill.trade.realizedPnl = money fill.realized := by
  cases settled with
  | bought _ purchase => exact absurd (purchase.symm.trans side) (by decide)
  | sold _ _ _ rounded => exact rounded

end Settlement

/-! ## One rebalance -/

section Rebalance

variable {config : BacktestConfig} {call : RebalanceCall} {ledger : Ledger} {outcome : Rebalancing}

theorem order_booked {earlier : List Fill} {symbol : String} {side : Side} {quantity : Rat}
    {state next : Rebalancing} (known : symbol ∈ config.symbols)
    (booked : Booked config (earlier ++ state.fills) state.ledger)
    (done : state.order config call symbol side quantity = .ok next) :
    Booked config (earlier ++ next.fills) next.ledger := by
  rcases order_settled done with ⟨trade, fills, settled, _, _⟩
  rw [fills, ← List.append_assoc]
  exact settled.booked known booked

theorem rebalance_booked {earlier : List Fill} (booked : Booked config earlier ledger)
    (done : rebalance config call ledger = .ok outcome) :
    Booked config (earlier ++ outcome.fills) outcome.ledger := by
  refine rebalance_rule
    (motive := fun state => Booked config (earlier ++ state.fills) state.ledger)
    ?_ ?_ ?_ ?_ done
  · rw [show (Rebalancing.start ledger).fills = [] from rfl, List.append_nil]
    exact booked
  · intro state next sameLedger sameFills holds
    rw [sameLedger, sameFills]
    exact holds
  · intro state next symbol known holds _ sold
    exact order_booked known holds sold
  · intro state next symbol quantity known holds _ bought
    exact order_booked known holds bought

/-- A sale takes its position down to the desired quantity, and shows its profit
quantized. -/
structure Fill.Sells (config : BacktestConfig) (call : RebalanceCall) (ledger : Ledger)
    (fill : Fill) : Prop where
  quantity : fill.trade.quantity =
    fill.holding.quantity - desiredQuantity config call ledger fill.symbol
  profit : fill.trade.realizedPnl = money fill.realized

theorem rebalance_sells (done : rebalance config call ledger = .ok outcome) :
    forall fill, fill ∈ outcome.fills -> fill.trade.side = .sell ->
      fill.Sells config call ledger := by
  refine rebalance_rule
    (motive := fun state => forall fill, fill ∈ state.fills -> fill.trade.side = .sell ->
      fill.Sells config call ledger)
    (fun _ member => absurd member List.not_mem_nil) ?_ ?_ ?_ done
  · intro state next _ fills holds
    rw [fills]
    exact holds
  · intro state next symbol _ holds _ sold fill member side
    rcases order_settled sold with ⟨trade, fills, settled, _, quantity⟩
    rw [fills] at member
    rcases List.mem_append.mp member with earlier | latest
    · exact holds fill earlier side
    · rw [List.mem_singleton.mp latest] at side ⊢
      exact { quantity := quantity, profit := settled.profit side }
  · intro state next symbol quantity _ holds _ bought fill member side
    rcases order_settled bought with ⟨trade, fills, _, purchase, _⟩
    rw [fills] at member
    rcases List.mem_append.mp member with earlier | latest
    · exact holds fill earlier side
    · rw [List.mem_singleton.mp latest] at side
      exact absurd (purchase.symm.trans side) (by decide)

theorem Fill.writtenOff_le (fill : Fill) : fill.writtenOff ≤ shareUnit :=
  fill.holding.writtenOff_le (le_of_lt shareUnit_pos)

/-- From nonnegative equity a sale at a positive open leaves nothing negative to
write off. -/
theorem Fill.Sells.writtenOff_nonneg {fill : Fill} (sells : fill.Sells config call ledger)
    (funded : 0 ≤ equityAtOpen config call.bars ledger)
    (positive : 0 < (call.bars fill.symbol).openPrice) : 0 ≤ fill.writtenOff := by
  have desired := desiredQuantity_nonneg_of_funded funded positive
  apply fill.holding.writtenOff_nonneg
  rw [sells.quantity]
  linarith

end Rebalance

/-! ## The trades before a snapshot -/

def Simulation.fills (state : Simulation) : List Fill :=
  state.rebalances.flatMap fun record => record.outcome.fills

/-- They are the trades of the result. -/
theorem Simulation.fills_trade (state : Simulation) :
    state.fills.map Fill.trade = state.result.trades := by
  unfold Simulation.fills Simulation.result RebalanceRecord.trades
  rw [List.map_flatMap]

def Simulation.fillsUntil (state : Simulation) (time : Instant) : List Fill :=
  state.fills.filter fun fill => fill.trade.executionTime ≤ time

/-- The snapshot shows the cash, rounded, and the open positions as they are. -/
structure DailySnapshot.Shows (config : BacktestConfig) (snapshot : DailySnapshot)
    (ledger : Ledger) : Prop where
  cash : snapshot.cash = money ledger.cash
  positions : (snapshot.positions.map fun entry =>
      (entry.1, entry.2.quantity, entry.2.averageCost)) =
    (config.symbols.filter fun symbol => 0 < (ledger.positions symbol).quantity).map fun symbol =>
      (symbol, (ledger.positions symbol).quantity, (ledger.positions symbol).averageCost)

/-- Every snapshot shows a ledger that the trades up to its time add up to, with the cash and the
held positions of that ledger. -/
structure Simulation.Booked (config : BacktestConfig) (state : Simulation) : Prop where
  aligned : state.snapshots.length = state.snapshotLedgers.length
  books : forall entry, entry ∈ state.snapshots.zip state.snapshotLedgers ->
    entry.1.Shows config entry.2 ∧
      Backtesting.Booked config (state.fillsUntil entry.1.eventTime) entry.2

/-- The invariant of the loop: the books up to now, with every trade up to a time and
every snapshot before it. -/
structure Bookkeeping (config : BacktestConfig) (time : Instant) (state : Simulation) :
    Prop where
  marked : state.Booked config
  current : Booked config state.fills state.ledger
  traded : forall fill, fill ∈ state.fills -> fill.trade.executionTime ≤ time
  shown : forall snapshot, snapshot ∈ state.snapshots -> snapshot.eventTime < time

section Bookkeeping

variable {config : BacktestConfig} {time later : Instant} {state next : Simulation}

theorem Bookkeeping.initial (config : BacktestConfig) (time : Instant) :
    Bookkeeping config time (.initial config) where
  marked := ⟨rfl, fun _ member => absurd member List.not_mem_nil⟩
  current := Booked.initial config
  traded := fun _ member => absurd member List.not_mem_nil
  shown := fun _ member => absurd member List.not_mem_nil

theorem Bookkeeping.mono (order : time ≤ later) (books : Bookkeeping config time state) :
    Bookkeeping config later state where
  marked := books.marked
  current := books.current
  traded := fun fill member => (books.traded fill member).trans order
  shown := fun snapshot member => lt_of_lt_of_le (books.shown snapshot member) order

/-- Only the ledger, the rebalances and the snapshots matter. -/
theorem Bookkeeping.congr (books : Bookkeeping config time state)
    (ledger : next.ledger = state.ledger) (rebalances : next.rebalances = state.rebalances)
    (snapshots : next.snapshots = state.snapshots)
    (ledgers : next.snapshotLedgers = state.snapshotLedgers) :
    Bookkeeping config time next := by
  have fills : next.fills = state.fills := by
    unfold Simulation.fills
    rw [rebalances]
  refine { marked := ⟨?_, ?_⟩, current := ?_, traded := ?_, shown := ?_ }
  · rw [snapshots, ledgers]
    exact books.marked.aligned
  · unfold Simulation.fillsUntil
    rw [snapshots, ledgers, fills]
    exact books.marked.books
  · rw [fills, ledger]
    exact books.current
  · rw [fills]
    exact books.traded
  · rw [snapshots]
    exact books.shown

end Bookkeeping

/-! ## One bar -/

section Bar

variable {config : BacktestConfig} {slice : Slice}

theorem runRebalance_bookkeeping
    (times : forall symbol, symbol ∈ config.symbols ->
      (slice.bars symbol).eventTime = slice.eventTime)
    (cause : Cause) (signalTime : Instant) (reasons : String -> Option String) :
    Loops.Preserves (Bookkeeping config slice.eventTime)
      (runRebalance config slice cause signalTime reasons) := by
  intro state books
  unfold runRebalance
  dsimp only
  cases done : rebalance config
      { index := slice.index, bars := slice.bars, targets := state.targets,
        signalTime := signalTime, reasons := reasons } state.ledger with
  | error failure => exact books
  | ok outcome =>
      have traded : forall fill, fill ∈ outcome.fills ->
          fill.trade.executionTime = slice.eventTime := by
        intro fill member
        have atBar := rebalance_atBar done fill member
        exact atBar.2.trans (times fill.symbol atBar.1)
      have hidden {snapshot : DailySnapshot} (shown : snapshot ∈ state.snapshots) :
          outcome.fills.filter (fun fill => fill.trade.executionTime ≤ snapshot.eventTime) = [] := by
        apply List.filter_eq_nil_iff.mpr
        intro fill member
        rw [traded fill member]
        simpa using books.shown snapshot shown
      refine { marked := ⟨books.marked.aligned, ?_⟩, current := ?_, traded := ?_,
               shown := books.shown }
      · intro entry member
        have holds := books.marked.books entry member
        have earlier := hidden (List.of_mem_zip member).1
        simp only [Loops.finalState, Simulation.fillsUntil, Simulation.fills, List.flatMap_append,
          List.flatMap_cons, List.flatMap_nil, List.append_nil, List.filter_append, earlier]
        exact holds
      · simp only [Loops.finalState, Simulation.fills, List.flatMap_append, List.flatMap_cons,
          List.flatMap_nil, List.append_nil]
        exact rebalance_booked books.current done
      · intro fill member
        simp only [Loops.finalState, Simulation.fills, List.flatMap_append, List.flatMap_cons,
          List.flatMap_nil, List.append_nil, List.mem_append] at member
        rcases member with earlier | latest
        · exact books.traded fill earlier
        · exact le_of_eq (traded fill latest)

theorem riskRebalance_bookkeeping
    (times : forall symbol, symbol ∈ config.symbols ->
      (slice.bars symbol).eventTime = slice.eventTime) (due : List PendingTargets) :
    Loops.Preserves (Bookkeeping config slice.eventTime)
      (riskRebalance config slice due) := by
  intro state books
  unfold riskRebalance
  cases state.snapshots.getLast? with
  | none => exact books
  | some snapshot =>
      dsimp only
      split
      · exact runRebalance_bookkeeping times _ _ _ state books
      · exact books

theorem executePending_bookkeeping
    (times : forall symbol, symbol ∈ config.symbols ->
      (slice.bars symbol).eventTime = slice.eventTime) (item : PendingTargets) :
    Loops.Preserves (Bookkeeping config slice.eventTime)
      (executePending config slice item) := by
  intro state books
  exact runRebalance_bookkeeping times _ _ _ _ (books.congr rfl rfl rfl rfl)

/-- The snapshot is the first one at its own time. -/
theorem takeSnapshot_bookkeeping :
    Loops.Meets (Bookkeeping config slice.eventTime) (takeSnapshot config slice)
      (fun _ => Bookkeeping config (slice.eventTime + 1))
      (fun _ => Bookkeeping config (slice.eventTime + 1)) := by
  intro state books
  have after : slice.eventTime ≤ slice.eventTime + 1 := le_of_lt (Int.lt_succ _)
  unfold takeSnapshot
  dsimp only
  by_cases undefined : slice.benchmarkStart = 0
  · rw [if_pos undefined]
    exact (books.mono after).congr rfl rfl rfl rfl
  · rw [if_neg undefined]
    refine { marked := ⟨?_, ?_⟩, current := books.current
             traded := (books.mono after).traded, shown := ?_ }
    · simp only [List.length_append, List.length_singleton, books.marked.aligned]
    · intro entry member
      rw [List.zip_append books.marked.aligned] at member
      rcases List.mem_append.mp member with earlier | latest
      · exact books.marked.books entry earlier
      · rw [List.zip_cons_cons, List.zip_nil_right, List.mem_singleton] at latest
        subst latest
        refine ⟨{ cash := rfl, positions := ?_ }, ?_⟩
        · simp only [snapshotPositions, List.map_map]
          rfl
        · have all : state.fillsUntil slice.eventTime = state.fills :=
            List.filter_eq_self.mpr fun fill member => decide_eq_true (books.traded fill member)
          change Booked config (state.fillsUntil slice.eventTime) state.ledger
          rw [all]
          exact books.current
    · intro snapshot member
      rcases List.mem_append.mp member with earlier | latest
      · exact lt_of_lt_of_le (books.shown snapshot earlier) after
      · rw [List.mem_singleton.mp latest]
        exact Int.lt_succ slice.eventTime

theorem generateSignal_bookkeeping {time : Instant} (strategy : Strategy)
    (batch : SignalBatch) (symbol : String) :
    Loops.Preserves (Bookkeeping config time)
      (generateSignal strategy slice batch symbol) := by
  intro state books
  unfold generateSignal
  dsimp only
  split
  · exact books.congr rfl rfl rfl rfl
  · split <;> exact books.congr rfl rfl rfl rfl

theorem barBody_bookkeeping (slice : Slice) (strategy : Strategy)
    (times : forall symbol, symbol ∈ config.symbols ->
      (slice.bars symbol).eventTime = slice.eventTime) (due : List PendingTargets) :
    Loops.Meets (Bookkeeping config slice.eventTime) (barBody config strategy slice due)
      (fun _ => Bookkeeping config (slice.eventTime + 1))
      (fun _ => Bookkeeping config (slice.eventTime + 1)) :=
  barBody_meets (fun _ books => books.mono (le_of_lt (Int.lt_succ _)))
    (riskRebalance_bookkeeping times due)
    (fun item _ => executePending_bookkeeping times item) takeSnapshot_bookkeeping
    (fun batch symbol _ => generateSignal_bookkeeping strategy batch symbol)

end Bar

/-! ## The whole run -/

section Run

variable {config : BacktestConfig} {strategy : Strategy}

theorem reached_bookkeeping (config : BacktestConfig) (strategy : Strategy)
    (barsBySymbol : String -> List HistoricalBar) (benchmarkBars : List HistoricalBar) :
    exists time,
      Bookkeeping config time (reached config strategy barsBySymbol benchmarkBars) := by
  refine run_timed (fun _ _ _ => Bookkeeping.mono) (Bookkeeping.initial config) ?_
  intro entry member due
  have known := List.mem_of_getElem? (mem_zipIdx_times member)
  exact barBody_bookkeeping ((align config barsBySymbol benchmarkBars).slice entry.2 entry.1)
    strategy (fun symbol selected => (align_bar known selected).2) due

/-! ## The rebalances of a run -/

/-- Every record is the outcome of its own call. -/
def Simulation.Recorded (config : BacktestConfig) (state : Simulation) : Prop :=
  forall record, record ∈ state.rebalances ->
    rebalance config record.call record.before = .ok record.outcome

theorem runRebalance_recorded (slice : Slice) (cause : Cause) (signalTime : Instant)
    (reasons : String -> Option String) :
    Loops.Preserves (Simulation.Recorded config)
      (runRebalance config slice cause signalTime reasons) := by
  intro state recorded
  unfold runRebalance
  dsimp only
  cases done : rebalance config
      { index := slice.index, bars := slice.bars, targets := state.targets,
        signalTime := signalTime, reasons := reasons } state.ledger with
  | error failure => exact recorded
  | ok outcome =>
      intro record member
      rcases List.mem_append.mp member with earlier | latest
      · exact recorded record earlier
      · rw [List.mem_singleton.mp latest]
        exact done

theorem barBody_recorded (slice : Slice) (due : List PendingTargets) :
    Loops.Preserves (Simulation.Recorded config) (barBody config strategy slice due) := by
  refine barBody_preserves ?_ ?_ ?_ ?_
  · intro state recorded
    unfold riskRebalance
    cases state.snapshots.getLast? with
    | none => exact recorded
    | some snapshot =>
        dsimp only
        split
        · exact runRebalance_recorded slice _ _ _ state recorded
        · exact recorded
  · intro item _ state recorded
    exact runRebalance_recorded slice _ _ _ _ recorded
  · intro state recorded
    unfold takeSnapshot
    dsimp only
    split <;> exact recorded
  · intro batch symbol _ state recorded
    unfold generateSignal
    dsimp only
    split
    · exact recorded
    · split <;> exact recorded

theorem reached_recorded (config : BacktestConfig) (strategy : Strategy)
    (barsBySymbol : String -> List HistoricalBar) (benchmarkBars : List HistoricalBar) :
    (reached config strategy barsBySymbol benchmarkBars).Recorded config :=
  run_preserves (motive := fun state => state.simulation.Recorded config)
    (fun _ member => absurd member List.not_mem_nil)
    fun _ _ => processBar_preserves fun due => barBody_recorded _ due

/-- In a run whose rebalances all start from nonnegative equity, the ledger behind
every snapshot is what the trades up to it add up to, and a sale writes off at
most one share unit. -/
theorem booked_of_funded (config : BacktestConfig) (strategy : Strategy)
    (barsBySymbol : String -> List HistoricalBar) (benchmarkBars : List HistoricalBar)
    (funded : forall record,
      record ∈ (reached config strategy barsBySymbol benchmarkBars).rebalances ->
        0 ≤ equityAtOpen config record.call.bars record.before) :
    (reached config strategy barsBySymbol benchmarkBars).fills.map Fill.trade =
        (reached config strategy barsBySymbol benchmarkBars).result.trades ∧
      (reached config strategy barsBySymbol benchmarkBars).Booked config ∧
      forall record, record ∈ (reached config strategy barsBySymbol benchmarkBars).rebalances ->
        forall fill, fill ∈ record.outcome.fills -> fill.trade.side = .sell ->
          fill.trade.realizedPnl = money fill.realized ∧ fill.writtenOff ≤ shareUnit ∧
            (0 < (record.call.bars fill.symbol).openPrice -> 0 ≤ fill.writtenOff) := by
  rcases reached_bookkeeping config strategy barsBySymbol benchmarkBars with ⟨_, books⟩
  refine ⟨Simulation.fills_trade _, books.marked, fun record member fill filled side => ?_⟩
  have done := reached_recorded config strategy barsBySymbol benchmarkBars record member
  have sells := rebalance_sells done fill filled side
  exact ⟨sells.profit, fill.writtenOff_le,
    fun positive => sells.writtenOff_nonneg (funded record member) positive⟩

/-- The sale of the third bar is funded by the shares it sells. -/
theorem booked_of_funded_roundTrip :
    (reached thinConfig roundTrip halvingBars (halvingBars "SPY")).fills.map Fill.trade =
        (reached thinConfig roundTrip halvingBars (halvingBars "SPY")).result.trades ∧
      (reached thinConfig roundTrip halvingBars (halvingBars "SPY")).Booked thinConfig ∧
      forall record,
        record ∈ (reached thinConfig roundTrip halvingBars (halvingBars "SPY")).rebalances ->
        forall fill, fill ∈ record.outcome.fills -> fill.trade.side = .sell ->
          fill.trade.realizedPnl = money fill.realized ∧ fill.writtenOff ≤ shareUnit ∧
            (0 < (record.call.bars fill.symbol).openPrice -> 0 ≤ fill.writtenOff) := by
  have checked : (reached thinConfig roundTrip halvingBars (halvingBars "SPY")).rebalances.all
      (fun record => decide (0 ≤ equityAtOpen thinConfig record.call.bars record.before)) = true := by
    decide +kernel
  exact booked_of_funded thinConfig roundTrip halvingBars (halvingBars "SPY")
    fun record member => of_decide_eq_true (List.all_eq_true.mp checked record member)

end Run

end Backtesting
end MarketIntelligence
