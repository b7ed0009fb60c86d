import MarketIntelligence.Payloads.Stooq

namespace MarketIntelligence
namespace Payloads
namespace Stooq

open Foundations
open Foundations.CalendarDates
open Foundations.DecimalText
open Foundations.Loops
open Foundations.Outcomes

/-!
# Which rows of the table are bars

A row is a bar when it obeys the rules, and its date is none of the rows before it.  What the
parser raises about a row is an error of the provider.
-/

/-- What is read of a row. -/
structure Reading where
  date : Date
  prices : Prices
  volume : Int
  deriving DecidableEq, Repr

structure Rules (library : Library) (start finish : DateTime) (header row : List Text)
    (reading : Reading) : Prop where
  cells : row.length = header.length
  present : forall column, missing library (cell header row column) = false
  date : cell header row .date = reading.date.isoformat
  inRange : start.day ≤ reading.date.ordinal ∧ (reading.date.ordinal : Int) ≤ finish.day
  openPrice : decimal library (cell header row .openPrice) = .ok reading.prices.openPrice
  high : decimal library (cell header row .high) = .ok reading.prices.high
  low : decimal library (cell header row .low) = .ok reading.prices.low
  closePrice : decimal library (cell header row .closePrice) = .ok reading.prices.closePrice
  positive : reading.prices.Positive
  ordered : reading.prices.Ordered
  volume : exists volume, decimal library (cell header row .volume) = .ok volume ∧ Whole volume ∧
    truncate volume.value = reading.volume

section Parts

variable {library : Library} {start finish : DateTime} {seen : List Date} {text : Text}

theorem strptime_isoformat (date : Date) : strptime library date.isoformat = .ok date :=
  congrArg orValueError (Date.strptime_isoformat library.digits date)

theorem sessionDate_ok_iff {date : Date} :
    sessionDate library start finish seen text = .ok date <->
      text = date.isoformat ∧ (start.day ≤ date.ordinal ∧ (date.ordinal : Int) ≤ finish.day) ∧
        date ∉ seen := by
  constructor
  · intro done
    rcases except_bind_ok done with ⟨read, _, rest⟩
    by_cases canonical : text = read.isoformat
    · rw [if_neg (not_not_intro canonical)] at rest
      by_cases outside : (read.ordinal : Int) < start.day ∨ finish.day < read.ordinal
      · rw [if_pos outside] at rest
        cases rest
      · rw [if_neg outside] at rest
        by_cases known : read ∈ seen
        · rw [if_pos known] at rest
          cases rest
        · rw [if_neg known] at rest
          cases rest
          rw [not_or, not_lt, not_lt] at outside
          exact ⟨canonical, outside, known⟩
    · rw [if_pos canonical] at rest
      cases rest
  · rintro ⟨canonical, ⟨early, late⟩, fresh⟩
    have read : excepting [.valueError] .data "Stooq CSV contained an invalid market date"
        (strptime library text) = .ok date := by
      rw [canonical]
      exact excepting_ok_iff.mpr (strptime_isoformat date)
    have outside : ¬ ((date.ordinal : Int) < start.day ∨ finish.day < date.ordinal) := by
      rw [not_or, not_lt, not_lt]
      exact ⟨early, late⟩
    rw [sessionDate, except_bind_eq read, if_neg (not_not_intro canonical), if_neg outside,
      if_neg fresh]
    rfl

theorem sessionDate_contained : ¬ Escapes (sessionDate library start finish seen text) := by
  apply not_stops_bind
  · apply escapes_excepting_iff.not.mpr
    rintro ⟨exception, failed, other⟩
    rw [strptime] at failed
    cases read : Date.strptime library.digits text with
    | some date =>
        rw [read] at failed
        cases failed
    | none =>
        rw [read] at failed
        cases failed
        exact other List.mem_cons_self
  · intro date _
    split
    · exact not_escapes_raise
    · split
      · exact not_escapes_raise
      · split
        · exact not_escapes_raise
        · exact not_stops_ok _

theorem decimal_contained {kind : ProviderErrorClass} {message : String} :
    ¬ Escapes (excepting [.invalidOperation] kind message (decimal library text)) := by
  rw [escapes_excepting_iff]
  rintro ⟨exception, failed, other⟩
  rw [decimal_error failed] at other
  exact other List.mem_cons_self

theorem readPrice_ok_iff {price : Decimal} :
    readPrice library text = .ok price <-> decimal library text = .ok price ∧ Positive price := by
  constructor
  · intro done
    rcases except_bind_ok done with ⟨read, here, rest⟩
    rw [refused_eq] at rest
    by_cases positive : Positive read
    · rw [decide_eq_true positive] at rest
      cases rest
      exact ⟨excepting_ok_iff.mp here, positive⟩
    · rw [decide_eq_false positive] at rest
      cases rest
  · rintro ⟨read, positive⟩
    rw [readPrice, except_bind_eq (excepting_ok_iff.mpr read), refused_eq,
      decide_eq_true positive]
    rfl

theorem readPrice_contained : ¬ Escapes (readPrice library text) := by
  apply not_stops_bind decimal_contained
  intro price _
  rw [refused_eq]
  apply not_stops_bind (not_stops_ok _)
  intro refused _
  split
  · exact not_escapes_raise
  · exact not_stops_ok _

theorem refusedVolume_eq (volume : Decimal) :
    exists answer, refusedVolume volume = .ok answer ∧ (answer = false <-> Whole volume) := by
  rw [refusedVolume]
  by_cases number : volume.isFinite = true
  · rw [if_pos number]
    exact negativeOrFractional_finite number
  · rw [if_neg number]
    exact ⟨true, rfl, iff_of_false Bool.false_ne_true.symm fun whole => number whole.finite⟩

theorem readVolume_ok_iff {volume : Decimal} :
    readVolume library text = .ok volume <-> decimal library text = .ok volume ∧ Whole volume := by
  constructor
  · intro done
    rcases except_bind_ok done with ⟨read, here, rest⟩
    rcases refusedVolume_eq read with ⟨answer, refused, whole⟩
    rw [refused] at rest
    cases answer with
    | true => cases rest
    | false =>
        cases rest
        exact ⟨excepting_ok_iff.mp here, whole.mp rfl⟩
  · rintro ⟨read, whole⟩
    rcases refusedVolume_eq volume with ⟨answer, refused, exactly⟩
    rw [readVolume, except_bind_eq (excepting_ok_iff.mpr read), refused, exactly.mpr whole]
    rfl

theorem readVolume_contained : ¬ Escapes (readVolume library text) := by
  apply not_stops_bind decimal_contained
  intro volume _
  rcases refusedVolume_eq volume with ⟨answer, refused, _⟩
  rw [refused]
  apply not_stops_bind (not_stops_ok _)
  intro decision _
  split
  · exact not_escapes_raise
  · exact not_stops_ok _

theorem readPrices_ok_iff {values : Column -> Text} {prices : Prices} :
    readPrices library values = .ok prices <->
      (decimal library (values .openPrice) = .ok prices.openPrice ∧
        decimal library (values .high) = .ok prices.high ∧
        decimal library (values .low) = .ok prices.low ∧
        decimal library (values .closePrice) = .ok prices.closePrice) ∧ prices.Positive := by
  constructor
  · intro done
    rcases except_bind_ok done with ⟨openPrice, first, rest⟩
    rcases except_bind_ok rest with ⟨high, second, rest⟩
    rcases except_bind_ok rest with ⟨low, third, rest⟩
    rcases except_bind_ok rest with ⟨closePrice, fourth, rest⟩
    cases rest
    have first := readPrice_ok_iff.mp first
    have second := readPrice_ok_iff.mp second
    have third := readPrice_ok_iff.mp third
    have fourth := readPrice_ok_iff.mp fourth
    exact ⟨⟨first.1, second.1, third.1, fourth.1⟩, first.2, second.2, third.2, fourth.2⟩
  · rintro ⟨⟨first, second, third, fourth⟩, positive⟩
    rw [readPrices, except_bind_eq (readPrice_ok_iff.mpr ⟨first, positive.openPrice⟩),
      except_bind_eq (readPrice_ok_iff.mpr ⟨second, positive.high⟩),
      except_bind_eq (readPrice_ok_iff.mpr ⟨third, positive.low⟩),
      except_bind_eq (readPrice_ok_iff.mpr ⟨fourth, positive.closePrice⟩)]
    rfl

theorem readPrices_contained {values : Column -> Text} :
    ¬ Escapes (readPrices library values) := by
  apply not_stops_bind readPrice_contained
  intro _ _
  apply not_stops_bind readPrice_contained
  intro _ _
  apply not_stops_bind readPrice_contained
  intro _ _
  apply not_stops_bind readPrice_contained
  intro _ _
  exact not_stops_ok _

/-- The comparison of the low with the high adds nothing to those with the open and the close. -/
theorem inconsistent_ok {prices : Prices} (positive : prices.Positive) :
    exists answer, inconsistent prices = .ok answer ∧ (answer = false <-> prices.Ordered) := by
  rcases inconsistent_eq positive with ⟨answer, found, ordered⟩
  cases answer with
  | true =>
      refine ⟨true, ?_, ordered⟩
      rw [inconsistent, found]
      rfl
  | false =>
      refine ⟨false, ?_, ordered⟩
      have order := ordered.mp rfl
      have around := not_lt.mpr (le_trans order.low_open order.open_high)
      rw [inconsistent, found]
      change less prices.high prices.low = .ok false
      rw [less_eq positive.high.1 positive.low.1, decide_eq_false around]

theorem sourceRow_dumped (values : Column -> Text) :
    orValueError (library.dumps (sourceRow values)) =
      .ok ((library.dumps (sourceRow values)).getD []) := by
  have known := library.dumps_texts (required.map fun column => (column.title, values column))
  rcases Option.isSome_iff_exists.mp known with ⟨dumped, same⟩
  rw [sourceRow, same]
  rfl

end Parts

/-! ## Rows -/

/-- The record that a reading makes. -/
def recordOf (library : Library) (context : Context) (values : Column -> Text)
    (reading : Reading) : BarRecord :=
  record context values reading.prices reading.volume (closeTime library reading.date)
    (library.sha256 ((library.dumps (sourceRow values)).getD []))

section Rows

variable {library : Library} {start finish : DateTime} {context : Context}
  {header row : List Text} {state next : List BarRecord × List Date}

theorem missing_iff :
    (required.any fun column => missing library (cell header row column)) = false <->
      forall column, missing library (cell header row column) = false := by
  rw [List.any_eq_false]
  constructor
  · intro none column
    have member : column ∈ required := by cases column <;> decide
    exact Bool.eq_false_iff.mpr (none column member)
  · intro none column _
    rw [none column]
    exact Bool.false_ne_true

/-- A row gives a record exactly when it obeys the rules and its date is new. -/
theorem bar_ok_iff :
    bar library start finish context header state row = .ok next <->
      exists reading, Rules library start finish header row reading ∧ reading.date ∉ state.2 ∧
        next = (state.1 ++ [recordOf library context (cell header row) reading],
          reading.date :: state.2) := by
  constructor
  · intro done
    rw [bar] at done
    by_cases lengths : row.length = header.length
    · rw [if_neg (not_not_intro lengths)] at done
      cases found : required.any fun column => missing library (cell header row column) with
      | true =>
          rw [found, if_pos rfl] at done
          cases done
      | false =>
          rw [found, if_neg Bool.false_ne_true] at done
          rcases except_bind_ok done with ⟨date, dated, rest⟩
          rcases except_bind_ok rest with ⟨prices, priced, rest⟩
          rcases except_bind_ok rest with ⟨volume, weighed, rest⟩
          rcases sessionDate_ok_iff.mp dated with ⟨canonical, inRange, fresh⟩
          rcases readPrices_ok_iff.mp priced with ⟨⟨first, second, third, fourth⟩, positive⟩
          rcases readVolume_ok_iff.mp weighed with ⟨read, whole⟩
          rcases inconsistent_ok positive with ⟨answer, compared, exactly⟩
          rw [except_bind_eq (unguarded_ok_iff.mpr compared)] at rest
          cases answer with
          | true => cases rest
          | false =>
              rw [if_neg Bool.false_ne_true] at rest
              rw [except_bind_eq (unguarded_ok_iff.mpr (sessionClose_eq library date)),
                except_bind_eq (unguarded_ok_iff.mpr (sourceRow_dumped _))] at rest
              rcases except_bind_ok rest with ⟨units, counted, rest⟩
              cases rest
              have units_eq := (intOfDecimal_finite whole.finite).symm.trans
                (unguarded_ok_iff.mp counted)
              refine ⟨⟨date, prices, units⟩, ⟨lengths, missing_iff.mp found, canonical, inRange,
                first, second, third, fourth, positive, exactly.mp rfl, volume, read, whole,
                Except.ok.inj units_eq⟩, fresh, rfl⟩
    · rw [if_pos lengths] at done
      cases done
  · rintro ⟨reading, rules, fresh, made⟩
    rcases rules.volume with ⟨volume, read, whole, units⟩
    rcases inconsistent_ok rules.positive with ⟨answer, compared, exactly⟩
    have answered := exactly.mpr rules.ordered
    subst answered
    have counted : intOfDecimal volume = .ok reading.volume :=
      (intOfDecimal_finite whole.finite).trans (congrArg _ units)
    rw [bar, if_neg (not_not_intro rules.cells), missing_iff.mpr rules.present,
      if_neg Bool.false_ne_true,
      except_bind_eq (sessionDate_ok_iff.mpr ⟨rules.date, rules.inRange, fresh⟩),
      except_bind_eq (readPrices_ok_iff.mpr
        ⟨⟨rules.openPrice, rules.high, rules.low, rules.closePrice⟩, rules.positive⟩),
      except_bind_eq (readVolume_ok_iff.mpr ⟨read, whole⟩),
      except_bind_eq (unguarded_ok_iff.mpr compared), if_neg Bool.false_ne_true,
      except_bind_eq (unguarded_ok_iff.mpr (sessionClose_eq library reading.date)),
      except_bind_eq (unguarded_ok_iff.mpr (sourceRow_dumped _)),
      except_bind_eq (unguarded_ok_iff.mpr counted), made]
    rfl

theorem bar_contained : ¬ Escapes (bar library start finish context header state row) := by
  rw [bar]
  split
  · exact not_escapes_raise
  · split
    · exact not_escapes_raise
    · apply not_stops_bind sessionDate_contained
      intro date _
      apply not_stops_bind readPrices_contained
      intro prices priced
      apply not_stops_bind readVolume_contained
      intro volume weighed
      rcases inconsistent_ok (readPrices_ok_iff.mp priced).2 with ⟨answer, compared, _⟩
      rw [except_bind_eq (unguarded_ok_iff.mpr compared)]
      split
      · exact not_escapes_raise
      · have counted := intOfDecimal_finite (readVolume_ok_iff.mp weighed).2.finite
        rw [except_bind_eq (unguarded_ok_iff.mpr (sessionClose_eq library date)),
          except_bind_eq (unguarded_ok_iff.mpr (sourceRow_dumped _)),
          except_bind_eq (unguarded_ok_iff.mpr counted)]
        exact not_stops_ok _

/-- A record that is made of a row is sound. -/
theorem recordOf_sound {reading : Reading}
    (rules : Rules library start finish header row reading) (values : Column -> Text) :
    (recordOf library context values reading).Sound := by
  rcases rules.volume with ⟨volume, _, whole, units⟩
  refine ⟨rules.positive, rules.ordered, ?_, rfl⟩
  change 0 ≤ reading.volume
  rw [← units]
  exact truncate_nonneg whole.nonneg

/-- The records of a table, whose rows obey the rules and have different dates. -/
theorem foldlM_bar_iff {rows : List (List Text)} :
    rows.foldlM (bar library start finish context header) state = .ok next <->
      exists readings, List.Forall₂ (Rules library start finish header) rows readings ∧
        ((readings.map Reading.date).Nodup ∧
          forall reading, reading ∈ readings -> reading.date ∉ state.2) ∧
        next = (state.1 ++ List.zipWith
            (fun row reading => recordOf library context (cell header row) reading) rows readings,
          (readings.map Reading.date).reverse ++ state.2) := by
  induction rows generalizing state with
  | nil =>
      constructor
      · intro done
        cases done
        refine ⟨[], List.Forall₂.nil, ⟨List.nodup_nil, fun _ none => nomatch none⟩, ?_⟩
        rw [List.zipWith_nil_left, List.append_nil]
        rfl
      · rintro ⟨readings, rules, _, same⟩
        cases rules
        rw [same, List.zipWith_nil_left, List.append_nil]
        rfl
  | cons head tail ih =>
      constructor
      · intro done
        rcases foldlM_cons_ok done with ⟨middle, first, rest⟩
        rcases bar_ok_iff.mp first with ⟨reading, rules, fresh, same⟩
        rcases ih.mp rest with ⟨readings, others, ⟨distinct, apart⟩, ends⟩
        subst same
        refine ⟨reading :: readings, List.Forall₂.cons rules others, ⟨?_, ?_⟩, ?_⟩
        · rw [List.map_cons, List.nodup_cons]
          refine ⟨fun found => ?_, distinct⟩
          rcases List.mem_map.mp found with ⟨other, member, equal⟩
          apply apart other member
          rw [equal]
          exact List.mem_cons_self
        · intro other member
          rcases List.mem_cons.mp member with same | later
          · exact same ▸ fresh
          · exact fun known => apart other later (List.mem_cons_of_mem _ known)
        · rw [ends, List.zipWith_cons_cons, List.map_cons, List.reverse_cons, List.append_assoc,
            List.append_assoc]
          rfl
      · rintro ⟨readings, rules, ⟨distinct, apart⟩, ends⟩
        cases rules with
        | @cons _ reading _ readings rules others =>
            rw [List.map_cons, List.nodup_cons] at distinct
            rw [List.foldlM_cons, except_bind_eq (bar_ok_iff.mpr
              ⟨reading, rules, apart reading List.mem_cons_self, rfl⟩)]
            refine ih.mpr ⟨readings, others, ⟨distinct.2, ?_⟩, ?_⟩
            · intro other member known
              rcases List.mem_cons.mp known with same | earlier
              · exact distinct.1 (same ▸ List.mem_map_of_mem member)
              · exact apart other (List.mem_cons_of_mem _ member) earlier
            · rw [ends, List.zipWith_cons_cons, List.map_cons, List.reverse_cons,
                List.append_assoc, List.append_assoc]
              rfl

end Rows

/-! ## Tables -/

section Tables

variable {library : Library} {start finish : DateTime} {context : Context}
  {header : List Text} {rows : List (List Text)} {records : List BarRecord}

theorem names_nodup : (required.map Column.name).Nodup := by decide

/-- The header names the columns in some order. -/
theorem checkHeader_ok_iff :
    checkHeader header = .ok () <-> header.Perm (required.map Column.name) := by
  rw [checkHeader]
  by_cases distinct : header.Nodup
  · rw [if_neg (not_not_intro distinct)]
    by_cases other : header.length ≠ required.length ∨
        ¬ ((forall name, name ∈ header -> name ∈ required.map Column.name) ∧
          forall name, name ∈ required.map Column.name -> name ∈ header)
    · rw [if_pos other]
      refine iff_of_false (fun impossible => nomatch impossible) fun perm => absurd other ?_
      rw [not_or, not_not, not_not]
      refine ⟨perm.length_eq.trans (List.length_map _), fun name member => perm.mem_iff.mp member,
        fun name member => perm.mem_iff.mpr member⟩
    · rw [if_neg other]
      rw [not_or, not_not, not_not] at other
      refine iff_of_true rfl ((List.perm_ext_iff_of_nodup distinct names_nodup).mpr ?_)
      exact fun name => ⟨other.2.1 name, other.2.2 name⟩
  · rw [if_pos distinct]
    refine iff_of_false (fun impossible => nomatch impossible) fun perm => distinct ?_
    exact perm.nodup_iff.mpr names_nodup

theorem checkHeader_contained : ¬ Escapes (checkHeader header) := by
  rw [checkHeader]
  split
  · exact not_escapes_raise
  · split
    · exact not_escapes_raise
    · exact not_stops_ok _

/-- The records of rows, in the order of their times. -/
def sortedRecords (library : Library) (context : Context) (header : List Text)
    (rows : List (List Text)) (readings : List Reading) : List BarRecord :=
  SortedLists.sortedBy (fun record => record.eventTime.instant)
    (List.zipWith (fun row reading => recordOf library context (cell header row) reading)
      rows readings)

theorem bars_ok_iff :
    bars library start finish context header rows = .ok records <->
      rows ≠ [] ∧ exists readings, List.Forall₂ (Rules library start finish header) rows readings ∧
        (readings.map Reading.date).Nodup ∧
        records = sortedRecords library context header rows readings := by
  constructor
  · intro done
    rcases except_bind_ok done with ⟨next, folded, rest⟩
    rcases foldlM_bar_iff.mp folded with ⟨readings, rules, ⟨distinct, _⟩, same⟩
    subst same
    rw [List.nil_append] at rest
    have nonempty : rows ≠ [] := by
      intro none
      subst none
      rw [List.zipWith_nil_left] at rest
      cases rest
    refine ⟨nonempty, readings, rules, distinct, ?_⟩
    change (if List.isEmpty (List.zipWith _ rows readings) then _ else _) = _ at rest
    split at rest
    · cases rest
    · exact (Except.ok.inj rest).symm
  · rintro ⟨nonempty, readings, rules, distinct, same⟩
    have folded := (@foldlM_bar_iff library start finish context header ([], []) _ rows).mpr
      ⟨readings, rules, ⟨distinct, fun _ _ => List.not_mem_nil⟩, rfl⟩
    rw [bars, except_bind_eq folded, List.nil_append]
    have some_record : (List.zipWith (fun row reading =>
        recordOf library context (cell header row) reading) rows readings).isEmpty = false := by
      cases rules with
      | nil => exact absurd rfl nonempty
      | cons _ _ => rfl
    simp only [some_record, Bool.false_eq_true, if_false]
    rw [same]
    rfl

theorem bars_contained : ¬ Escapes (bars library start finish context header rows) := by
  apply not_stops_bind
  · exact not_stops_foldlM (fun _ _ _ => bar_contained) _
  · intro next _
    rcases next with ⟨records, _⟩
    change ¬ Escapes (if records.isEmpty then _ else _)
    split
    · exact not_escapes_raise
    · exact not_stops_ok _

/-- What the request gives to the records of a payload. -/
def contextOf (library : Library) (payload : StooqPayload) (symbol providerSymbol : Text)
    (retrieved : DateTime) : Context :=
  ⟨canonicalSymbol library symbol, providerSymbol, payload.contentType, retrieved⟩

variable {payload : StooqPayload} {symbol providerSymbol : Text} {retrieved : DateTime}

/-- What a payload has to be for records to be returned, and which they are. -/
theorem parseCsv_ok_iff :
    parseCsv library payload symbol providerSymbol start finish retrieved = .ok records <->
      exists text first rows, decode payload.body = .ok text ∧
        ¬ (';' ∈ firstLine text ∧ ',' ∉ firstLine text) ∧
        parsedRows text = .ok (first :: rows) ∧
        (headerOf library first).Perm (required.map Column.name) ∧
        bars library start finish (contextOf library payload symbol providerSymbol retrieved)
          (headerOf library first) rows = .ok records := by
  constructor
  · intro done
    rcases except_bind_ok done with ⟨text, decoded, rest⟩
    by_cases delimited : ';' ∈ firstLine text ∧ ',' ∉ firstLine text
    · rw [if_pos delimited] at rest
      cases rest
    · rw [if_neg delimited] at rest
      rcases except_bind_ok rest with ⟨table, parsed, rest⟩
      cases table with
      | nil => cases rest
      | cons first rows =>
          rcases except_bind_ok rest with ⟨_, checked, rest⟩
          exact ⟨text, first, rows, decoded, delimited, parsed, checkHeader_ok_iff.mp checked, rest⟩
  · rintro ⟨text, first, rows, decoded, delimited, parsed, named, rest⟩
    rw [parseCsv, except_bind_eq decoded, if_neg delimited, except_bind_eq parsed]
    exact (except_bind_eq (checkHeader_ok_iff.mpr named) _).trans rest

theorem decode_contained (body : ByteArray) : ¬ Escapes (decode body) := by
  rw [decode]
  split
  · split
    · exact not_stops_ok _
    · exact not_stops_ok _
  · exact not_escapes_raise

theorem parsedRows_contained (text : Text) : ¬ Escapes (parsedRows text) := by
  rw [parsedRows]
  split
  · exact not_stops_ok _
  · exact not_escapes_raise

theorem parseCsv_contained :
    ¬ Escapes (parseCsv library payload symbol providerSymbol start finish retrieved) := by
  apply not_stops_bind (decode_contained _)
  intro text _
  split
  · exact not_escapes_raise
  · apply not_stops_bind (parsedRows_contained text)
    intro table _
    split
    · exact not_escapes_raise
    · apply not_stops_bind checkHeader_contained
      intro _ _
      exact bars_contained

theorem sortedRecords_sound {readings : List Reading}
    (rules : List.Forall₂ (Rules library start finish header) rows readings) {found : BarRecord}
    (member : found ∈ sortedRecords library context header rows readings) : found.Sound := by
  have listed := SortedLists.mem_sortedBy.mp member
  clear member
  induction rules with
  | nil => cases listed
  | @cons row reading _ _ here _ ih =>
      rw [List.zipWith_cons_cons] at listed
      rcases List.mem_cons.mp listed with same | later
      · rw [same]
        exact recordOf_sound here _
      · exact ih later

/-- Whatever the bytes are, the parser fails closed. -/
theorem parseCsv_failsClosed :
    FailsClosed (parseCsv library payload symbol providerSymbol start finish retrieved) := by
  refine ⟨parseCsv_contained, fun records done found member => ?_⟩
  rcases parseCsv_ok_iff.mp done with ⟨_, _, _, _, _, _, _, built⟩
  rcases bars_ok_iff.mp built with ⟨_, readings, rules, _, same⟩
  rw [same] at member
  exact sortedRecords_sound rules member

end Tables

end Stooq
end Payloads
end MarketIntelligence
