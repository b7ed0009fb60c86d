import MarketIntelligence.Payloads.FailClosed

namespace MarketIntelligence
namespace Payloads
namespace Stooq

open Foundations
open Foundations.CalendarDates
open Foundations.CsvReader
open Foundations.DecimalText
open Foundations.Loops
open Foundations.TextLines

/-!
# Tables that are printed and read back

A bar is printed with its date, its prices and its volume, in any order of the columns.  The table
of bars with different dates is read back as these bars, in the order of their times, as long as no
number is longer than a field may be.

A table of which one row breaks a rule, or two rows have one date, is refused.  Rows of blanks are
no rows of the table.
-/

/-- The number can be a value of `Decimal`. -/
def Representable : Decimal -> Prop
  | .finite _ coefficient exponent => Decimal.WithinLimits coefficient exponent
  | .infinity _ => True
  | .notANumber _ => True

/-- A daily bar. -/
structure Bar where
  date : Date
  prices : Prices
  volume : Nat
  positive : prices.Positive
  ordered : prices.Ordered
  openPrice : Representable prices.openPrice
  high : Representable prices.high
  low : Representable prices.low
  closePrice : Representable prices.closePrice

/-- What is printed of a bar in a column. -/
def Bar.text (bar : Bar) : Column -> Text
  | .date => bar.date.isoformat
  | .openPrice => bar.prices.openPrice.print
  | .high => bar.prices.high.print
  | .low => bar.prices.low.print
  | .closePrice => bar.prices.closePrice.print
  | .volume => Nat.toDigits 10 bar.volume

/-- No number of the bar is longer than a field of the table may be.  The reader of the table
refuses a longer one. -/
def Bar.Short (bar : Bar) : Prop :=
  forall column, (bar.text column).length ≤ fieldLimit

def Bar.reading (bar : Bar) : Reading := ⟨bar.date, bar.prices, bar.volume⟩

/-- The table of the bars, with its header. -/
def table (order : List Column) (bars : List Bar) : List (List Text) :=
  (order.map fun column => column.title.toList) :: bars.map fun bar => order.map bar.text

def printed (lineEnd : LineEnd) (order : List Column) (bars : List Bar) : ByteArray :=
  (String.ofList (CsvReader.print lineEnd (table order bars))).toUTF8

/-! ## The text of a bar -/

section Texts

/-- A text of digits and signs that begins with a digit. -/
structure Numeric (text : Text) : Prop where
  begins : exists char rest, text = char :: rest ∧ char.isDigit = true
  numeral : forall char, char ∈ text -> Decimal.Numeral char

theorem Numeric.nonempty {text : Text} (numeric : Numeric text) : text ≠ [] := by
  rcases numeric.begins with ⟨char, rest, same, _⟩
  rw [same]
  exact List.cons_ne_nil _ _

theorem Numeric.strip {text : Text} (numeric : Numeric text) : strip text = text :=
  strip_of_none fun char member => (numeric.numeral char member).space

theorem numeral_ascii {char : Char} (numeral : Decimal.Numeral char) : char.toNat < 128 := by
  rcases numeral with digit | rfl | rfl | rfl | rfl
  · have bounds := Decimal.digit_bounds digit
    omega
  all_goals decide

theorem numeral_plain {char : Char} (numeral : Decimal.Numeral char) : Plain char := by
  rcases numeral with digit | rfl | rfl | rfl | rfl
  · refine ⟨Decimal.ne_of_digit digit rfl, Decimal.ne_of_digit digit rfl, ?_⟩
    rw [newline, decide_eq_false (Decimal.ne_of_digit digit rfl),
      decide_eq_false (Decimal.ne_of_digit digit rfl)]
    rfl
  all_goals exact ⟨by decide, by decide, rfl⟩

theorem Numeric.plainCell {text : Text} (numeric : Numeric text) : PlainCell text :=
  ⟨numeric.nonempty, fun char member => numeral_plain (numeric.numeral char member)⟩

theorem Numeric.present {text : Text} (numeric : Numeric text) (library : Library) :
    missing library text = false := by
  have ascii : Ascii text := fun char member => numeral_ascii (numeric.numeral char member)
  rcases numeric.begins with ⟨char, rest, same, digit⟩
  have kept : char.toUpper = char := by
    refine dif_neg ?_
    rintro ⟨lower, _⟩
    have above : 97 ≤ char.toNat := lower
    have bounds := Decimal.digit_bounds digit
    omega
  rw [missing, decide_eq_false numeric.nonempty, Bool.false_or, library.upper_ascii text ascii,
    same, List.map_cons, kept]
  apply decide_eq_false
  intro equal
  exact Decimal.ne_of_digit digit (by decide) (List.cons.inj equal).1

theorem numeric_digits {text : Text} (nonempty : text ≠ [])
    (all : forall char, char ∈ text -> char.isDigit = true) : Numeric text := by
  rcases List.exists_cons_of_ne_nil nonempty with ⟨char, rest, same⟩
  refine ⟨⟨char, rest, same, all char ?_⟩, fun char member => Or.inl (all char member)⟩
  rw [same]
  exact List.mem_cons_self

theorem numeric_price {coefficient : Nat} {exponent : Int} :
    Numeric (Decimal.finite false coefficient exponent).print := by
  refine ⟨?_, fun char member => Decimal.print_numeral member⟩
  rcases Decimal.printDigits_spells coefficient exponent with ⟨parts, text, _, _⟩
  rcases List.exists_cons_of_ne_nil parts.started with ⟨char, rest, whole⟩
  refine ⟨char, rest ++ parts.dot ++ parts.tail, ?_, parts.wholes char ?_⟩
  · refine text.symm.trans ?_
    rw [Decimal.Parts.text, whole]
    rfl
  · rw [whole]
    exact List.mem_cons_self

theorem isoformat_short (date : Date) : date.isoformat.length ≤ fieldLimit := by
  rcases date.valid with ⟨⟨_, lastYear⟩, ⟨_, december⟩, _, late⟩
  have days := Nat.le_trans late (Date.daysInMonth_le (leap date.year) december)
  rw [Date.isoformat, List.length_append, List.length_cons, List.length_append, List.length_cons,
    Date.pad_length (by decide) (by omega), Date.pad_length (by decide) (by omega),
    Date.pad_length (by decide) (by omega)]
  decide

theorem numeric_date (date : Date) : Numeric date.isoformat := by
  constructor
  · rcases List.exists_cons_of_ne_nil (List.ne_nil_of_length_pos (by
      rw [Date.pad_length (by decide) (Nat.lt_succ_of_le date.valid.1.2)]
      decide : 0 < (Date.pad 4 date.year).length)) with ⟨char, rest, same⟩
    refine ⟨char, rest ++ '-' :: (Date.pad 2 date.month ++ '-' :: Date.pad 2 date.day), ?_,
      Date.pad_digits 4 date.year char ?_⟩
    · rw [Date.isoformat, same]
      rfl
    · rw [same]
      exact List.mem_cons_self
  · intro char member
    have dash : Decimal.Numeral '-' := Or.inr (Or.inr (Or.inr (Or.inr rfl)))
    rcases List.mem_append.mp member with year | rest
    · exact Or.inl (Date.pad_digits 4 _ char year)
    · rcases List.mem_cons.mp rest with same | rest
      · exact same ▸ dash
      · rcases List.mem_append.mp rest with month | rest
        · exact Or.inl (Date.pad_digits 2 _ char month)
        · rcases List.mem_cons.mp rest with same | day
          · exact same ▸ dash
          · exact Or.inl (Date.pad_digits 2 _ char day)

theorem positive_unsigned {price : Decimal} (positive : Payloads.Positive price) :
    exists coefficient exponent, price = .finite false coefficient exponent := by
  cases price with
  | finite negative coefficient exponent =>
      cases negative with
      | false => exact ⟨coefficient, exponent, rfl⟩
      | true =>
          have below : (Decimal.finite true coefficient exponent).value ≤ 0 := by
            rw [Decimal.value, if_pos rfl, neg_mul]
            exact neg_nonpos.mpr (mul_nonneg (Nat.cast_nonneg _) (zpow_nonneg (by norm_num) _))
          exact absurd positive.2 (not_lt.mpr below)
  | infinity _ => exact absurd positive.1 Bool.false_ne_true
  | notANumber _ => exact absurd positive.1 Bool.false_ne_true

theorem price_numeric {price : Decimal} (positive : Payloads.Positive price) :
    Numeric price.print := by
  rcases positive_unsigned positive with ⟨coefficient, exponent, same⟩
  rw [same]
  exact numeric_price

theorem decimal_print {library : Library} {price : Decimal} (positive : Payloads.Positive price)
    (representable : Representable price) : decimal library price.print = .ok price := by
  rcases positive_unsigned positive with ⟨coefficient, exponent, same⟩
  subst same
  rw [decimal, Decimal.read_print representable]

theorem Bar.numeric (bar : Bar) (column : Column) : Numeric (bar.text column) := by
  cases column with
  | date => exact numeric_date bar.date
  | openPrice => exact price_numeric bar.positive.openPrice
  | high => exact price_numeric bar.positive.high
  | low => exact price_numeric bar.positive.low
  | closePrice => exact price_numeric bar.positive.closePrice
  | volume =>
      exact numeric_digits Nat.toDigits_ne_nil (Decimal.digits_toDigits bar.volume)

theorem print_whole (number : Nat) :
    (Decimal.finite false number 0).print = Nat.toDigits 10 number := by
  have nonempty : Nat.toDigits 10 number ≠ [] := Nat.toDigits_ne_nil
  have positive := List.length_pos_iff.mpr nonempty
  change Decimal.printDigits number 0 = _
  rw [Decimal.printDigits, if_pos ⟨Int.le_refl 0, by omega⟩, if_neg (by omega), if_pos rfl]

theorem decimal_volume {library : Library} {volume : Nat}
    (short : (Nat.toDigits 10 volume).length ≤ fieldLimit) :
    decimal library (Nat.toDigits 10 volume) = .ok (.finite false volume 0) := by
  have limits : Decimal.WithinLimits volume 0 := by
    simp only [Decimal.WithinLimits, Decimal.minExponent, Decimal.maxExponent]
    simp only [fieldLimit] at short
    omega
  rw [decimal, ← print_whole, Decimal.read_print limits]

theorem value_whole (number : Nat) : (Decimal.finite false number 0).value = number := by
  rw [Decimal.value, zpow_zero, mul_one]
  rfl

theorem whole_volume (number : Nat) : Whole (Decimal.finite false number 0) := by
  refine ⟨rfl, ?_, rfl⟩
  rw [value_whole]
  exact Nat.cast_nonneg number

theorem truncate_whole (number : Nat) : truncate (number : Rat) = number := by
  rw [truncate, if_pos (Nat.cast_nonneg number)]
  exact Int.floor_natCast (R := Rat) number

end Texts

/-! ## The rows of the table -/

section Rows

variable {library : Library} {start finish : DateTime} {order : List Column}

theorem name_injective {first second : Column} (same : first.name = second.name) :
    first = second := by
  have all : forall first second : Column, first.name = second.name -> first = second := by
    intro first second
    cases first <;> cases second <;> decide
  exact all first second same

/-- The cell under the name of a column is the one printed for it. -/
theorem getD_idxOf (view : Column -> Text) {column : Column} (member : column ∈ order) :
    (order.map view).getD ((order.map Column.name).idxOf column.name) [] = view column := by
  induction order with
  | nil => cases member
  | cons head tail ih =>
      rw [List.map_cons, List.map_cons]
      by_cases same : head = column
      · rw [same, List.idxOf_cons_self]
        rfl
      · have apart : head.name ≠ column.name := fun equal => same (name_injective equal)
        rw [List.idxOf_cons_ne _ apart, List.getD_cons_succ]
        apply ih
        exact (List.mem_cons.mp member).resolve_left fun equal => same equal.symm

theorem mem_order (perm : order.Perm required) (column : Column) : column ∈ order := by
  apply perm.mem_iff.mpr
  cases column <;> decide

theorem cell_text (perm : order.Perm required) (bar : Bar) (column : Column) :
    cell (order.map Column.name) (order.map bar.text) column = bar.text column := by
  rw [cell, getD_idxOf bar.text (mem_order perm column)]
  exact (bar.numeric column).strip

/-- A bar in the range obeys the rules. -/
theorem Bar.rules (perm : order.Perm required) {bar : Bar} (short : bar.Short)
    (inRange : start.day ≤ bar.date.ordinal ∧ (bar.date.ordinal : Int) ≤ finish.day) :
    Rules library start finish (order.map Column.name) (order.map bar.text) bar.reading where
  cells := (List.length_map _).trans (List.length_map _).symm
  present column := by
    rw [cell_text perm]
    exact (bar.numeric column).present library
  date := cell_text perm bar .date
  inRange := inRange
  openPrice := (congrArg (decimal library) (cell_text perm bar .openPrice)).trans
    (decimal_print bar.positive.openPrice bar.openPrice)
  high := (congrArg (decimal library) (cell_text perm bar .high)).trans
    (decimal_print bar.positive.high bar.high)
  low := (congrArg (decimal library) (cell_text perm bar .low)).trans
    (decimal_print bar.positive.low bar.low)
  closePrice := (congrArg (decimal library) (cell_text perm bar .closePrice)).trans
    (decimal_print bar.positive.closePrice bar.closePrice)
  positive := bar.positive
  ordered := bar.ordered
  volume := by
    refine ⟨.finite false bar.volume 0, ?_, whole_volume bar.volume, ?_⟩
    · exact (congrArg (decimal library) (cell_text perm bar .volume)).trans
        (decimal_volume (short .volume))
    · rw [value_whole]
      exact truncate_whole bar.volume

theorem title_plain (column : Column) : PlainCell column.title.toList := by
  have all : column.title.toList ≠ [] ∧ (column.title.toList.all fun char =>
      char ≠ ',' ∧ char ≠ '"' ∧ newline char = false) = true := by
    cases column <;> decide
  refine ⟨all.1, fun char member => ?_⟩
  have plain : char ≠ ',' ∧ char ≠ '"' ∧ newline char = false :=
    of_decide_eq_true (List.all_eq_true.mp all.2 char member)
  exact plain

theorem title_short (column : Column) : column.title.toList.length ≤ fieldLimit := by
  cases column <;> decide +kernel

theorem headerOf_titles (library : Library) (order : List Column) :
    headerOf library (order.map fun column => column.title.toList) = order.map Column.name := by
  rw [headerOf, List.map_map]
  apply List.map_congr_left
  intro column _
  have bare : strip column.title.toList = column.title.toList := by
    cases column <;> decide
  have ascii : Ascii column.title.toList := by
    have all : (column.title.toList.all fun char => char.toNat < 128) = true := by
      cases column <;> decide
    exact fun char member => of_decide_eq_true (List.all_eq_true.mp all char member)
  have lowered : column.title.toList.map Char.toLower = column.name := by
    cases column <;> decide
  change library.lower (strip column.title.toList) = column.name
  rw [bare, library.lower_ascii _ ascii, lowered]

theorem order_nonempty (perm : order.Perm required) : order ≠ [] := by
  intro empty
  rw [empty] at perm
  exact absurd perm.length_eq (by decide)

theorem table_plain (perm : order.Perm required) {bars : List Bar}
    (short : forall bar, bar ∈ bars -> bar.Short) :
    forall row, row ∈ table order bars -> PlainRow fieldLimit row := by
  have filled : forall view : Column -> Text, order.map view ≠ [] := fun view empty =>
    order_nonempty perm (List.map_eq_nil_iff.mp empty)
  intro row member
  rcases List.mem_cons.mp member with header | later
  · subst header
    refine ⟨filled _, ?_, ?_⟩
    · intro cell inside
      rcases List.mem_map.mp inside with ⟨column, _, same⟩
      exact same ▸ title_plain column
    · intro cell inside
      rcases List.mem_map.mp inside with ⟨column, _, same⟩
      exact same ▸ title_short column
  · rcases List.mem_map.mp later with ⟨bar, listed, same⟩
    subst same
    refine ⟨filled _, ?_, ?_⟩
    · intro cell inside
      rcases List.mem_map.mp inside with ⟨column, _, same⟩
      exact same ▸ (bar.numeric column).plainCell
    · intro cell inside
      rcases List.mem_map.mp inside with ⟨column, _, same⟩
      exact same ▸ short bar listed column

/-- No row of the table is blank. -/
theorem table_filled (perm : order.Perm required) {bars : List Bar} :
    (table order bars).filter (fun row => !blank row) = table order bars := by
  have shown : forall view : Column -> Text, (forall column, strip (view column) ≠ []) ->
      (!blank (order.map view)) = true := by
    intro view filled
    rcases List.exists_cons_of_ne_nil (order_nonempty perm) with ⟨column, rest, same⟩
    rw [same, blank, List.map_cons, List.all_cons, decide_eq_false (filled column)]
    rfl
  apply List.filter_eq_self.mpr
  intro row member
  rcases List.mem_cons.mp member with header | later
  · rw [header]
    apply shown
    intro column
    cases column <;> decide
  · rcases List.mem_map.mp later with ⟨bar, _, same⟩
    rw [← same]
    apply shown
    intro column
    rw [(bar.numeric column).strip]
    exact (bar.numeric column).nonempty

end Rows

/-! ## Reading what was printed -/

section Printed

variable {library : Library} {start finish : DateTime} {order : List Column} {lineEnd : LineEnd}
  {bars : List Bar}

theorem title_char {column : Column} {char : Char} (member : char ∈ column.title.toList) :
    char.toNat < 128 ∧ boundary char = false ∧ space char = false := by
  have all : (column.title.toList.all fun char =>
      char.toNat < 128 ∧ boundary char = false ∧ space char = false) = true := by
    cases column <;> decide
  exact of_decide_eq_true (List.all_eq_true.mp all char member)

theorem print_table :
    CsvReader.print lineEnd (table order bars) =
      printRow (order.map fun column => column.title.toList) ++
        (lineEnd.text ++ CsvReader.print lineEnd (bars.map fun bar => order.map bar.text)) :=
  print_cons _ _

/-- The bytes are decoded to the text that was printed. -/
theorem decode_printed (perm : order.Perm required) :
    decode (printed lineEnd order bars) = .ok (CsvReader.print lineEnd (table order bars)) := by
  have decoded : String.fromUTF8? (printed lineEnd order bars) =
      some (String.ofList (CsvReader.print lineEnd (table order bars))) :=
    dif_pos (String.isValidUTF8 _)
  have begins : exists char rest, CsvReader.print lineEnd (table order bars) = char :: rest ∧
      char.toNat < 128 := by
    rcases List.exists_cons_of_ne_nil (order_nonempty perm) with ⟨column, others, same⟩
    rcases List.exists_cons_of_ne_nil (title_plain column).1 with ⟨char, letters, title⟩
    rcases printRow_front column.title.toList
      (others.map fun column => column.title.toList) with ⟨rest, front⟩
    refine ⟨char, letters ++ rest ++ (lineEnd.text ++
      CsvReader.print lineEnd (bars.map fun bar => order.map bar.text)), ?_, ?_⟩
    · rw [print_table, same, List.map_cons, front, title]
      rfl
    · apply (@title_char column char ?_).1
      rw [title]
      exact List.mem_cons_self
  rcases begins with ⟨char, rest, same, ascii⟩
  rw [decode, decoded]
  simp only [String.toList_ofList, same]
  split
  · rename_i marked
    rw [(List.cons.inj marked).1] at ascii
    exact absurd ascii (by decide)
  · rfl

/-- The first line of the table separates its cells with commas. -/
theorem firstLine_printed (perm : order.Perm required) :
    ',' ∈ firstLine (CsvReader.print lineEnd (table order bars)) := by
  have unbroken : forall char, char ∈ printRow (order.map fun column => column.title.toList) ->
      boundary char = false := by
    intro char member
    rcases mem_printRow member with comma | ⟨title, listed, inside⟩
    · rw [comma]
      rfl
    · rcases List.mem_map.mp listed with ⟨column, _, same⟩
      subst same
      exact (title_char inside).2.1
  have comma : ',' ∈ printRow (order.map fun column => column.title.toList) := by
    have lengths := perm.length_eq
    rcases order with _ | ⟨first, _ | ⟨second, others⟩⟩
    · cases lengths
    · cases lengths
    · exact List.mem_append_right first.title.toList List.mem_cons_self
  have filled : decide (strip (printRow (order.map fun column => column.title.toList)) ≠ []) =
      true :=
    decide_eq_true (strip_ne_nil comma rfl)
  have found := List.find?_cons_of_pos
    (l := splitlines (CsvReader.print lineEnd (bars.map fun bar => order.map bar.text)))
    (p := fun line => decide (strip line ≠ [])) filled
  rw [firstLine, print_table, splitlines_line unbroken, found]
  exact comma

theorem parsedRows_printed (perm : order.Perm required)
    (short : forall bar, bar ∈ bars -> bar.Short) :
    parsedRows (CsvReader.print lineEnd (table order bars)) = .ok (table order bars) := by
  rw [parsedRows, reader_print (table_plain perm short)]
  exact congrArg Except.ok (table_filled perm)

def Bar.record (library : Library) (context : Context) (bar : Bar) : BarRecord :=
  recordOf library context bar.text bar.reading

theorem sortedRecords_bars (perm : order.Perm required) (context : Context) :
    sortedRecords library context (order.map Column.name)
        (bars.map fun bar => order.map bar.text) (bars.map Bar.reading) =
      (SortedLists.sortedBy (fun bar => (closeTime library bar.date).instant) bars).map
        (Bar.record library context) := by
  have values : forall bar : Bar, cell (order.map Column.name) (order.map bar.text) = bar.text :=
    fun bar => funext fun column => cell_text perm bar column
  have records : List.zipWith (fun row reading =>
      recordOf library context (cell (order.map Column.name) row) reading)
        (bars.map fun bar => order.map bar.text) (bars.map Bar.reading) =
      bars.map (Bar.record library context) := by
    rw [List.zipWith_map, List.zipWith_self]
    apply List.map_congr_left
    intro bar _
    rw [values]
    rfl
  rw [sortedRecords, records, SortedLists.sortedBy_map]
  rfl

theorem bars_printed (perm : order.Perm required) (context : Context) (nonempty : bars ≠ [])
    (distinct : (bars.map Bar.date).Nodup)
    (inRange : forall bar, bar ∈ bars ->
      start.day ≤ bar.date.ordinal ∧ (bar.date.ordinal : Int) ≤ finish.day)
    (short : forall bar, bar ∈ bars -> bar.Short) :
    Stooq.bars library start finish context (order.map Column.name)
        (bars.map fun bar => order.map bar.text) =
      .ok ((SortedLists.sortedBy (fun bar => (closeTime library bar.date).instant) bars).map
        (Bar.record library context)) := by
  refine bars_ok_iff.mpr ⟨fun empty => nonempty (List.map_eq_nil_iff.mp empty),
    bars.map Bar.reading, ?_, ?_, (sortedRecords_bars perm context).symm⟩
  · rw [List.forall₂_map_left_iff, List.forall₂_map_right_iff, List.forall₂_same]
    exact fun bar member => bar.rules perm (short bar member) (inRange bar member)
  · rw [List.map_map]
    exact distinct

/-- The order of the rows does not matter when no two bars have one date. -/
theorem sorted_perm {rows : List Bar} (perm : rows.Perm bars)
    (distinct : (bars.map Bar.date).Nodup) :
    SortedLists.sortedBy (fun bar => (closeTime library bar.date).instant) rows =
      SortedLists.sortedBy (fun bar : Bar => (closeTime library bar.date).instant) bars := by
  refine (SortedLists.sortedBy_perm perm.symm ?_).symm
  have times : bars.map (fun bar => (closeTime library bar.date).instant) =
      (bars.map Bar.date).map fun date => (closeTime library date).instant := by
    rw [List.map_map]
    rfl
  rw [times]
  exact distinct.map fun _ _ => closeTime_injective

/-- A printed table is read as its bars, sorted by their times. -/
theorem parse_printed (perm : order.Perm required) {rows : List Bar} (listed : rows.Perm bars)
    (nonempty : bars ≠ []) (distinct : (bars.map Bar.date).Nodup)
    (inRange : forall bar, bar ∈ bars ->
      start.day ≤ bar.date.ordinal ∧ (bar.date.ordinal : Int) ≤ finish.day)
    (short : forall bar, bar ∈ bars -> bar.Short) (symbol providerSymbol contentType : Text)
    (retrieved : DateTime) :
    parseCsv library ⟨printed lineEnd order rows, contentType⟩ symbol providerSymbol start finish
        retrieved =
      .ok ((SortedLists.sortedBy (fun bar => (closeTime library bar.date).instant) bars).map
        (Bar.record library
          ⟨canonicalSymbol library symbol, providerSymbol, contentType, retrieved⟩)) := by
  have each : forall bar, bar ∈ rows -> bar ∈ bars := fun _ member => listed.mem_iff.mp member
  have read := @bars_printed library start finish order rows perm
    ⟨canonicalSymbol library symbol, providerSymbol, contentType, retrieved⟩
    (fun empty => nonempty (List.perm_nil.mp (empty ▸ listed.symm)))
    ((listed.map Bar.date).nodup_iff.mpr distinct)
    (fun bar member => inRange bar (each bar member)) fun bar member => short bar (each bar member)
  rw [sorted_perm listed distinct] at read
  refine parseCsv_ok_iff.mpr ⟨_, _, _, decode_printed perm, ?_,
    parsedRows_printed perm fun bar member => short bar (each bar member), ?_, ?_⟩
  · exact fun delimited => delimited.2 (firstLine_printed perm)
  · rw [headerOf_titles]
    exact perm.map Column.name
  · rw [headerOf_titles]
    exact read

end Printed

/-! ## Refusing -/

section Refusing

variable {library : Library} {start finish : DateTime} {payload : StooqPayload}
  {symbol providerSymbol : Text} {retrieved : DateTime}

/-- Some row breaks a rule of the table, or two of its rows have one date.  The parser refuses
the whole table then, and returns no part of it. -/
def Violated (library : Library) (start finish : DateTime) (header : List Text)
    (rows : List (List Text)) : Prop :=
  (exists row, row ∈ rows ∧ forall reading, ¬ Rules library start finish header row reading) ∨
    ¬ (rows.map fun row => cell header row .date).Nodup

theorem isoformat_injective {first second : Date} (same : first.isoformat = second.isoformat) :
    first = second := by
  have read := Date.strptime_isoformat asciiDigits first
  rw [same, Date.strptime_isoformat] at read
  exact (Option.some.inj read).symm

/-- Rows that obey the rules and have different dates do not violate them. -/
theorem not_violated {header : List Text} {rows : List (List Text)} {readings : List Reading}
    (rules : List.Forall₂ (Rules library start finish header) rows readings)
    (distinct : (readings.map Reading.date).Nodup) :
    ¬ Violated library start finish header rows := by
  have dates : (rows.map fun row => cell header row .date) =
      (readings.map Reading.date).map Date.isoformat := by
    clear distinct
    induction rules with
    | nil => rfl
    | cons here _ ih =>
        rw [List.map_cons, List.map_cons, List.map_cons, here.date, ih]
  rintro (⟨row, member, breaks⟩ | repeated)
  · clear distinct dates
    induction rules with
    | nil => cases member
    | @cons _ reading _ _ here _ ih =>
        rcases List.mem_cons.mp member with same | later
        · exact breaks reading (same ▸ here)
        · exact ih later
  · apply repeated
    rw [dates]
    exact distinct.map fun _ _ => isoformat_injective

/-- A table that violates the rules is refused. -/
theorem parse_refuses {text : Text} {rows : List (List Text)} {first : List Text}
    {others : List (List Text)} (decoded : decode payload.body = .ok text)
    (read : CsvReader.reader fieldLimit text = .ok rows)
    (filled : rows.filter (fun row => !blank row) = first :: others)
    (violated : Violated library start finish (headerOf library first) others) :
    exists kind message, parseCsv library payload symbol providerSymbol start finish retrieved =
      .error (.provider kind message) := by
  cases outcome : parseCsv library payload symbol providerSymbol start finish retrieved with
  | error raised =>
      cases raised with
      | provider kind message => exact ⟨kind, message, rfl⟩
      | python exception => exact absurd ⟨_, outcome, trivial⟩ parseCsv_contained
  | ok records =>
      rcases parseCsv_ok_iff.mp outcome with ⟨other, header, listed, same, _, parsed, _, built⟩
      rw [decoded] at same
      cases same
      rw [parsedRows, read] at parsed
      change Except.ok (rows.filter fun row => !blank row) = _ at parsed
      rw [filled] at parsed
      cases parsed
      rcases bars_ok_iff.mp built with ⟨_, readings, rules, distinct, _⟩
      exact absurd violated (not_violated rules distinct)

end Refusing

/-- What is printed is read back in the order of the times, whatever the order of the columns and
of the rows.  A table that violates the rules anywhere is refused as a whole. -/
theorem table_roundTrip (library : Library) (symbol providerSymbol contentType : Text)
    (start finish retrieved : DateTime) :
    (forall lineEnd (order : List Column) (bars rows : List Bar), order.Perm required ->
      rows.Perm bars -> bars ≠ [] -> (bars.map Bar.date).Nodup ->
      (forall bar, bar ∈ bars ->
        start.day ≤ bar.date.ordinal ∧ (bar.date.ordinal : Int) ≤ finish.day) ->
      (forall bar, bar ∈ bars -> bar.Short) ->
      parseCsv library ⟨printed lineEnd order rows, contentType⟩ symbol providerSymbol start finish
          retrieved =
        .ok ((SortedLists.sortedBy (fun bar => (closeTime library bar.date).instant) bars).map
          (Bar.record library
            ⟨canonicalSymbol library symbol, providerSymbol, contentType, retrieved⟩))) ∧
    forall body text rows first others, decode body = .ok text ->
      CsvReader.reader fieldLimit text = .ok rows ->
      rows.filter (fun row => !blank row) = first :: others ->
      Violated library start finish (headerOf library first) others ->
      exists kind message, parseCsv library ⟨body, contentType⟩ symbol providerSymbol start finish
        retrieved = .error (.provider kind message) := by
  constructor
  · intro lineEnd order bars rows perm listed nonempty distinct inRange short
    exact parse_printed perm listed nonempty distinct inRange short symbol providerSymbol
      contentType retrieved
  · intro body text rows first others decoded read filled violated
    exact @parse_refuses library start finish ⟨body, contentType⟩ symbol providerSymbol retrieved
      text rows first others decoded read filled violated

/-! ## Two bars, a blank row and a long number -/

theorem positive_of_pos {coefficient : Nat} (exponent : Int) (pos : 0 < coefficient) :
    Payloads.Positive (.finite false coefficient exponent) := by
  refine ⟨rfl, ?_⟩
  rw [Decimal.value, if_neg Bool.false_ne_true]
  exact mul_pos (Nat.cast_pos.mpr pos) (zpow_pos (by norm_num) exponent)

/-- A bar whose four prices are one number. -/
def flatBar (date : Date) (coefficient volume : Nat) (pos : 0 < coefficient)
    (limits : Representable (.finite false coefficient 0)) : Bar where
  date := date
  prices := ⟨.finite false coefficient 0, .finite false coefficient 0, .finite false coefficient 0,
    .finite false coefficient 0⟩
  volume := volume
  positive := ⟨positive_of_pos 0 pos, positive_of_pos 0 pos, positive_of_pos 0 pos,
    positive_of_pos 0 pos⟩
  ordered := ⟨le_refl _, le_refl _, le_refl _, le_refl _⟩
  openPrice := limits
  high := limits
  low := limits
  closePrice := limits

theorem second_valid : Valid 2024 1 2 := by decide

theorem third_valid : Valid 2024 1 3 := by decide

theorem seven_representable : Representable (.finite false 7 0) := by
  change Decimal.WithinLimits 7 0
  decide

def secondBar : Bar := flatBar ⟨2024, 1, 2, second_valid⟩ 7 100 (Nat.succ_pos 6) seven_representable

def thirdBar : Bar := flatBar ⟨2024, 1, 3, third_valid⟩ 7 200 (Nat.succ_pos 6) seven_representable

theorem secondBar_short : secondBar.Short := by
  intro column
  cases column <;> decide +kernel

theorem thirdBar_short : thirdBar.Short := by
  intro column
  cases column <;> decide +kernel

def missingClose : ByteArray :=
  "Date,Open,High,Low,Close,Volume\n2024-01-02,1,2,1,,7\n".toUTF8

theorem table_roundTrip_days :
    parseCsv plainLibrary ⟨printed .carriageReturn required.reverse [thirdBar, secondBar], []⟩
        "AAPL".toList "aapl.us".toList newYear weekLater weekLater =
      .ok ((SortedLists.sortedBy (fun bar => (closeTime plainLibrary bar.date).instant)
        [secondBar, thirdBar]).map (Bar.record plainLibrary
          ⟨canonicalSymbol plainLibrary "AAPL".toList, "aapl.us".toList, [], weekLater⟩)) ∧
    exists kind message, parseCsv plainLibrary ⟨missingClose, []⟩ "AAPL".toList "aapl.us".toList
      newYear weekLater weekLater = .error (.provider kind message) := by
  have both := table_roundTrip plainLibrary "AAPL".toList "aapl.us".toList [] newYear weekLater
    weekLater
  constructor
  · apply both.1 .carriageReturn required.reverse [secondBar, thirdBar] [thirdBar, secondBar]
    · exact List.reverse_perm required
    · exact List.Perm.swap _ _ _
    · exact List.cons_ne_nil _ _
    · decide
    · decide +kernel
    · intro bar member
      rcases List.mem_pair.mp member with same | same
      · exact same ▸ secondBar_short
      · exact same ▸ thirdBar_short
  · apply both.2 missingClose "Date,Open,High,Low,Close,Volume\n2024-01-02,1,2,1,,7\n".toList
      [["Date".toList, "Open".toList, "High".toList, "Low".toList, "Close".toList,
        "Volume".toList],
        ["2024-01-02".toList, "1".toList, "2".toList, "1".toList, [], "7".toList]]
      ["Date".toList, "Open".toList, "High".toList, "Low".toList, "Close".toList,
        "Volume".toList]
      [["2024-01-02".toList, "1".toList, "2".toList, "1".toList, [], "7".toList]]
    · decide +kernel
    · decide +kernel
    · decide +kernel
    · refine Or.inl ⟨_, List.mem_cons_self, fun reading rules => ?_⟩
      have present := rules.present .closePrice
      revert present
      decide +kernel

section Long

variable {date : Date} {coefficient volume : Nat} {pos : 0 < coefficient}
  {limits : Representable (.finite false coefficient 0)}

theorem flatBar_open :
    (flatBar date coefficient volume pos limits).text .openPrice = Nat.toDigits 10 coefficient :=
  print_whole coefficient

/-- A price that is longer than a field may be is refused with its table. -/
theorem parsedRows_long (long : fieldLimit < (Nat.toDigits 10 coefficient).length) :
    parsedRows (CsvReader.print .lineFeed
        (table required [flatBar date coefficient volume pos limits])) =
      raise .schema "Stooq CSV syntax was malformed" := by
  rw [← @flatBar_open date coefficient volume pos limits] at long
  generalize flatBar date coefficient volume pos limits = bar at long ⊢
  have header : PlainRow fieldLimit (required.map fun column => column.title.toList) := by
    refine ⟨by decide, ?_, ?_⟩
    · intro cell inside
      rcases List.mem_map.mp inside with ⟨column, _, same⟩
      exact same ▸ title_plain column
    · intro cell inside
      rcases List.mem_map.mp inside with ⟨column, _, same⟩
      exact same ▸ title_short column
  have refused := @reader_long fieldLimit .lineFeed
    [required.map fun column => column.title.toList] [] [bar.text .date]
    [bar.text .high, bar.text .low, bar.text .closePrice, bar.text .volume]
    (bar.text .openPrice) (fun row member => List.mem_singleton.mp member ▸ header) ?_ ?_ long
  · have same : table required [bar] =
        [required.map fun column => column.title.toList] ++
          ([bar.text .date] ++ bar.text .openPrice :: [bar.text .high, bar.text .low,
            bar.text .closePrice, bar.text .volume]) :: [] := rfl
    rw [parsedRows, same, refused]
  · intro cell inside
    have listed : cell ∈ required.map bar.text := inside
    rcases List.mem_map.mp listed with ⟨column, _, same⟩
    exact same ▸ (bar.numeric column).plainCell
  · intro cell inside
    rw [List.mem_singleton.mp inside]
    exact isoformat_short bar.date

end Long

/-- The least number with one digit more than a field may have. -/
def longCoefficient : Nat := 10 ^ fieldLimit

theorem longCoefficient_pos : 0 < longCoefficient := by
  rw [longCoefficient]
  exact Nat.pow_pos (by decide)

theorem longCoefficient_long : fieldLimit < (Nat.toDigits 10 longCoefficient).length := by
  apply not_le.mp
  intro short
  have below := (Nat.length_toDigits_le_iff (by decide) (by decide : 0 < fieldLimit)).mp short
  rw [longCoefficient] at below
  exact Nat.lt_irrefl _ below

theorem longCoefficient_representable : Representable (.finite false longCoefficient 0) := by
  have fits : (Nat.toDigits 10 longCoefficient).length ≤ fieldLimit + 1 := by
    refine (Nat.length_toDigits_le_iff (by decide) (Nat.succ_pos _)).mpr ?_
    rw [longCoefficient]
    exact Nat.pow_lt_pow_right (by decide) (Nat.lt_succ_self _)
  change Decimal.WithinLimits longCoefficient 0
  simp only [Decimal.WithinLimits, Decimal.minExponent, Decimal.maxExponent]
  simp only [fieldLimit] at fits
  omega

def longBar : Bar :=
  flatBar ⟨2024, 1, 2, second_valid⟩ longCoefficient 7 longCoefficient_pos
    longCoefficient_representable

theorem longBar_refused :
    parsedRows (CsvReader.print .lineFeed (table required [longBar])) =
      raise .schema "Stooq CSV syntax was malformed" := by
  rw [longBar]
  exact parsedRows_long longCoefficient_long

def blankRow : ByteArray :=
  "Date,Open,High,Low,Close,Volume\n2024-01-02,1,2,1,1.5,7\n,,,,,\n".toUTF8

/-- A row of blanks is passed over though its values are missing, and a bar with a long number is
refused though it is valid. -/
theorem table_roundTrip_fails :
    (exists text first others row, decode blankRow = .ok text ∧
      CsvReader.reader fieldLimit text = .ok (first :: others) ∧ row ∈ others ∧
      (forall reading, ¬ Rules plainLibrary newYear weekLater (headerOf plainLibrary first) row
        reading) ∧
      exists records, parseCsv plainLibrary ⟨blankRow, []⟩ "AAPL".toList "aapl.us".toList newYear
        weekLater weekLater = .ok records) ∧
    parseCsv plainLibrary ⟨printed .lineFeed required [longBar], []⟩ "AAPL".toList
        "aapl.us".toList newYear weekLater weekLater =
      .error (.provider .schema "Stooq CSV syntax was malformed") := by
  constructor
  · refine ⟨"Date,Open,High,Low,Close,Volume\n2024-01-02,1,2,1,1.5,7\n,,,,,\n".toList,
      ["Date".toList, "Open".toList, "High".toList, "Low".toList, "Close".toList,
        "Volume".toList],
      [["2024-01-02".toList, "1".toList, "2".toList, "1".toList, "1.5".toList, "7".toList],
        [[], [], [], [], [], []]], [[], [], [], [], [], []], ?_, ?_,
      List.mem_cons_of_mem _ List.mem_cons_self, ?_, ?_⟩
    · decide +kernel
    · decide +kernel
    · intro reading rules
      have present := rules.present .closePrice
      revert present
      decide +kernel
    · have done : (parseCsv plainLibrary ⟨blankRow, []⟩ "AAPL".toList "aapl.us".toList newYear
          weekLater weekLater).toBool = true := by
        decide +kernel
      cases outcome : parseCsv plainLibrary ⟨blankRow, []⟩ "AAPL".toList "aapl.us".toList newYear
          weekLater weekLater with
      | ok records => exact ⟨records, rfl⟩
      | error raised =>
          rw [outcome] at done
          cases done
  · rw [parseCsv, except_bind_eq (decode_printed (List.Perm.refl required)),
      if_neg fun delimited => delimited.2 (firstLine_printed (List.Perm.refl required)),
      longBar_refused]
    rfl

end Stooq
end Payloads
end MarketIntelligence
