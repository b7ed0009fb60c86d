import MarketIntelligence.Foundations.Loops
import MarketIntelligence.Foundations.TextLines

namespace MarketIntelligence
namespace Foundations
namespace CsvReader

open Loops
open TextLines

/-!
# Comma separated values

A strict reader of records whose fields are separated by commas and may be quoted.  It takes the
lines of a text character by character.  A record ends with its line, unless the line ends within
quotes.

A table whose fields have no commas, quotes and line ends is read back from its print.  A field
that is longer than the limit is refused.
-/

inductive State where
  | startRecord
  | startField
  | inField
  | inQuotedField
  | quoteInQuotedField
  | eatCrnl
  deriving DecidableEq, Repr

inductive CsvError where
  | fieldLimit
  | delimiterExpected
  | newlineInField
  | unexpectedEnd
  deriving DecidableEq, Repr

/-- The field and the record that are being read. -/
structure Reader where
  state : State
  field : List Char
  fields : List (List Char)
  deriving DecidableEq, Repr

def fresh : Reader := ⟨.startRecord, [], []⟩

def newline (char : Char) : Bool := char = '\n' || char = '\r'

section Reading

variable (limit : Nat)

def addChar (state : State) (reader : Reader) (char : Char) : Except CsvError Reader :=
  if limit ≤ reader.field.length then .error .fieldLimit
  else .ok { reader with
    state := state
    field := reader.field ++ [char] }

def saveField (state : State) (reader : Reader) : Reader :=
  ⟨state, [], reader.fields ++ [reader.field]⟩

def startField (reader : Reader) (char : Char) : Except CsvError Reader :=
  if newline char then .ok (saveField .eatCrnl reader)
  else if char = '"' then .ok { reader with state := .inQuotedField }
  else if char = ',' then .ok (saveField .startField reader)
  else addChar limit .inField reader char

def step (reader : Reader) (char : Char) : Except CsvError Reader :=
  match reader.state with
  | .startRecord =>
      if newline char then .ok { reader with state := .eatCrnl }
      else startField limit reader char
  | .startField => startField limit reader char
  | .inField =>
      if newline char then .ok (saveField .eatCrnl reader)
      else if char = ',' then .ok (saveField .startField reader)
      else addChar limit .inField reader char
  | .inQuotedField =>
      if char = '"' then .ok { reader with state := .quoteInQuotedField }
      else addChar limit .inQuotedField reader char
  | .quoteInQuotedField =>
      if char = '"' then addChar limit .inQuotedField reader char
      else if char = ',' then .ok (saveField .startField reader)
      else if newline char then .ok (saveField .eatCrnl reader)
      else .error .delimiterExpected
  | .eatCrnl => if newline char then .ok reader else .error .newlineInField

def stepEnd (reader : Reader) : Reader :=
  match reader.state with
  | .startRecord => reader
  | .startField => saveField .startRecord reader
  | .inField => saveField .startRecord reader
  | .inQuotedField => reader
  | .quoteInQuotedField => saveField .startRecord reader
  | .eatCrnl => { reader with state := .startRecord }

/-- The characters of the lines, with the end of each line. -/
def events : List Char -> List (Option Char)
  | [] => []
  | '\r' :: '\n' :: rest => some '\r' :: some '\n' :: none :: events rest
  | char :: rest =>
      if newline char || rest.isEmpty then some char :: none :: events rest
      else some char :: events rest

def records : List (Option Char) -> Reader -> Except CsvError (List (List (List Char)))
  | [], reader =>
      if reader.field ≠ [] ∨ reader.state = .inQuotedField then .error .unexpectedEnd
      else .ok []
  | some char :: rest, reader => do
      let next ← step limit reader char
      records rest next
  | none :: rest, reader =>
      if (stepEnd reader).state = .startRecord then do
        let others ← records rest fresh
        pure ((stepEnd reader).fields :: others)
      else records rest (stepEnd reader)

/-- The records of a text. -/
def reader (text : List Char) : Except CsvError (List (List (List Char))) :=
  records limit (events text) fresh

end Reading

/-! ## Printing -/

def printRow (cells : List (List Char)) : List Char :=
  [','].intercalate cells

def print (lineEnd : LineEnd) (rows : List (List (List Char))) : List Char :=
  (rows.map fun row => printRow row ++ lineEnd.text).flatten

/-- A character that stands for itself in a field. -/
def Plain (char : Char) : Prop :=
  char ≠ ',' ∧ char ≠ '"' ∧ newline char = false

/-- A field that is printed as it is. -/
def PlainCell (cell : List Char) : Prop :=
  cell ≠ [] ∧ forall char, char ∈ cell -> Plain char

/-- The line of a record begins with its first field. -/
theorem printRow_front (cell : List Char) (others : List (List Char)) :
    exists rest, printRow (cell :: others) = cell ++ rest := by
  cases others with
  | nil => exact ⟨[], by rw [printRow, List.intercalate_singleton, List.append_nil]⟩
  | cons second rest => exact ⟨',' :: printRow (second :: rest), rfl⟩

/-- The characters of the line of a record. -/
theorem mem_printRow {row : List (List Char)} {char : Char} (member : char ∈ printRow row) :
    char = ',' ∨ exists cell, cell ∈ row ∧ char ∈ cell := by
  induction row with
  | nil => cases member
  | cons cell rest ih =>
      cases rest with
      | nil =>
          rw [printRow, List.intercalate_singleton] at member
          exact Or.inr ⟨cell, List.mem_cons_self, member⟩
      | cons second rest =>
          have split : printRow (cell :: second :: rest) =
              cell ++ ',' :: printRow (second :: rest) := rfl
          rw [split] at member
          rcases List.mem_append.mp member with own | later
          · exact Or.inr ⟨cell, List.mem_cons_self, own⟩
          · rcases List.mem_cons.mp later with comma | further
            · exact Or.inl comma
            · rcases ih further with comma | ⟨other, listed, inside⟩
              · exact Or.inl comma
              · exact Or.inr ⟨other, List.mem_cons_of_mem _ listed, inside⟩

section Lines

theorem events_cons {char : Char} {rest : List Char} (apart : newline char = false)
    (more : rest ≠ []) : events (char :: rest) = some char :: events rest := by
  have other : char ≠ '\r' := by
    intro same
    rw [same] at apart
    cases apart
  rw [events]
  · rw [apart, List.isEmpty_eq_false_iff.mpr more]
    rfl
  · intro tail same
    exact absurd same other

theorem events_line {line : List Char} (apart : forall char, char ∈ line -> newline char = false)
    (lineEnd : LineEnd) (rest : List Char) :
    events (line ++ (lineEnd.text ++ rest)) =
      line.map some ++ (lineEnd.text.map some ++ none :: events rest) := by
  induction line with
  | nil =>
      cases lineEnd with
      | lineFeed =>
          rw [List.nil_append, List.map_nil, List.nil_append]
          change events ('\n' :: rest) = some '\n' :: none :: events rest
          rw [events]
          · rfl
          · intro tail same
            exact absurd same (by decide)
      | carriageReturn => rfl
  | cons char line ih =>
      have more : line ++ (lineEnd.text ++ rest) ≠ [] := by
        intro empty
        cases lineEnd <;> cases line <;> cases empty
      rw [List.cons_append, events_cons (apart char List.mem_cons_self) more,
        ih fun other member => apart other (List.mem_cons_of_mem _ member)]
      rfl

end Lines

section Cells

variable {limit : Nat} {cell : List Char} {tail : List (Option Char)} {fields : List (List Char)}

theorem step_inField {char : Char} (plain : Plain char) {field : List Char}
    (short : field.length < limit) :
    step limit ⟨.inField, field, fields⟩ char = .ok ⟨.inField, field ++ [char], fields⟩ := by
  simp only [step, plain.2.2, Bool.false_eq_true, if_false, plain.1, addChar,
    Nat.not_le.mpr short]

theorem records_inField {field : List Char} (plain : forall char, char ∈ cell -> Plain char)
    (short : field.length + cell.length ≤ limit) :
    records limit (cell.map some ++ tail) ⟨.inField, field, fields⟩ =
      records limit tail ⟨.inField, field ++ cell, fields⟩ := by
  induction cell generalizing field with
  | nil => rw [List.map_nil, List.nil_append, List.append_nil]
  | cons char rest ih =>
      rw [List.length_cons] at short
      have stepped := @step_inField limit fields char (plain char List.mem_cons_self) field
        (by omega)
      rw [List.map_cons, List.cons_append, records, except_bind_eq stepped,
        ih fun other member => plain other (List.mem_cons_of_mem _ member)]
      · rw [List.append_assoc]
        rfl
      · rw [List.length_append, List.length_singleton]
        omega

theorem step_start {state : State} (start : state = .startRecord ∨ state = .startField)
    {char : Char} (plain : Plain char) (short : 0 < limit) :
    step limit ⟨state, [], fields⟩ char = .ok ⟨.inField, [char], fields⟩ := by
  have begun : startField limit ⟨state, [], fields⟩ char = .ok ⟨.inField, [char], fields⟩ := by
    simp only [startField, plain.2.2, Bool.false_eq_true, if_false, plain.1, plain.2.1, addChar,
      List.length_nil, Nat.not_le.mpr short, List.nil_append]
  rcases start with same | same
  · subst same
    simp only [step, plain.2.2, Bool.false_eq_true, if_false]
    exact begun
  · subst same
    exact begun

/-- A field is read to its end. -/
theorem records_cell {state : State} (start : state = .startRecord ∨ state = .startField)
    (plain : PlainCell cell) (short : cell.length ≤ limit) :
    records limit (cell.map some ++ tail) ⟨state, [], fields⟩ =
      records limit tail ⟨.inField, cell, fields⟩ := by
  rcases plain with ⟨nonempty, plain⟩
  cases cell with
  | nil => exact absurd rfl nonempty
  | cons char rest =>
      rw [List.length_cons] at short
      have stepped := @step_start limit fields state start char (plain char List.mem_cons_self)
        (by omega)
      rw [List.map_cons, List.cons_append, records, except_bind_eq stepped,
        records_inField fun other member => plain other (List.mem_cons_of_mem _ member)]
      · rfl
      · rw [List.length_singleton]
        omega

/-- A field that is too long is refused. -/
theorem records_long {state : State} (start : state = .startRecord ∨ state = .startField)
    (plain : PlainCell cell) (long : limit < cell.length) :
    records limit (cell.map some ++ tail) ⟨state, [], fields⟩ = .error .fieldLimit := by
  have refused : forall (rest : List Char) (field : List Char),
      (forall char, char ∈ rest -> Plain char) -> field.length ≤ limit ->
        limit < field.length + rest.length ->
          records limit (rest.map some ++ tail) ⟨.inField, field, fields⟩ =
            .error .fieldLimit := by
    intro rest
    induction rest with
    | nil =>
        intro field _ within beyond
        rw [List.length_nil] at beyond
        omega
    | cons char rest ih =>
        intro field plain within beyond
        rw [List.length_cons] at beyond
        have here := plain char List.mem_cons_self
        rw [List.map_cons, List.cons_append, records]
        by_cases full : limit ≤ field.length
        · have stopped : step limit ⟨.inField, field, fields⟩ char = .error .fieldLimit := by
            simp only [step, here.2.2, Bool.false_eq_true, if_false, here.1, addChar, full,
              if_true]
          rw [stopped]
          rfl
        · rw [except_bind_eq (step_inField here (Nat.not_le.mp full))]
          apply ih _ fun other member =>
            plain other (List.mem_cons_of_mem _ member)
          · rw [List.length_append, List.length_singleton]
            omega
          · rw [List.length_append, List.length_singleton]
            omega
  rcases plain with ⟨nonempty, plain⟩
  cases cell with
  | nil => exact absurd rfl nonempty
  | cons char rest =>
      have here := plain char List.mem_cons_self
      rw [List.map_cons, List.cons_append, records]
      by_cases none : limit = 0
      · have stopped : step limit ⟨state, [], fields⟩ char = .error .fieldLimit := by
          have begun : startField limit ⟨state, [], fields⟩ char = .error .fieldLimit := by
            simp only [startField, here.2.2, Bool.false_eq_true, if_false, here.1, here.2.1,
              addChar, none, Nat.zero_le, if_true]
          rcases start with same | same
          · subst same
            simp only [step, here.2.2, Bool.false_eq_true, if_false]
            exact begun
          · subst same
            exact begun
        rw [stopped]
        rfl
      · rw [except_bind_eq (step_start start here (Nat.pos_of_ne_zero none))]
        rw [List.length_cons] at long
        apply refused rest _ fun other member => plain other (List.mem_cons_of_mem _ member)
        · rw [List.length_singleton]
          omega
        · rw [List.length_singleton]
          omega

theorem step_comma {field : List Char} :
    step limit ⟨.inField, field, fields⟩ ',' = .ok ⟨.startField, [], fields ++ [field]⟩ := rfl

/-- The fields of a record up to one of them. -/
theorem records_cells {state : State} (start : state = .startRecord ∨ state = .startField)
    {cells : List (List Char)} (plain : forall cell, cell ∈ cells -> PlainCell cell)
    (short : forall cell, cell ∈ cells -> cell.length ≤ limit) {last : List Char}
    (others : List (List Char)) (tail : List (Option Char)) :
    exists next : State, (next = .startRecord ∨ next = .startField) ∧
      records limit ((printRow (cells ++ last :: others)).map some ++ tail)
          ⟨state, [], fields⟩ =
        records limit ((printRow (last :: others)).map some ++ tail)
          ⟨next, [], fields ++ cells⟩ := by
  induction cells generalizing state fields with
  | nil =>
      refine ⟨state, start, ?_⟩
      rw [List.nil_append, List.append_nil]
  | cons cell rest ih =>
      have split : printRow (cell :: rest ++ last :: others) =
          cell ++ ',' :: printRow (rest ++ last :: others) := by
        cases rest with
        | nil => rfl
        | cons second rest => rfl
      have here := @records_cell limit cell
        ((',' :: printRow (rest ++ last :: others)).map some ++ tail) fields state start
        (plain cell List.mem_cons_self) (short cell List.mem_cons_self)
      rcases @ih (fields ++ [cell]) .startField (Or.inr rfl)
          (fun other member => plain other (List.mem_cons_of_mem _ member))
          (fun other member => short other (List.mem_cons_of_mem _ member)) with
        ⟨next, begins, same⟩
      refine ⟨next, begins, ?_⟩
      rw [split, List.map_append, List.append_assoc, here, List.map_cons, List.cons_append,
        records, except_bind_eq step_comma, same, List.append_assoc]
      rfl

end Cells

section Rows

variable {limit : Nat} {lineEnd : LineEnd}

/-- A record of plain fields: none needs quotes, and none is longer than the limit of the reader.
-/
structure PlainRow (limit : Nat) (row : List (List Char)) : Prop where
  nonempty : row ≠ []
  plain : forall cell, cell ∈ row -> PlainCell cell
  short : forall cell, cell ∈ row -> cell.length ≤ limit

theorem printRow_apart {row : List (List Char)}
    (plain : forall cell, cell ∈ row -> PlainCell cell) :
    forall char, char ∈ printRow row -> newline char = false := by
  intro char member
  rcases mem_printRow member with comma | ⟨cell, listed, inside⟩
  · rw [comma]
    rfl
  · exact ((plain cell listed).2 char inside).2.2

theorem print_cons (row : List (List Char)) (rows : List (List (List Char))) :
    print lineEnd (row :: rows) = printRow row ++ (lineEnd.text ++ print lineEnd rows) := by
  rw [print, List.map_cons, List.flatten_cons, List.append_assoc]
  rfl

/-- The line of a record is read as the record. -/
theorem records_row {row : List (List Char)} (plain : PlainRow limit row) (rest : List Char) :
    records limit (events (printRow row ++ (lineEnd.text ++ rest))) fresh =
      (records limit (events rest) fresh).map (row :: ·) := by
  rw [events_line (printRow_apart plain.plain)]
  rcases List.eq_nil_or_concat row with empty | ⟨cells, last, same⟩
  · exact absurd empty plain.nonempty
  rw [List.concat_eq_append] at same
  subst same
  have front : forall cell, cell ∈ cells -> cell ∈ cells ++ [last] := fun cell member =>
    List.mem_append_left _ member
  have own : last ∈ cells ++ [last] := List.mem_append_right _ List.mem_cons_self
  rcases @records_cells limit [] .startRecord (Or.inl rfl) cells
      (fun cell member => plain.plain cell (front cell member))
      (fun cell member => plain.short cell (front cell member)) last []
      (lineEnd.text.map some ++ none :: events rest) with ⟨next, begins, same⟩
  refine same.trans ?_
  have single : printRow [last] = last := by
    rw [printRow, List.intercalate_singleton]
  rw [single, records_cell begins (plain.plain last own) (plain.short last own),
    List.nil_append]
  have ends : records limit (none :: events rest) ⟨.eatCrnl, [], cells ++ [last]⟩ =
      (records limit (events rest) fresh).map ((cells ++ [last]) :: ·) := by
    rw [records]
    change (do
      let others ← records limit (events rest) fresh
      pure ((cells ++ [last]) :: others)) = _
    cases records limit (events rest) fresh <;> rfl
  cases lineEnd with
  | lineFeed => exact ends
  | carriageReturn => exact ends

/-- A table of plain fields is read back. -/
theorem reader_print {rows : List (List (List Char))}
    (plain : forall row, row ∈ rows -> PlainRow limit row) :
    reader limit (print lineEnd rows) = .ok rows := by
  rw [reader]
  induction rows with
  | nil => rfl
  | cons row rest ih =>
      rw [print_cons, records_row (plain row List.mem_cons_self),
        ih fun other member => plain other (List.mem_cons_of_mem _ member)]
      rfl

/-- A table with a field that is too long is refused. -/
theorem reader_long {before after : List (List (List Char))} {cells others : List (List Char)}
    {long : List Char} (plain : forall row, row ∈ before -> PlainRow limit row)
    (cell : forall cell, cell ∈ cells ++ long :: others -> PlainCell cell)
    (short : forall cell, cell ∈ cells -> cell.length ≤ limit) (beyond : limit < long.length) :
    reader limit (print lineEnd (before ++ (cells ++ long :: others) :: after)) =
      .error .fieldLimit := by
  rw [reader]
  induction before with
  | nil =>
      rw [List.nil_append, print_cons, events_line (printRow_apart cell)]
      rcases @records_cells limit [] .startRecord (Or.inl rfl) cells
          (fun other member => cell other (List.mem_append_left _ member)) short long others
          (lineEnd.text.map some ++ none :: events (print lineEnd after)) with
        ⟨next, begins, same⟩
      refine same.trans ?_
      have own := cell long (List.mem_append_right _ List.mem_cons_self)
      rcases printRow_front long others with ⟨rest, split⟩
      rw [split, List.map_append, List.append_assoc]
      exact records_long begins own beyond
  | cons row rest ih =>
      rw [List.cons_append, print_cons, records_row (plain row List.mem_cons_self),
        ih fun other member => plain other (List.mem_cons_of_mem _ member)]
      rfl

end Rows

end CsvReader
end Foundations
end MarketIntelligence
