import MarketIntelligence.Payloads.JsonProvider

namespace MarketIntelligence
namespace Payloads
namespace JsonProvider

open Foundations
open Foundations.CalendarDates
open Foundations.DecimalText
open Foundations.Loops
open Foundations.Outcomes

/-!
# Where the answers of the other providers break the parser

An exception escapes where the conversion of a time or of a volume overflows, where a time is
outside the calendar of UTC, or where a row has an integer that is too long to be written.
-/

/-- The checks between the conversions and the record are passed. -/
structure Passes (library : Library) (layout : Layout) (members : List (String × Json))
    (values : Values) : Prop where
  given : readValues library layout members = .ok values
  aware : values.time.offset ≠ none
  positive : values.prices.Positive
  ordered : values.prices.Ordered
  volume : 0 ≤ values.volume

/-- The record can be written and its time is in the calendar of UTC. -/
def Writable (library : Library) (members : List (String × Json)) (values : Values) : Prop :=
  (library.dumps (.object members)).isSome = true ∧ Within values.time.instant

/-- The row gives a record: it is an object whose members convert and pass the checks of the
layout, and what is read of them can be written. -/
def Accepted (library : Library) (layout : Layout) (row : Json) : Prop :=
  exists members values, row = .object members ∧ Passes library layout members values ∧
    Writable library members values

/-- The conversion of the time raises what the clause does not name. -/
def TimeOverflows (library : Library) (layout : Layout) (members : List (String × Json)) : Prop :=
  layout.millisecondTimestamps = true ∧
    exists raw, member members layout.timestampKey = some raw ∧
      ((exists negative, raw = .infinity negative) ∨
        exists milliseconds exception, intOf library raw = .ok milliseconds ∧
          library.fromTimestamp milliseconds = .error exception ∧ exception ∉ caught)

/-- The volume is an infinity, and the time and the prices before it are converted. -/
def VolumeOverflows (library : Library) (layout : Layout) (members : List (String × Json)) :
    Prop :=
  Succeeds (readTime library layout members) ∧ Succeeds (readPrices library members) ∧
    exists negative, member members "v" = some (.infinity negative)

/-- The row makes an exception escape. -/
def Breaks (library : Library) (layout : Layout) (row : Json) : Prop :=
  exists members, row = .object members ∧
    (TimeOverflows library layout members ∨ VolumeOverflows library layout members ∨
      exists values, Passes library layout members values ∧ ¬ Writable library members values)

/-- A row makes an exception escape, and the rows before it are accepted, so that the parser
comes to it. -/
def RowsBreak (library : Library) (layout : Layout) (rows : Json) : Prop :=
  exists before row after, rows = .list (before ++ row :: after) ∧
    (forall earlier, earlier ∈ before -> Accepted library layout earlier) ∧
    Breaks library layout row

section Parts

variable {library : Library} {layout : Layout} {members : List (String × Json)}
  {retrieved : DateTime}

/-- The conversion stops with what the clause does not name. -/
abbrev Overflows {α : Type} (outcome : Except PyException α) : Prop :=
  Stops (fun exception => exception ∉ caught) outcome

theorem intOf_overflows_iff {value : Json} :
    Overflows (intOf library value) <-> exists negative, value = .infinity negative := by
  have quiet : forall {value : Json}, (forall negative, value ≠ .infinity negative) ->
      ¬ Overflows (intOf library value) ->
      (Overflows (intOf library value) <-> exists negative, value = .infinity negative) :=
    fun apart calm => iff_of_false calm fun ⟨negative, same⟩ => apart negative same
  have typed : ¬ Overflows (.error .typeError : Except PyException Int) :=
    stops_error_iff.not.mpr (not_not_intro (by decide))
  have valued : ¬ Overflows (.error .valueError : Except PyException Int) :=
    stops_error_iff.not.mpr (not_not_intro (by decide))
  cases value with
  | null => exact quiet (fun _ same => nomatch same) typed
  | bool _ => exact quiet (fun _ same => nomatch same) (not_stops_ok _)
  | int _ => exact quiet (fun _ same => nomatch same) (not_stops_ok _)
  | float _ => exact quiet (fun _ same => nomatch same) (not_stops_ok _)
  | infinity negative => exact iff_of_true (stops_error_iff.mpr (by decide)) ⟨negative, rfl⟩
  | notANumber => exact quiet (fun _ same => nomatch same) valued
  | string text =>
      refine quiet (fun _ same => nomatch same) ?_
      rw [intOf]
      cases library.parseInt text with
      | some value => exact not_stops_ok _
      | none => exact valued
  | list _ => exact quiet (fun _ same => nomatch same) typed
  | object _ => exact quiet (fun _ same => nomatch same) typed

theorem field_overflows {key : String} : ¬ Overflows (field members key) := by
  rw [field]
  cases member members key with
  | some value => exact not_stops_ok _
  | none => exact stops_error_iff.not.mpr (not_not_intro (by decide))

theorem field_ok_iff {key : String} {value : Json} :
    field members key = .ok value <-> member members key = some value := by
  rw [field]
  cases member members key with
  | some other =>
      constructor
      · exact fun same => congrArg some (Except.ok.inj same)
      · exact fun same => congrArg Except.ok (Option.some.inj same)
  | none =>
      constructor
      · exact fun impossible => nomatch impossible
      · exact fun impossible => nomatch impossible

theorem str_overflows {value : Json} : ¬ Overflows (str library value) := by
  rintro ⟨exception, failed, other⟩
  rw [str_error failed] at other
  exact other (by decide)

theorem number_overflows {key : String} : ¬ Overflows (number library members key) := by
  apply not_stops_bind
  · rw [strOf]
    cases member members key with
    | some value => exact str_overflows
    | none => exact stops_error_iff.not.mpr (not_not_intro (by decide))
  · rintro text _ ⟨exception, failed, other⟩
    rw [decimal_error failed] at other
    exact other (by decide)

theorem readPrices_overflows : ¬ Overflows (readPrices library members) := by
  apply not_stops_bind number_overflows
  intro _ _
  apply not_stops_bind number_overflows
  intro _ _
  apply not_stops_bind number_overflows
  intro _ _
  apply not_stops_bind number_overflows
  intro _ _
  exact not_stops_ok _

theorem readTime_overflows_iff :
    Overflows (readTime library layout members) <-> TimeOverflows library layout members := by
  rw [readTime, Overflows, stops_bind_iff, or_iff_right field_overflows]
  by_cases counted : layout.millisecondTimestamps = true
  · simp only [counted, if_true, stops_bind_iff, field_ok_iff, TimeOverflows, true_and]
    constructor
    · rintro ⟨raw, found, overflows | ⟨milliseconds, read, exception, failed, other⟩⟩
      · exact ⟨raw, found, Or.inl (intOf_overflows_iff.mp overflows)⟩
      · exact ⟨raw, found, Or.inr ⟨milliseconds, exception, read, failed, other⟩⟩
    · rintro ⟨raw, found, infinite | ⟨milliseconds, exception, read, failed, other⟩⟩
      · exact ⟨raw, found, Or.inl (intOf_overflows_iff.mpr infinite)⟩
      · exact ⟨raw, found, Or.inr ⟨milliseconds, read, exception, failed, other⟩⟩
  · refine iff_of_false ?_ fun overflows => counted overflows.1
    rintro ⟨raw, _, overflows⟩
    rw [if_neg counted] at overflows
    rcases stops_bind_iff.mp overflows with shown | ⟨text, _, exception, failed, other⟩
    · exact str_overflows shown
    · cases read : library.fromisoformat (replaceZulu text) with
      | some time =>
          rw [read] at failed
          cases failed
      | none =>
          rw [read] at failed
          cases failed
          exact other (by decide)

theorem readVolume_overflows_iff :
    Overflows (readVolume library members) <->
      exists negative, member members "v" = some (.infinity negative) := by
  rw [readVolume, Overflows, stops_bind_iff, or_iff_right field_overflows]
  constructor
  · rintro ⟨value, found, overflows⟩
    rcases intOf_overflows_iff.mp overflows with ⟨negative, same⟩
    subst same
    exact ⟨negative, field_ok_iff.mp found⟩
  · rintro ⟨negative, found⟩
    exact ⟨.infinity negative, field_ok_iff.mpr found, intOf_overflows_iff.mpr ⟨negative, rfl⟩⟩

theorem readValues_overflows_iff :
    Overflows (readValues library layout members) <->
      TimeOverflows library layout members ∨ VolumeOverflows library layout members := by
  rw [readValues, Overflows, stops_bind_iff, ← Overflows, readTime_overflows_iff]
  refine or_congr_right ?_
  constructor
  · rintro ⟨time, timed, rest⟩
    rw [stops_bind_iff, or_iff_right readPrices_overflows] at rest
    rcases rest with ⟨prices, priced, rest⟩
    rcases stops_bind_iff.mp rest with overflows | ⟨volume, _, impossible⟩
    · exact ⟨⟨time, timed⟩, ⟨prices, priced⟩, readVolume_overflows_iff.mp overflows⟩
    · exact absurd impossible (not_stops_ok _)
  · rintro ⟨⟨time, timed⟩, ⟨prices, priced⟩, infinite⟩
    refine ⟨time, timed, stops_bind_iff.mpr (Or.inr ⟨prices, priced, ?_⟩)⟩
    exact stops_bind_iff.mpr (Or.inl (readVolume_overflows_iff.mpr infinite))

theorem checkValues_ok_iff {values : Values} :
    checkValues values = .ok () <->
      values.time.offset ≠ none ∧ (values.prices.Positive ∧ values.prices.Ordered) ∧
        0 ≤ values.volume := by
  rw [checkValues]
  by_cases naive : values.time.offset = none
  · rw [if_pos naive]
    exact iff_of_false (fun impossible => nomatch impossible) fun fits => fits.1 naive
  · rw [if_neg naive, and_iff_right naive]
    constructor
    · intro done
      rcases except_bind_ok done with ⟨_, priced, rest⟩
      by_cases negative : values.volume < 0
      · rw [if_pos negative] at rest
        cases rest
      · exact ⟨Prices.check_ok_iff.mp priced, not_lt.mp negative⟩
    · rintro ⟨prices, volume⟩
      rw [checkPrices, except_bind_eq (Prices.check_ok_iff.mpr prices), if_neg (not_lt.mpr volume)]
      rfl

theorem checkValues_contained {values : Values} : ¬ Escapes (checkValues values) := by
  rw [checkValues]
  split
  · exact not_escapes_raise
  · apply not_stops_bind Prices.check_contained
    intro _ _
    split
    · exact not_escapes_raise
    · exact not_stops_ok _

theorem buildRecord_succeeds_iff {values : Values} :
    Succeeds (buildRecord library layout retrieved members values) <->
      Writable library members values := by
  rw [buildRecord, Writable, DateTime.toUtc]
  cases library.dumps (.object members) with
  | none =>
      refine iff_of_false ?_ fun writable => Bool.false_ne_true writable.1
      rintro ⟨_, impossible⟩
      cases impossible
  | some dumped =>
      by_cases within : Within values.time.instant
      · rw [dif_pos within]
        exact iff_of_true ⟨_, rfl⟩ ⟨rfl, within⟩
      · rw [dif_neg within]
        refine iff_of_false ?_ fun writable => within writable.2
        rintro ⟨_, impossible⟩
        cases impossible

theorem succeeds_or_error {α : Type} (outcome : Except PyException α) :
    (exists exception, outcome = .error exception) <-> ¬ Succeeds outcome := by
  cases outcome with
  | ok value =>
      exact iff_of_false (fun ⟨_, impossible⟩ => nomatch impossible) fun fails => fails ⟨value, rfl⟩
  | error exception =>
      exact iff_of_true ⟨exception, rfl⟩ fun ⟨_, impossible⟩ => nomatch impossible

end Parts

section Rows

variable {library : Library} {layout : Layout} {retrieved : DateTime}

theorem bar_escapes_iff {row : Json} :
    Escapes (bar library layout retrieved row) <-> Breaks library layout row := by
  have other : forall {row : Json}, (forall members, row ≠ .object members) ->
      bar library layout retrieved row = raise .schema "Provider returned a malformed bar" ->
      (Escapes (bar library layout retrieved row) <-> Breaks library layout row) := by
    intro row apart same
    rw [same]
    exact iff_of_false not_escapes_raise fun ⟨members, equal, _⟩ => apart members equal
  cases row with
  | object members =>
      have only : Breaks library layout (.object members) <->
          Overflows (readValues library layout members) ∨
            exists values, Passes library layout members values ∧
              ¬ Writable library members values := by
        rw [readValues_overflows_iff, or_assoc]
        constructor
        · rintro ⟨_, same, breaks⟩
          cases same
          exact breaks
        · exact fun breaks => ⟨members, rfl, breaks⟩
      rw [only, bar, Escapes, stops_bind_iff]
      apply or_congr
      · exact escapes_excepting_iff
      · constructor
        · rintro ⟨values, given, rest⟩
          rw [stops_bind_iff, or_iff_right checkValues_contained] at rest
          rcases rest with ⟨_, checked, rest⟩
          rcases checkValues_ok_iff.mp checked with ⟨aware, ⟨positive, ordered⟩, volume⟩
          refine ⟨values, ⟨excepting_ok_iff.mp given, aware, positive, ordered, volume⟩, ?_⟩
          rw [← @buildRecord_succeeds_iff library layout members retrieved, ← succeeds_or_error]
          exact escapes_unguarded_iff.mp rest
        · rintro ⟨values, passes, fails⟩
          refine ⟨values, excepting_ok_iff.mpr passes.given,
            stops_bind_iff.mpr (Or.inr ⟨(), checkValues_ok_iff.mpr
              ⟨passes.aware, ⟨passes.positive, passes.ordered⟩, passes.volume⟩, ?_⟩)⟩
          rw [← @buildRecord_succeeds_iff library layout members retrieved,
            ← succeeds_or_error] at fails
          exact escapes_unguarded_iff.mpr fails
  | null => exact other (fun _ same => nomatch same) rfl
  | bool _ => exact other (fun _ same => nomatch same) rfl
  | int _ => exact other (fun _ same => nomatch same) rfl
  | float _ => exact other (fun _ same => nomatch same) rfl
  | infinity _ => exact other (fun _ same => nomatch same) rfl
  | notANumber => exact other (fun _ same => nomatch same) rfl
  | string _ => exact other (fun _ same => nomatch same) rfl
  | list _ => exact other (fun _ same => nomatch same) rfl

/-- What is made of a row, which then passes the checks. -/
theorem bar_ok {row : Json} {found : BarRecord} (done : bar library layout retrieved row = .ok found) :
    exists members values, row = .object members ∧ Passes library layout members values ∧
      buildRecord library layout retrieved members values = .ok found := by
  cases row with
  | object members =>
      rcases except_bind_ok done with ⟨values, given, rest⟩
      rcases except_bind_ok rest with ⟨_, checked, built⟩
      rcases checkValues_ok_iff.mp checked with ⟨aware, ⟨positive, ordered⟩, volume⟩
      exact ⟨members, values, rfl, ⟨excepting_ok_iff.mp given, aware, positive, ordered, volume⟩,
        unguarded_ok_iff.mp built⟩
  | null => cases done
  | bool _ => cases done
  | int _ => cases done
  | float _ => cases done
  | infinity _ => cases done
  | notANumber => cases done
  | string _ => cases done
  | list _ => cases done

theorem bar_succeeds_iff {row : Json} :
    Succeeds (bar library layout retrieved row) <-> Accepted library layout row := by
  constructor
  · rintro ⟨found, done⟩
    rcases bar_ok done with ⟨members, values, same, passes, built⟩
    exact ⟨members, values, same, passes, buildRecord_succeeds_iff.mp ⟨found, built⟩⟩
  · rintro ⟨members, values, same, passes, writable⟩
    subst same
    rcases (@buildRecord_succeeds_iff library layout members retrieved values).mpr writable with
      ⟨found, built⟩
    refine ⟨found, ?_⟩
    rw [bar, except_bind_eq (excepting_ok_iff.mpr passes.given),
      except_bind_eq (checkValues_ok_iff.mpr
        ⟨passes.aware, ⟨passes.positive, passes.ordered⟩, passes.volume⟩)]
    exact unguarded_ok_iff.mpr built

theorem bar_sound {row : Json} {found : BarRecord}
    (done : bar library layout retrieved row = .ok found) : found.Sound := by
  rcases bar_ok done with ⟨members, values, _, passes, built⟩
  rcases except_bind_ok built with ⟨dumped, _, rest⟩
  rcases except_bind_ok rest with ⟨eventTime, timed, same⟩
  cases same
  refine ⟨passes.positive, passes.ordered, passes.volume, ?_⟩
  change eventTime.offset.isSome = true
  rw [(toUtc_aware timed).1]
  rfl

theorem bars_escapes_iff {rows : Json} :
    Escapes (bars library layout retrieved rows) <-> RowsBreak library layout rows := by
  have other : forall {rows : Json}, (forall values, rows ≠ .list values) ->
      bars library layout retrieved rows =
        raise .schema "Provider response omitted the bars array" ->
      (Escapes (bars library layout retrieved rows) <-> RowsBreak library layout rows) := by
    intro rows apart same
    rw [same]
    exact iff_of_false not_escapes_raise fun ⟨_, _, _, equal, _⟩ => apart _ equal
  cases rows with
  | list rows =>
      have whole : Escapes (bars library layout retrieved (.list rows)) <->
          Escapes (rows.mapM (bar library layout retrieved)) := by
        rw [bars, Escapes, stops_bind_iff]
        refine or_iff_left ?_
        rintro ⟨records, _, escapes⟩
        split at escapes
        · exact not_escapes_raise escapes
        · exact not_stops_ok _ escapes
      rw [whole, Escapes, stops_mapM_iff]
      constructor
      · rintro ⟨before, row, after, split, succeed, escapes⟩
        exact ⟨before, row, after, congrArg Json.list split,
          fun earlier inside => bar_succeeds_iff.mp (succeed earlier inside),
          bar_escapes_iff.mp escapes⟩
      · rintro ⟨before, row, after, split, accepted, breaks⟩
        exact ⟨before, row, after, Json.list.inj split,
          fun earlier inside => bar_succeeds_iff.mpr (accepted earlier inside),
          bar_escapes_iff.mpr breaks⟩
  | null => exact other (fun _ same => nomatch same) rfl
  | bool _ => exact other (fun _ same => nomatch same) rfl
  | int _ => exact other (fun _ same => nomatch same) rfl
  | float _ => exact other (fun _ same => nomatch same) rfl
  | infinity _ => exact other (fun _ same => nomatch same) rfl
  | notANumber => exact other (fun _ same => nomatch same) rfl
  | string _ => exact other (fun _ same => nomatch same) rfl
  | object _ => exact other (fun _ same => nomatch same) rfl

theorem bars_sound {rows : Json} {records : List BarRecord}
    (done : bars library layout retrieved rows = .ok records) :
    forall found, found ∈ records -> found.Sound := by
  cases rows with
  | list rows =>
      rcases except_bind_ok done with ⟨listed, mapped, rest⟩
      split at rest
      · cases rest
      · cases rest
        intro found member
        have inside := SortedLists.mem_sortedBy.mp member
        have related : List.Forall₂ (fun (_ : Json) (record : BarRecord) => record.Sound)
            rows listed :=
          forall₂_of_mapM mapped fun _ _ _ made => bar_sound made
        rcases exists_of_forall₂ related inside with ⟨_, _, sound⟩
        exact sound
  | null => cases done
  | bool _ => cases done
  | int _ => cases done
  | float _ => cases done
  | infinity _ => cases done
  | notANumber => cases done
  | string _ => cases done
  | object _ => cases done

end Rows

end JsonProvider
end Payloads
end MarketIntelligence
