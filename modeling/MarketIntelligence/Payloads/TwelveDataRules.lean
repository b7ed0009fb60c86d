import MarketIntelligence.Payloads.TwelveData

namespace MarketIntelligence
namespace Payloads
namespace TwelveData

open Foundations
open Foundations.CalendarDates
open Foundations.DecimalText
open Foundations.Loops
open Foundations.Outcomes

/-!
# Where the answers of Twelve Data break the parser

The volume of a bar is compared before it is known to be a number, and converted before it is
known to be finite.  The code of an error is converted without a guard.

`Escapes` is characterized for a row, for a list of rows and for an answer.
-/

/-- The texts and the values that the row gives. -/
structure Reads (library : Library) (members : List (String × Json)) (dateText : Text)
    (values : Values) : Prop where
  complete : forall key, key ∈ required -> (member members key).isSome = true
  shown : strOf library members "datetime" = .ok dateText
  given : readValues library members dateText = .ok values

/-- The row passes the checks of its date and of its prices. -/
structure Passes (library : Library) (start finish : DateTime) (members : List (String × Json))
    (dateText : Text) (values : Values) : Prop extends Reads library members dateText values where
  inRange : start.day ≤ values.date.ordinal ∧ (values.date.ordinal : Int) ≤ finish.day
  positive : values.prices.Positive
  ordered : values.prices.Ordered

/-- No number, or without end upwards. -/
def Unweighable : Decimal -> Prop
  | .finite _ _ _ => False
  | .infinity negative => negative = false
  | .notANumber _ => True

instance (volume : Decimal) : Decidable (Unweighable volume) :=
  match volume with
  | .finite _ _ _ => isFalse id
  | .infinity negative => inferInstanceAs (Decidable (negative = false))
  | .notANumber _ => isTrue trivial

/-- The row gives a record. -/
def Accepted (library : Library) (start finish : DateTime) (row : Json) : Prop :=
  exists members dateText values, row = .object members ∧
    Passes library start finish members dateText values ∧ Whole values.volume

/-- The text of the date of a row. -/
def dateText (library : Library) : Json -> Option Text
  | .object members => (strOf library members "datetime").toOption
  | _ => none

/-- The row makes an exception escape, after the dates that have been seen. -/
def Breaks (library : Library) (start finish : DateTime) (seen : List Text) (row : Json) : Prop :=
  exists members, row = .object members ∧
    (((forall key, key ∈ required -> (member members key).isSome = true) ∧
        exists exception, strOf library members "datetime" = .error exception) ∨
      exists dateText values, Passes library start finish members dateText values ∧
        dateText ∉ seen ∧ Unweighable values.volume)

section Parts

variable {library : Library} {start finish : DateTime} {members : List (String × Json)}

theorem readValues_guarded {dateText : Text}
    (complete : forall key, key ∈ required -> (member members key).isSome = true) :
    ¬ Stops (fun exception => ¬ Guarded exception) (readValues library members dateText) := by
  apply not_stops_bind
  · rintro ⟨exception, failed, other⟩
    rw [strptime] at failed
    cases read : Date.strptime library.digits dateText with
    | some date =>
        rw [read] at failed
        cases failed
    | none =>
        rw [read] at failed
        exact other (Or.inl (Except.error.inj failed).symm)
  intro _ _
  apply not_stops_bind (number_guarded (complete "open" (by decide)))
  intro _ _
  apply not_stops_bind (number_guarded (complete "high" (by decide)))
  intro _ _
  apply not_stops_bind (number_guarded (complete "low" (by decide)))
  intro _ _
  apply not_stops_bind (number_guarded (complete "close" (by decide)))
  intro _ _
  apply not_stops_bind (number_guarded (complete "volume" (by decide)))
  intro _ _
  exact not_stops_ok _

theorem checkSession_ok_iff {seen : List Text} {dateText : Text} {date : Date} :
    checkSession start finish seen dateText date = .ok () <->
      dateText ∉ seen ∧ start.day ≤ date.ordinal ∧ (date.ordinal : Int) ≤ finish.day := by
  rw [checkSession]
  by_cases refused : dateText ∈ seen ∨ (date.ordinal : Int) < start.day ∨ finish.day < date.ordinal
  · rw [if_pos refused]
    refine iff_of_false (fun impossible => nomatch impossible) fun fits => ?_
    rcases refused with known | early | late
    · exact fits.1 known
    · exact absurd fits.2.1 (not_le.mpr early)
    · exact absurd fits.2.2 (not_le.mpr late)
  · rw [if_neg refused]
    rw [not_or, not_or, not_lt, not_lt] at refused
    exact iff_of_true rfl refused

theorem checkSession_contained {seen : List Text} {dateText : Text} {date : Date} :
    ¬ Escapes (checkSession start finish seen dateText date) := by
  rw [checkSession]
  split
  · exact not_escapes_raise
  · exact not_stops_ok _

theorem checkPrices_ok_iff {prices : Prices} :
    checkPrices prices = .ok () <-> prices.Positive ∧ prices.Ordered :=
  Prices.check_ok_iff

theorem checkPrices_contained {prices : Prices} : ¬ Escapes (checkPrices prices) :=
  Prices.check_contained

/-- The check of a volume lets the whole numbers through, and what has no end upwards. -/
theorem checkVolume_ok_iff {volume : Decimal} :
    checkVolume volume = .ok () <-> Whole volume ∨ volume = .infinity false := by
  cases volume with
  | finite negative coefficient exponent =>
      rcases @negativeOrFractional_finite (.finite negative coefficient exponent) rfl with
        ⟨answer, refused, whole⟩
      rw [checkVolume, refused]
      cases answer with
      | true =>
          refine iff_of_false (fun impossible => nomatch impossible) ?_
          rintro (fits | impossible)
          · exact Bool.false_ne_true (whole.mpr fits).symm
          · cases impossible
      | false => exact iff_of_true rfl (Or.inl (whole.mp rfl))
  | infinity negative =>
      cases negative with
      | true =>
          refine iff_of_false (fun impossible => nomatch impossible) ?_
          rintro (fits | impossible)
          · cases fits.finite
          · cases impossible
      | false => exact iff_of_true rfl (Or.inr rfl)
  | notANumber signaling =>
      refine iff_of_false (fun impossible => nomatch impossible) ?_
      rintro (fits | impossible)
      · cases fits.finite
      · cases impossible

theorem checkVolume_escapes_iff {volume : Decimal} :
    Escapes (checkVolume volume) <-> exists signaling, volume = .notANumber signaling := by
  cases volume with
  | finite negative coefficient exponent =>
      rcases @negativeOrFractional_finite (.finite negative coefficient exponent) rfl with
        ⟨answer, refused, _⟩
      rw [checkVolume, refused]
      refine iff_of_false ?_ fun ⟨_, impossible⟩ => nomatch impossible
      cases answer with
      | true => exact not_escapes_raise
      | false => exact not_stops_ok _
  | infinity negative =>
      refine iff_of_false ?_ fun ⟨_, impossible⟩ => nomatch impossible
      cases negative with
      | true => exact not_escapes_raise
      | false => exact not_stops_ok _
  | notANumber signaling =>
      exact iff_of_true ⟨.python .invalidOperation, rfl, trivial⟩ ⟨signaling, rfl⟩

theorem normalizedRow_ok {dateText : Text} {values : Values}
    (reads : Reads library members dateText values) :
    exists row, normalizedRow library members = .ok row := by
  have shown : forall {key : String} {value : Decimal},
      number library members key = .ok value -> Succeeds (strOf library members key) := by
    intro key value done
    rcases except_bind_ok done with ⟨text, here, _⟩
    exact ⟨text, here⟩
  rcases except_bind_ok reads.given with ⟨_, _, rest⟩
  rcases except_bind_ok rest with ⟨_, openPrice, rest⟩
  rcases except_bind_ok rest with ⟨_, high, rest⟩
  rcases except_bind_ok rest with ⟨_, low, rest⟩
  rcases except_bind_ok rest with ⟨_, closePrice, rest⟩
  rcases except_bind_ok rest with ⟨_, volume, _⟩
  rcases shown openPrice with ⟨first, openText⟩
  rcases shown high with ⟨second, highText⟩
  rcases shown low with ⟨third, lowText⟩
  rcases shown closePrice with ⟨fourth, closeText⟩
  rcases shown volume with ⟨fifth, volumeText⟩
  refine ⟨[("close", fourth), ("datetime", dateText), ("high", second), ("low", third),
    ("open", first), ("volume", fifth)], ?_⟩
  simp only [normalizedRow, sortedRequired, List.mapM_cons, List.mapM_nil, openText, highText,
    lowText, closeText, volumeText, reads.shown]
  rfl

theorem dumpRow_ok (row : List (String × Text)) :
    exists dumped, dumpRow library row = .ok dumped := by
  rcases Option.isSome_iff_exists.mp (library.dumps_texts row) with ⟨dumped, same⟩
  exact ⟨dumped, congrArg orValueError same⟩

/-- The record is built unless the volume has no end, and it has these values. -/
theorem buildRecord_eq {canonical dateText : Text} {retrieved : DateTime} {values : Values}
    (reads : Reads library members dateText values) :
    exists checksum, buildRecord library canonical retrieved members values =
      (intOfDecimal values.volume).map fun volume =>
        record canonical retrieved values.prices volume (closeTime library values.date)
          checksum := by
  rcases normalizedRow_ok reads with ⟨row, normalized⟩
  rcases @dumpRow_ok library row with ⟨dumped, written⟩
  refine ⟨library.sha256 dumped, ?_⟩
  rw [buildRecord, except_bind_eq (sessionClose_eq library values.date), except_bind_eq normalized,
    except_bind_eq written]
  cases intOfDecimal values.volume <;> rfl

end Parts

/-! ## A row -/

section Rows

variable {library : Library} {start finish : DateTime} {canonical : Text} {retrieved : DateTime}
  {state next : List BarRecord × List Text} {row : Json}

/-- What follows the reading of the values. -/
theorem bar_reads {members : List (String × Json)} {dateText : Text} {values : Values}
    (reads : Reads library members dateText values) :
    bar library start finish canonical retrieved state (.object members) = (do
      checkSession start finish state.2 dateText values.date
      checkPrices values.prices
      checkVolume values.volume
      let made ← unguarded (buildRecord library canonical retrieved members values)
      pure (state.1 ++ [made], dateText :: state.2)) := by
  rw [bar, if_neg (not_not_intro reads.complete),
    except_bind_eq (unguarded_ok_iff.mpr reads.shown),
    except_bind_eq (excepting_ok_iff.mpr reads.given)]

theorem bar_ok (done : bar library start finish canonical retrieved state row = .ok next) :
    exists members dateText values checksum, row = .object members ∧
      Passes library start finish members dateText values ∧ Whole values.volume ∧
      dateText ∉ state.2 ∧
      next = (state.1 ++ [record canonical retrieved values.prices (truncate values.volume.value)
        (closeTime library values.date) checksum], dateText :: state.2) := by
  cases row with
  | object members =>
      rw [bar] at done
      by_cases complete : forall key, key ∈ required -> (member members key).isSome = true
      · rw [if_neg (not_not_intro complete)] at done
        rcases except_bind_ok done with ⟨dateText, shown, rest⟩
        rcases except_bind_ok rest with ⟨values, given, rest⟩
        rcases except_bind_ok rest with ⟨_, session, rest⟩
        rcases except_bind_ok rest with ⟨_, priced, rest⟩
        rcases except_bind_ok rest with ⟨_, weighed, rest⟩
        rcases except_bind_ok rest with ⟨made, built, rest⟩
        cases rest
        have reads : Reads library members dateText values :=
          ⟨complete, unguarded_ok_iff.mp shown, excepting_ok_iff.mp given⟩
        rcases checkSession_ok_iff.mp session with ⟨fresh, inRange⟩
        rcases checkPrices_ok_iff.mp priced with ⟨positive, ordered⟩
        rcases @buildRecord_eq library members canonical dateText retrieved values reads with
          ⟨checksum, same⟩
        have made_eq := same.symm.trans (unguarded_ok_iff.mp built)
        have whole : Whole values.volume := by
          rcases checkVolume_ok_iff.mp weighed with fits | endless
          · exact fits
          · rw [endless] at made_eq
            cases made_eq
        rw [intOfDecimal_finite whole.finite] at made_eq
        refine ⟨members, dateText, values, checksum, rfl, ⟨reads, inRange, positive, ordered⟩,
          whole, fresh, ?_⟩
        exact congrArg (fun made => (state.1 ++ [made], dateText :: state.2))
          (Except.ok.inj made_eq).symm
      · rw [if_pos complete] at done
        cases done
  | null => cases done
  | bool _ => cases done
  | int _ => cases done
  | float _ => cases done
  | infinity _ => cases done
  | notANumber => cases done
  | string _ => cases done
  | list _ => cases done

/-- A row that is accepted gives a record after dates that are not its own. -/
theorem bar_accepts {members : List (String × Json)} {dateText : Text} {values : Values}
    (passes : Passes library start finish members dateText values) (whole : Whole values.volume)
    (fresh : dateText ∉ state.2) :
    exists made, bar library start finish canonical retrieved state (.object members) =
      .ok (state.1 ++ [made], dateText :: state.2) := by
  rcases @buildRecord_eq library members canonical dateText retrieved values passes.toReads with
    ⟨checksum, built⟩
  rw [intOfDecimal_finite whole.finite] at built
  refine ⟨record canonical retrieved values.prices (truncate values.volume.value)
    (closeTime library values.date) checksum, ?_⟩
  rw [bar_reads passes.toReads,
    except_bind_eq (checkSession_ok_iff.mpr ⟨fresh, passes.inRange⟩),
    except_bind_eq (checkPrices_ok_iff.mpr ⟨passes.positive, passes.ordered⟩),
    except_bind_eq (checkVolume_ok_iff.mpr (Or.inl whole)),
    except_bind_eq (unguarded_ok_iff.mpr built)]
  rfl

/-- After the values are read, an exception escapes exactly on a volume that is not weighable. -/
theorem reads_escapes_iff {members : List (String × Json)} {dateText : Text} {values : Values}
    (reads : Reads library members dateText values) :
    Escapes (bar library start finish canonical retrieved state (.object members)) <->
      Passes library start finish members dateText values ∧ dateText ∉ state.2 ∧
        Unweighable values.volume := by
  rw [bar_reads reads, Escapes, stops_bind_iff, or_iff_right checkSession_contained]
  constructor
  · rintro ⟨_, session, rest⟩
    rw [stops_bind_iff, or_iff_right checkPrices_contained] at rest
    rcases rest with ⟨_, priced, rest⟩
    rcases checkSession_ok_iff.mp session with ⟨fresh, inRange⟩
    rcases checkPrices_ok_iff.mp priced with ⟨positive, ordered⟩
    refine ⟨⟨reads, inRange, positive, ordered⟩, fresh, ?_⟩
    rcases stops_bind_iff.mp rest with weighing | ⟨_, weighed, rest⟩
    · rcases checkVolume_escapes_iff.mp weighing with ⟨signaling, same⟩
      rw [same]
      trivial
    · rcases checkVolume_ok_iff.mp weighed with whole | endless
      · rcases @buildRecord_eq library members canonical dateText retrieved values reads with
          ⟨checksum, built⟩
        rw [intOfDecimal_finite whole.finite] at built
        rw [except_bind_eq (unguarded_ok_iff.mpr built)] at rest
        exact absurd rest (not_stops_ok _)
      · rw [endless]
        rfl
  · rintro ⟨passes, fresh, volume⟩
    refine ⟨(), checkSession_ok_iff.mpr ⟨fresh, passes.inRange⟩, ?_⟩
    rw [stops_bind_iff]
    refine Or.inr ⟨(), checkPrices_ok_iff.mpr ⟨passes.positive, passes.ordered⟩, ?_⟩
    rw [stops_bind_iff]
    cases kind : values.volume with
    | finite _ _ _ =>
        rw [kind] at volume
        exact False.elim volume
    | notANumber signaling =>
        exact Or.inl (checkVolume_escapes_iff.mpr ⟨signaling, rfl⟩)
    | infinity negative =>
        rw [kind] at volume
        cases volume
        refine Or.inr ⟨(), checkVolume_ok_iff.mpr (Or.inr rfl), stops_bind_iff.mpr (Or.inl ?_)⟩
        rcases @buildRecord_eq library members canonical dateText retrieved values reads with
          ⟨checksum, built⟩
        rw [kind] at built
        exact escapes_unguarded_iff.mpr ⟨_, built⟩

/-- A row makes an exception escape exactly when it breaks the parser. -/
theorem bar_escapes_iff :
    Escapes (bar library start finish canonical retrieved state row) <->
      Breaks library start finish state.2 row := by
  have other : forall {row : Json}, (forall members, row ≠ .object members) ->
      bar library start finish canonical retrieved state row =
        raise .schema "Twelve Data returned a malformed bar" ->
      (Escapes (bar library start finish canonical retrieved state row) <->
        Breaks library start finish state.2 row) := by
    intro row apart same
    rw [same]
    exact iff_of_false not_escapes_raise fun ⟨members, equal, _⟩ => apart members equal
  cases row with
  | object members =>
      by_cases complete : forall key, key ∈ required -> (member members key).isSome = true
      · cases shown : strOf library members "datetime" with
        | error exception =>
            refine iff_of_true ?_ ⟨members, rfl, Or.inl ⟨complete, exception, shown⟩⟩
            rw [bar, if_neg (not_not_intro complete)]
            exact stops_bind_iff.mpr (Or.inl (escapes_unguarded_iff.mpr ⟨exception, shown⟩))
        | ok dateText =>
            cases given : readValues library members dateText with
            | ok values =>
                have reads : Reads library members dateText values := ⟨complete, shown, given⟩
                rw [reads_escapes_iff reads]
                constructor
                · exact fun found => ⟨members, rfl, Or.inr ⟨dateText, values, found⟩⟩
                · rintro ⟨_, same, breaks⟩
                  cases same
                  rcases breaks with ⟨_, exception, failed⟩ | ⟨otherText, others, passes, fresh, volume⟩
                  · rw [shown] at failed
                    cases failed
                  · have sameText : otherText = dateText :=
                      Except.ok.inj (passes.shown.symm.trans shown)
                    subst sameText
                    have sameValues : others = values :=
                      Except.ok.inj (passes.given.symm.trans given)
                    subst sameValues
                    exact ⟨passes, fresh, volume⟩
            | error exception =>
                refine iff_of_false ?_ ?_
                · rw [bar, if_neg (not_not_intro complete),
                    except_bind_eq (unguarded_ok_iff.mpr shown), given]
                  intro escapes
                  rcases stops_bind_iff.mp escapes with here | ⟨_, impossible, _⟩
                  · rcases escapes_excepting_iff.mp here with ⟨_, same, unguarded⟩
                    cases same
                    apply readValues_guarded complete
                    refine ⟨exception, given, fun known => unguarded ?_⟩
                    rcases known with known | known <;> rw [known] <;> decide
                  · exact nomatch excepting_ok_iff.mp impossible
                · rintro ⟨_, same, ⟨_, _, failed⟩ | ⟨otherText, others, passes, _⟩⟩
                  · cases same
                    rw [shown] at failed
                    cases failed
                  · cases same
                    have sameText := Except.ok.inj (passes.shown.symm.trans shown)
                    have read := passes.given
                    rw [sameText, given] at read
                    cases read
      · refine iff_of_false ?_ ?_
        · rw [bar, if_pos complete]
          exact not_escapes_raise
        · rintro ⟨_, same, ⟨all, _⟩ | ⟨_, _, passes, _⟩⟩
          · cases same
            exact complete all
          · cases same
            exact complete passes.complete
  | null => exact other (fun _ same => nomatch same) rfl
  | bool _ => exact other (fun _ same => nomatch same) rfl
  | int _ => exact other (fun _ same => nomatch same) rfl
  | float _ => exact other (fun _ same => nomatch same) rfl
  | infinity _ => exact other (fun _ same => nomatch same) rfl
  | notANumber => exact other (fun _ same => nomatch same) rfl
  | string _ => exact other (fun _ same => nomatch same) rfl
  | list _ => exact other (fun _ same => nomatch same) rfl

end Rows

/-! ## The answer -/

section Answers

variable {library : Library} {start finish : DateTime} {canonical : Text} {retrieved : DateTime}

/-- Rows are accepted one after another when each of them is and their dates are different. -/
theorem foldlM_bar_iff {rows : List Json} {state : List BarRecord × List Text} {seen : List Text} :
    (exists next, rows.foldlM (bar library start finish canonical retrieved) state = .ok next ∧
        next.2 = seen) <->
      (forall row, row ∈ rows -> Accepted library start finish row) ∧
        ((rows.filterMap (dateText library)).Nodup ∧
          forall text, text ∈ rows.filterMap (dateText library) -> text ∉ state.2) ∧
        seen = (rows.filterMap (dateText library)).reverse ++ state.2 := by
  induction rows generalizing state with
  | nil =>
      constructor
      · rintro ⟨next, done, same⟩
        cases done
        exact ⟨fun _ none => absurd none List.not_mem_nil,
          ⟨List.nodup_nil, fun _ none => absurd none List.not_mem_nil⟩, same.symm⟩
      · rintro ⟨_, _, same⟩
        exact ⟨state, rfl, same.symm⟩
  | cons head tail ih =>
      have told : forall {members text values},
          Passes library start finish members text values ->
            (Json.object members :: tail).filterMap (dateText library) =
              text :: tail.filterMap (dateText library) := by
        intro members text values passes
        apply List.filterMap_cons_some
        rw [dateText, passes.shown]
        rfl
      constructor
      · rintro ⟨next, done, same⟩
        rcases foldlM_cons_ok done with ⟨middle, first, rest⟩
        rcases bar_ok first with ⟨members, text, values, checksum, isObject, passes, whole, fresh, made⟩
        rcases ih.mp ⟨next, rest, same⟩ with ⟨accepted, ⟨distinct, apart⟩, ends⟩
        subst isObject
        subst made
        rw [told passes]
        refine ⟨?_, ⟨List.nodup_cons.mpr ⟨fun known => ?_, distinct⟩, ?_⟩, ?_⟩
        · intro row member
          rcases List.mem_cons.mp member with same | later
          · rw [same]
            exact ⟨members, text, values, rfl, passes, whole⟩
          · exact accepted row later
        · exact apart text known List.mem_cons_self
        · intro other member
          rcases List.mem_cons.mp member with same | later
          · exact same ▸ fresh
          · exact fun known => apart other later (List.mem_cons_of_mem _ known)
        · rw [ends, List.reverse_cons, List.append_assoc]
          rfl
      · rintro ⟨accepted, ⟨distinct, apart⟩, ends⟩
        rcases accepted head List.mem_cons_self with ⟨members, text, values, isObject, passes, whole⟩
        subst isObject
        rw [told passes] at distinct apart ends
        rcases @bar_accepts library start finish canonical retrieved state members text values passes
          whole (apart text List.mem_cons_self) with ⟨made, first⟩
        rcases List.nodup_cons.mp distinct with ⟨own, distinct⟩
        rw [List.foldlM_cons, except_bind_eq first]
        refine ih.mpr ⟨fun row member => accepted row (List.mem_cons_of_mem _ member),
          ⟨distinct, ?_⟩, ?_⟩
        · intro other member known
          rcases List.mem_cons.mp known with same | earlier
          · exact own (same ▸ member)
          · exact apart other (List.mem_cons_of_mem _ member) earlier
        · rw [ends, List.reverse_cons, List.append_assoc]
          rfl

/-- A row breaks the parser, and the rows before it are accepted. -/
def RowsBreak (library : Library) (start finish : DateTime) (rows : List Json) : Prop :=
  exists before row after, rows = before ++ row :: after ∧
    (forall earlier, earlier ∈ before -> Accepted library start finish earlier) ∧
    (before.filterMap (dateText library)).Nodup ∧
    Breaks library start finish (before.filterMap (dateText library)) row

theorem breaks_congr {first second : List Text} (same : forall text, text ∈ first <-> text ∈ second)
    (row : Json) : Breaks library start finish first row <-> Breaks library start finish second row := by
  simp only [Breaks, same]

theorem readBars_escapes_iff {rows : List Json} :
    Escapes (readBars library start finish canonical retrieved rows) <->
      RowsBreak library start finish rows := by
  have whole : Escapes (readBars library start finish canonical retrieved rows) <->
      Escapes (rows.foldlM (bar library start finish canonical retrieved) ([], [])) := by
    rw [readBars, Escapes, stops_bind_iff]
    exact or_iff_left fun ⟨next, _, escapes⟩ => not_stops_ok next.1 escapes
  rw [whole, Escapes, stops_foldlM_iff]
  constructor
  · rintro ⟨before, row, after, split, middle, reached, escapes⟩
    rcases foldlM_bar_iff.mp ⟨middle, reached, rfl⟩ with ⟨accepted, ⟨distinct, _⟩, seen⟩
    refine ⟨before, row, after, split, accepted, distinct, ?_⟩
    refine (breaks_congr (fun text => ?_) row).mp (bar_escapes_iff.mp escapes)
    rw [seen, List.append_nil, List.mem_reverse]
  · rintro ⟨before, row, after, split, accepted, distinct, breaks⟩
    rcases (@foldlM_bar_iff library start finish canonical retrieved before ([], []) _).mpr
      ⟨accepted, ⟨distinct, fun _ _ => List.not_mem_nil⟩, rfl⟩ with ⟨middle, reached, seen⟩
    refine ⟨before, row, after, split, middle, reached, bar_escapes_iff.mpr ?_⟩
    refine (breaks_congr (fun text => ?_) row).mpr breaks
    rw [seen, List.append_nil, List.mem_reverse]

theorem readBars_sound {rows : List Json} {records : List BarRecord}
    (done : readBars library start finish canonical retrieved rows = .ok records) :
    forall found, found ∈ records -> found.Sound := by
  rcases except_bind_ok done with ⟨next, folded, same⟩
  cases same
  apply foldlM_invariant (motive := fun state : List BarRecord × List Text =>
    forall found, found ∈ state.1 -> found.Sound) _ _ folded
  · intro row _ start next sound first found member
    rcases bar_ok first with ⟨_, _, values, checksum, _, passes, whole, _, made⟩
    rw [made] at member
    rcases List.mem_append.mp member with earlier | own
    · exact sound found earlier
    · rw [List.mem_singleton.mp own]
      exact ⟨passes.positive, passes.ordered, truncate_nonneg whole.nonneg, rfl⟩
  · exact fun _ none => nomatch none

/-- The answer makes an exception escape: the code of an error is no number, or one of the values
breaks the parser. -/
def PayloadBreaks (library : Library) (start finish : DateTime) (payload : Json) : Prop :=
  exists members, payload = .object members ∧
    ((tellsError members = true ∧ exists code exception, member members "code" = some code ∧
        truthy code = true ∧ intOf library code = .error exception) ∨
      (tellsError members = false ∧ exists rows, member members "values" = some (.list rows) ∧
        rows.length ≤ 10000 ∧ RowsBreak library start finish rows))

theorem raiseError_contained (code : Int) : ¬ Escapes (raiseError code) := by
  rw [raiseError]
  split
  · exact not_escapes_raise
  · split <;> exact not_escapes_raise

theorem errorCode_error_iff {members : List (String × Json)} {exception : PyException} :
    errorCode library members = .error exception <->
      exists code, member members "code" = some code ∧ truthy code = true ∧
        intOf library code = .error exception := by
  rw [errorCode]
  cases found : member members "code" with
  | none =>
      exact iff_of_false (fun impossible => nomatch impossible) fun ⟨_, impossible, _⟩ =>
        nomatch impossible
  | some code =>
      by_cases counts : truthy code = true
      · simp only [counts, if_true]
        constructor
        · exact fun failed => ⟨code, rfl, counts, failed⟩
        · rintro ⟨_, same, _, failed⟩
          cases same
          exact failed
      · simp only [counts]
        refine iff_of_false (fun impossible => nomatch impossible) ?_
        rintro ⟨_, same, other, _⟩
        cases same
        exact counts other

theorem readCollection_escapes_iff {values : Option Json} :
    Escapes (readCollection library start finish canonical retrieved values) <->
      exists rows, values = some (.list rows) ∧ rows.length ≤ 10000 ∧
        RowsBreak library start finish rows := by
  have other : forall {values : Option Json} {kind : ProviderErrorClass} {message : String},
      (forall rows, values ≠ some (.list rows)) ->
      readCollection library start finish canonical retrieved values = raise kind message ->
      (Escapes (readCollection library start finish canonical retrieved values) <->
        exists rows, values = some (.list rows) ∧ rows.length ≤ 10000 ∧
          RowsBreak library start finish rows) := by
    intro values kind message apart same
    rw [same]
    exact iff_of_false not_escapes_raise fun ⟨rows, equal, _⟩ => apart rows equal
  cases values with
  | none => exact other (fun _ same => nomatch same) rfl
  | some value =>
      cases value with
      | list rows =>
          have only : (exists others, some (Json.list rows) = some (.list others) ∧
              others.length ≤ 10000 ∧ RowsBreak library start finish others) <->
                rows.length ≤ 10000 ∧ RowsBreak library start finish rows := by
            constructor
            · rintro ⟨_, same, short, breaks⟩
              cases same
              exact ⟨short, breaks⟩
            · exact fun ⟨short, breaks⟩ => ⟨rows, rfl, short, breaks⟩
          rw [only, readCollection]
          by_cases empty : rows.isEmpty = true
          · rw [if_pos empty]
            refine iff_of_false not_escapes_raise ?_
            rintro ⟨_, before, row, after, split, _⟩
            rw [split, List.isEmpty_iff] at empty
            cases before <;> cases empty
          · rw [if_neg empty]
            by_cases long : 10000 < rows.length
            · rw [if_pos long]
              exact iff_of_false not_escapes_raise fun fits => absurd fits.1 (not_le.mpr long)
            · rw [if_neg long, readBars_escapes_iff]
              exact (and_iff_right (not_lt.mp long)).symm
      | null => exact other (fun _ same => nomatch same) rfl
      | bool _ => exact other (fun _ same => nomatch same) rfl
      | int _ => exact other (fun _ same => nomatch same) rfl
      | float _ => exact other (fun _ same => nomatch same) rfl
      | infinity _ => exact other (fun _ same => nomatch same) rfl
      | notANumber => exact other (fun _ same => nomatch same) rfl
      | string _ => exact other (fun _ same => nomatch same) rfl
      | object _ => exact other (fun _ same => nomatch same) rfl

theorem readPayload_escapes_iff {payload : Json} :
    Escapes (readPayload library start finish canonical retrieved payload) <->
      PayloadBreaks library start finish payload := by
  have other : forall {payload : Json}, (forall members, payload ≠ .object members) ->
      readPayload library start finish canonical retrieved payload =
        raise .schema "Twelve Data response root was not an object" ->
      (Escapes (readPayload library start finish canonical retrieved payload) <->
        PayloadBreaks library start finish payload) := by
    intro payload apart same
    rw [same]
    exact iff_of_false not_escapes_raise fun ⟨members, equal, _⟩ => apart members equal
  cases payload with
  | object members =>
      rw [readPayload]
      by_cases error : tellsError members = true
      · rw [if_pos error, Escapes, stops_bind_iff]
        constructor
        · rintro (coded | ⟨code, _, escapes⟩)
          · rcases escapes_unguarded_iff.mp coded with ⟨exception, failed⟩
            rcases errorCode_error_iff.mp failed with ⟨code, found, counts, failed⟩
            exact ⟨members, rfl, Or.inl ⟨error, code, exception, found, counts, failed⟩⟩
          · exact absurd escapes (raiseError_contained code)
        · rintro ⟨_, same, ⟨_, code, exception, found, counts, failed⟩ | ⟨none, _⟩⟩
          · cases same
            exact Or.inl (escapes_unguarded_iff.mpr
              ⟨exception, errorCode_error_iff.mpr ⟨code, found, counts, failed⟩⟩)
          · cases same
            rw [error] at none
            cases none
      · rw [if_neg error]
        refine readCollection_escapes_iff.trans ?_
        constructor
        · exact fun found => ⟨members, rfl, Or.inr ⟨Bool.eq_false_iff.mpr error, found⟩⟩
        · rintro ⟨_, same, ⟨told, _⟩ | ⟨_, found⟩⟩
          · cases same
            exact absurd told error
          · cases same
            exact found
  | null => exact other (fun _ same => nomatch same) rfl
  | bool _ => exact other (fun _ same => nomatch same) rfl
  | int _ => exact other (fun _ same => nomatch same) rfl
  | float _ => exact other (fun _ same => nomatch same) rfl
  | infinity _ => exact other (fun _ same => nomatch same) rfl
  | notANumber => exact other (fun _ same => nomatch same) rfl
  | string _ => exact other (fun _ same => nomatch same) rfl
  | list _ => exact other (fun _ same => nomatch same) rfl

theorem raiseError_not_ok {code : Int} {records : List BarRecord}
    (done : raiseError code = .ok records) : False := by
  rw [raiseError] at done
  split at done
  · cases done
  · split at done <;> cases done

theorem readPayload_sound {payload : Json} {records : List BarRecord}
    (done : readPayload library start finish canonical retrieved payload = .ok records) :
    forall found, found ∈ records -> found.Sound := by
  cases payload with
  | object members =>
      rw [readPayload] at done
      split at done
      · rcases except_bind_ok done with ⟨code, _, rest⟩
        exact (raiseError_not_ok rest).elim
      · rw [readCollection.eq_def] at done
        split at done
        · cases done
        · cases done
        · split at done
          · cases done
          · split at done
            · cases done
            · exact readBars_sound done
        · cases done
  | null => cases done
  | bool _ => cases done
  | int _ => cases done
  | float _ => cases done
  | infinity _ => cases done
  | notANumber => cases done
  | string _ => cases done
  | list _ => cases done

end Answers

end TwelveData
end Payloads
end MarketIntelligence
