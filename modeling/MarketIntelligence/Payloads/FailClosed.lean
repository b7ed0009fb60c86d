import MarketIntelligence.Payloads.JsonProviderRules
import MarketIntelligence.Payloads.StooqRules
import MarketIntelligence.Payloads.TwelveDataRules

namespace MarketIntelligence
namespace Payloads

open Foundations
open Foundations.CalendarDates
open Foundations.DecimalText
open Foundations.Loops
open Foundations.Outcomes

/-!
# Which parsers fail closed

The parser of Stooq fails closed on all bytes.  The other two do so unless a conversion that no
clause guards raises.
-/

namespace TwelveData

section Fetch

variable {library : Library}
  {request : Text -> DateTime -> DateTime -> Except (ProviderErrorClass × String) ByteArray}
  {loads : ByteArray -> Except PyException Json} {symbol canonical : Text}
  {start finish : DateTime} {interval : String} {retrieved : DateTime}

/-- The checks before the request are passed. -/
structure Requested (library : Library) (symbol canonical : Text) (start finish : DateTime)
    (interval : String) : Prop where
  daily : interval = "1d"
  aware : start.offset ≠ none ∧ finish.offset ≠ none
  ordered : start.instant < finish.instant
  short : (finish.instant - start.instant) / dayMicroseconds ≤ maxRangeDays
  normalized : normalizeSymbol library symbol = .ok canonical

/-- The body is no JSON for another reason than its syntax or its encoding, which are the two
that the adapter catches, or its value breaks the parser. -/
def FetchBreaks (library : Library)
    (request : Text -> DateTime -> DateTime -> Except (ProviderErrorClass × String) ByteArray)
    (loads : ByteArray -> Except PyException Json) (symbol : Text) (start finish : DateTime)
    (interval : String) : Prop :=
  exists canonical body, Requested library symbol canonical start finish interval ∧
    request canonical start finish = .ok body ∧
    ((exists exception, loads body = .error exception ∧
        exception ∉ [.unicodeDecodeError, .jsonDecodeError]) ∨
      exists payload, loads body = .ok payload ∧ PayloadBreaks library start finish payload)

theorem normalizeSymbol_contained : ¬ Escapes (normalizeSymbol library symbol) := by
  rw [normalizeSymbol]
  split
  · exact not_stops_ok _
  · exact not_escapes_raise

theorem answered_ok_iff {answer : Except (ProviderErrorClass × String) ByteArray}
    {body : ByteArray} : answered answer = .ok body <-> answer = .ok body := by
  rcases answer with ⟨kind, message⟩ | body
  · constructor
    · exact fun impossible => nomatch impossible
    · exact fun impossible => nomatch impossible
  · constructor
    · exact fun same => congrArg Except.ok (Except.ok.inj same)
    · exact fun same => congrArg Except.ok (Except.ok.inj same)

theorem answered_contained {answer : Except (ProviderErrorClass × String) ByteArray} :
    ¬ Escapes (answered answer) := by
  rcases answer with ⟨kind, message⟩ | body
  · exact not_escapes_raise
  · exact not_stops_ok _

/-- What follows the checks before the request. -/
theorem fetch_requested (requested : Requested library symbol canonical start finish interval) :
    fetchHistoricalBars library request loads symbol start finish interval retrieved = (do
      let body ← answered (request canonical start finish)
      let payload ← excepting [.unicodeDecodeError, .jsonDecodeError] .schema
        "Twelve Data returned malformed JSON" (loads body)
      readPayload library start finish canonical retrieved payload) := by
  have aware : ¬ (start.offset = none ∨ finish.offset = none ∨ finish.instant ≤ start.instant) := by
    rw [not_or, not_or, not_le]
    exact ⟨requested.aware.1, requested.aware.2, requested.ordered⟩
  rw [fetchHistoricalBars, if_neg (not_not_intro requested.daily), if_neg aware,
    if_neg (not_lt.mpr requested.short), except_bind_eq requested.normalized]

/-- Either the checks before the request are passed, or one of them raises. -/
theorem requested_or_raises :
    (exists canonical, Requested library symbol canonical start finish interval) ∨
      exists kind message,
        fetchHistoricalBars library request loads symbol start finish interval retrieved =
          raise kind message := by
  unfold fetchHistoricalBars
  by_cases daily : interval = "1d"
  · rw [if_neg (not_not_intro daily)]
    by_cases aware : start.offset = none ∨ finish.offset = none ∨ finish.instant ≤ start.instant
    · rw [if_pos aware]
      exact Or.inr ⟨_, _, rfl⟩
    · rw [if_neg aware]
      rw [not_or, not_or, not_le] at aware
      by_cases long : maxRangeDays < (finish.instant - start.instant) / dayMicroseconds
      · rw [if_pos long]
        exact Or.inr ⟨_, _, rfl⟩
      · rw [if_neg long]
        cases normalized : normalizeSymbol library symbol with
        | ok canonical =>
            exact Or.inl ⟨canonical, daily, ⟨aware.1, aware.2.1⟩, aware.2.2, not_lt.mp long,
              normalized⟩
        | error raised =>
            cases raised with
            | provider kind message => exact Or.inr ⟨kind, message, rfl⟩
            | python exception =>
                exact absurd ⟨_, normalized, trivial⟩ (@normalizeSymbol_contained library symbol)
  · rw [if_pos daily]
    exact Or.inr ⟨_, _, rfl⟩

theorem fetch_escapes_iff :
    Escapes (fetchHistoricalBars library request loads symbol start finish interval retrieved) <->
      FetchBreaks library request loads symbol start finish interval := by
  constructor
  · intro escapes
    rcases @requested_or_raises library request loads symbol start finish interval retrieved with
      ⟨canonical, requested⟩ | ⟨kind, message, same⟩
    · rw [fetch_requested requested, Escapes, stops_bind_iff,
        or_iff_right answered_contained] at escapes
      rcases escapes with ⟨body, given, rest⟩
      refine ⟨canonical, body, requested, answered_ok_iff.mp given, ?_⟩
      rcases stops_bind_iff.mp rest with malformed | ⟨payload, loaded, rest⟩
      · exact Or.inl (escapes_excepting_iff.mp malformed)
      · exact Or.inr ⟨payload, excepting_ok_iff.mp loaded, readPayload_escapes_iff.mp rest⟩
    · rw [same] at escapes
      exact absurd escapes not_escapes_raise
  · rintro ⟨canonical, body, requested, given, breaks⟩
    rw [fetch_requested requested, Escapes, stops_bind_iff]
    refine Or.inr ⟨body, answered_ok_iff.mpr given, stops_bind_iff.mpr ?_⟩
    rcases breaks with malformed | ⟨payload, loaded, breaks⟩
    · exact Or.inl (escapes_excepting_iff.mpr malformed)
    · exact Or.inr ⟨payload, excepting_ok_iff.mpr loaded, readPayload_escapes_iff.mpr breaks⟩

theorem fetch_sound {records : List BarRecord}
    (done : fetchHistoricalBars library request loads symbol start finish interval retrieved =
      .ok records) : forall found, found ∈ records -> found.Sound := by
  rcases @requested_or_raises library request loads symbol start finish interval retrieved with
    ⟨canonical, requested⟩ | ⟨kind, message, same⟩
  · rw [fetch_requested requested] at done
    rcases except_bind_ok done with ⟨body, _, rest⟩
    rcases except_bind_ok rest with ⟨payload, _, rest⟩
    exact readPayload_sound rest
  · rw [same] at done
    cases done

end Fetch

end TwelveData

/-- A parser that returns only sound records fails closed unless an exception escapes. -/
theorem failsClosed_iff {outcome : Except Raised (List BarRecord)} {breaks : Prop}
    (escapes : Escapes outcome <-> breaks)
    (sound : forall records, outcome = .ok records -> forall found, found ∈ records ->
      found.Sound) : FailsClosed outcome <-> ¬ breaks := by
  rw [FailsClosed, escapes]
  exact and_iff_left sound

/-- On which inputs each of the parsers fails closed: the table parser on all of them, and each
of the others exactly on those that bring no value for which a conversion or a comparison raises
uncaught. -/
theorem parsers_failClosed_iff (library : Library) (symbol : Text)
    (start finish retrieved : DateTime) :
    (forall payload providerSymbol,
      FailsClosed (Stooq.parseCsv library payload symbol providerSymbol start finish retrieved)) ∧
    (forall request loads interval,
      FailsClosed (TwelveData.fetchHistoricalBars library request loads symbol start finish interval
          retrieved) <->
        ¬ TwelveData.FetchBreaks library request loads symbol start finish interval) ∧
    forall layout rows,
      FailsClosed (JsonProvider.bars library layout retrieved rows) <->
        ¬ JsonProvider.RowsBreak library layout rows := by
  refine ⟨?_, ?_, ?_⟩
  · intro payload providerSymbol
    exact Stooq.parseCsv_failsClosed
  · intro request loads interval
    exact failsClosed_iff TwelveData.fetch_escapes_iff fun _ => TwelveData.fetch_sound
  · intro layout rows
    exact failsClosed_iff JsonProvider.bars_escapes_iff fun _ => JsonProvider.bars_sound

/-! ## Two answers on which they do not -/

/-- The microseconds to the start of 1970. -/
def epoch : Int := 719163 * dayMicroseconds

def fromEpoch (milliseconds : Int) : Except PyException DateTime :=
  if within : Within (epoch + milliseconds * 1000) then
    .ok ⟨epoch + milliseconds * 1000, some 0, within⟩
  else .error .valueError

theorem fromEpoch_utc (milliseconds : Int) (time : DateTime)
    (done : fromEpoch milliseconds = .ok time) : time.offset = some 0 := by
  rw [fromEpoch] at done
  split at done
  · cases done
    rfl
  · cases done

theorem fiveHours_west : -(5 * hourMicroseconds) ≤ -(5 * hourMicroseconds) ∧
    -(5 * hourMicroseconds) ≤ -(4 * hourMicroseconds) := by
  decide

/-- Conversions of ASCII texts, with New York five hours behind UTC. -/
def plainLibrary : Library where
  digits := asciiDigits
  upper := fun text => text.map Char.toUpper
  lower := fun text => text.map Char.toLower
  parseInt := fun text =>
    if text = [] then none else (Decimal.readDigits asciiDigits text 0).map Int.ofNat
  floatRepr := fun _ => []
  repr := fun _ => some []
  dumps := fun _ => some []
  sha256 := fun text => String.ofList text
  fromTimestamp := fromEpoch
  fromisoformat := fun _ => none
  newYork := fun _ => -(5 * hourMicroseconds)
  upper_ascii := fun _ _ => rfl
  lower_ascii := fun _ _ => rfl
  dumps_texts := fun _ => rfl
  fromTimestamp_utc := fromEpoch_utc
  newYork_west := fun _ => fiveHours_west

theorem newYear_within : Within (738886 * dayMicroseconds) := by decide

theorem weekLater_within : Within (738893 * dayMicroseconds) := by decide

def newYear : DateTime := ⟨738886 * dayMicroseconds, some 0, newYear_within⟩

def weekLater : DateTime := ⟨738893 * dayMicroseconds, some 0, weekLater_within⟩

/-- A bar of Twelve Data whose volume is `"NaN"`. -/
def unknownVolume : Json :=
  .object [("values", .list [.object [("datetime", .string "2024-01-02".toList),
    ("open", .string "1".toList), ("high", .string "1".toList), ("low", .string "1".toList),
    ("close", .string "1".toList), ("volume", .string "NaN".toList)]])]

/-- A bar of the other providers whose volume is `Infinity`. -/
def endlessVolume : Json :=
  .list [.object [("t", .int 1704229200000), ("o", .int 1), ("h", .int 1), ("l", .int 1),
    ("c", .int 1), ("v", .infinity false)]]

/-- The comparison of a volume and the conversion of a volume raise what no clause names. -/
theorem volumes_escape :
    ¬ FailsClosed (TwelveData.fetchHistoricalBars plainLibrary
      (fun _ _ _ => .ok ByteArray.empty) (fun _ => .ok unknownVolume) "AAPL".toList newYear
      weekLater "1d" weekLater) ∧
    ¬ FailsClosed (JsonProvider.bars plainLibrary
      ⟨"AAPL".toList, "AAPL".toList, "t", true, .null⟩ weekLater endlessVolume) := by
  have compared : escaping (TwelveData.fetchHistoricalBars plainLibrary
      (fun _ _ _ => .ok ByteArray.empty) (fun _ => .ok unknownVolume) "AAPL".toList newYear
      weekLater "1d" weekLater) = some .invalidOperation := by
    decide +kernel
  have converted : escaping (JsonProvider.bars plainLibrary
      ⟨"AAPL".toList, "AAPL".toList, "t", true, .null⟩ weekLater endlessVolume) =
        some .overflowError := by
    decide +kernel
  exact ⟨fun closed => closed.1 (escapes_of_escaping compared),
    fun closed => closed.1 (escapes_of_escaping converted)⟩

end Payloads
end MarketIntelligence
