import MarketIntelligence.ReferenceData.FeedRepeats

namespace MarketIntelligence
namespace ReferenceData

open Foundations
open Sessions
open Loops

/-!
# Reaching a feed

Whatever calls came before, no two listings are open under one key, or under one symbol and
exchange.  From any state they leave, a feed is reached exactly if its active records keep their
places and its inactive ones find listings that stay open.
-/

/-! ## Calls one after the other -/

/-- A call of `reconcile_reference_records`. -/
structure ReconcileCall where
  now : Instant
  records : List ReferenceSecurityRecord
  markMissingInactive : Bool
  deriving Repr

def reconcileCall (library : Library) (catalog : Catalog) (call : ReconcileCall) :
    Except ReferenceError Catalog :=
  (reconcileReferenceRecords library call.now call.records call.markMissingInactive catalog).map
    Prod.fst

def reconcileAll (library : Library) (calls : List ReconcileCall) (catalog : Catalog) :
    Except ReferenceError Catalog :=
  calls.foldlM (reconcileCall library) catalog

section Preserved

variable {library : Library} {now : Instant} {records : List ReferenceSecurityRecord}
  {prior after : Catalog} {counts : ReconcileCounts} {swept : Bool}

/-- Whatever the feed, no two listings are open under one key, or under one symbol and
exchange. -/
theorem reconcile_formed (formed : Formed prior.places) (linked : Linked prior)
    (done : reconcileReferenceRecords library now records swept prior = .ok (after, counts)) :
    Formed after.places := by
  rcases except_bind_ok done with ⟨pass, looped, rest⟩
  rcases except_bind_ok rest with ⟨flushed, stored, ends⟩
  have kept : InSession (fun _ => true) pass ∧ Linked pass.catalog ∧
      Formed pass.catalog.places := by
    refine foldlM_invariant (motive := fun pass => InSession (fun _ => true) pass ∧
      Linked pass.catalog ∧ Formed pass.catalog.places) ?_ ?_ looped
    · rintro record _ before next ⟨session, linked, formed⟩ stepped
      rcases reconcileRecord_ok session linked (fun _ _ => rfl) stepped with
        ⟨nextSession, nextLinked, place, advanced⟩
      exact ⟨nextSession, nextLinked, advanced.formed formed⟩
    · rw [catalog_load]
      exact ⟨inSession_load _ _ _, linked, formed⟩
  have closes : forall (seen : List (String × List String)) (pass : Pass),
      Formed pass.catalog.places ->
        Formed (seen.foldl (markMissing now) pass).catalog.places := by
    intro seen
    induction seen with
    | nil => exact fun _ formed => formed
    | cons entry rest ih =>
        intro pass formed
        exact ih _ (swept_formed formed)
  rcases flush_ok stored with ⟨_, same⟩
  have result : flushed.catalog = after := (Prod.mk.inj (Except.ok.inj ends)).1
  rw [← result, same, catalog_load]
  cases swept with
  | true => exact closes _ pass kept.2.2
  | false => exact kept.2.2

/-- A call ends with a flush, which asks for the constraints. -/
theorem reconcile_accepted
    (done : reconcileReferenceRecords library now records swept prior = .ok (after, counts)) :
    after.Accepted := by
  rcases except_bind_ok done with ⟨pass, _, rest⟩
  rcases except_bind_ok rest with ⟨flushed, stored, ends⟩
  rcases flush_ok stored with ⟨accepted, same⟩
  have result : flushed.catalog = after := (Prod.mk.inj (Except.ok.inj ends)).1
  rw [← result, same, catalog_load]
  exact accepted

/-- Calls leave what the next call needs. -/
theorem reconcileAll_formed {calls : List ReconcileCall} {start : Catalog}
    (formed : Formed start.places) (accepted : start.Accepted)
    (history : reconcileAll library calls start = .ok prior) :
    Formed prior.places ∧ prior.Accepted := by
  refine foldlM_invariant (motive := fun catalog : Catalog =>
    Formed catalog.places ∧ catalog.Accepted) ?_ ⟨formed, accepted⟩ history
  rintro call _ before next ⟨formed, accepted⟩ called
  rw [reconcileCall] at called
  cases done : reconcileReferenceRecords library call.now call.records call.markMissingInactive
      before with
  | error raised =>
      rw [done] at called
      cases called
  | ok result =>
      rw [done] at called
      cases called
      exact ⟨reconcile_formed formed accepted.linked done, reconcile_accepted done⟩

end Preserved

/-- After any history of calls, a feed is reached, and stays so when it is reconciled again,
exactly if each active record finds nothing or the listing under its key with its symbol and
exchange, and each inactive record finds a listing that the sweep leaves open. -/
theorem feedReached_iff {library : Library} {calls : List ReconcileCall} {start prior : Catalog}
    (formed : Formed start.places) (accepted : start.Accepted)
    (history : reconcileAll library calls start = .ok prior) {source : String}
    {records : List ReferenceSecurityRecord} (feed : Feed source records)
    (nonempty : records ≠ []) {now : Instant} {after : Catalog} {counts : ReconcileCounts}
    (done : reconcileReferenceRecords library now records true prior = .ok (after, counts)) :
    FeedListed source records after ∧ Repeats library records after <->
      (forall record, record ∈ records -> record.isActive = true ->
        KeepsPlace record prior.places) ∧
      forall record, record ∈ records -> record.isActive = false ->
        Lasts source prior records record := by
  rcases reconcileAll_formed formed accepted history with ⟨priorFormed, priorAccepted⟩
  rw [feedListed_iff feed nonempty priorFormed priorAccepted.linked done]
  exact and_congr_right fun keeps =>
    repeats_iff feed nonempty priorFormed priorAccepted.linked done keeps

/-! ## Records of three directories -/

/-- A record of the Nasdaq directory, as its adapter parses it. -/
def nasdaqRecord (symbol name : String) : ReferenceSecurityRecord where
  source := "nasdaq_trader:nasdaq"
  sourceRecordKey := "nasdaq:" ++ symbol
  symbol := symbol
  securityName := name
  exchangeCode := "NASDAQ"
  mic := some "XNAS"
  assetType := "equity"
  isActive := true
  isTestIssue := false
  isEtf := false
  cik := none
  metadata := [("Symbol", symbol), ("Security Name", name), ("Test Issue", "N"), ("ETF", "N")]

/-- A record of the directory of the other exchanges. -/
def otherRecord (symbol name letter exchange mic : String) : ReferenceSecurityRecord where
  source := "nasdaq_trader:other"
  sourceRecordKey := "other:" ++ symbol
  symbol := symbol
  securityName := name
  exchangeCode := exchange
  mic := some mic
  assetType := "equity"
  isActive := true
  isTestIssue := false
  isEtf := false
  cik := none
  metadata := [("ACT Symbol", symbol), ("Security Name", name), ("Exchange", letter), ("ETF", "N"),
    ("Test Issue", "N")]

/-- A record of the ticker file of the SEC. -/
def secRecord (cik symbol name : String) : ReferenceSecurityRecord where
  source := "sec:company_tickers_exchange"
  sourceRecordKey := cik ++ ":" ++ symbol ++ ":NASDAQ"
  symbol := symbol
  securityName := name
  exchangeCode := "NASDAQ"
  mic := some "XNAS"
  assetType := "equity"
  isActive := true
  isTestIssue := false
  isEtf := false
  cik := some cik
  metadata := [("exchange", "NASDAQ")]

def appleRecord : ReferenceSecurityRecord := nasdaqRecord "AAPL" "Apple Inc. Common Stock"

def appleRenamed : ReferenceSecurityRecord := nasdaqRecord "AAPL" "Apple Inc. - Common Stock"

def appleSecRecord : ReferenceSecurityRecord := secRecord "0000320193" "AAPL" "Apple Inc."

def microsoftRecord : ReferenceSecurityRecord :=
  nasdaqRecord "MSFT" "Microsoft Corporation Common Stock"

/-- A record of the same symbol under another key. -/
def retiredRecord : ReferenceSecurityRecord :=
  { microsoftRecord with
    sourceRecordKey := "nasdaq:MSFT.OLD"
    isActive := false }

def activisionRecord : ReferenceSecurityRecord :=
  nasdaqRecord "ATVI" "Activision Blizzard, Inc - Common Stock"

def armRecord : ReferenceSecurityRecord :=
  nasdaqRecord "ARM" "Arm Holdings plc - American Depositary Shares"

def splunkRecord : ReferenceSecurityRecord := nasdaqRecord "SPLK" "Splunk Inc. - Common Stock"

def splunkInactive : ReferenceSecurityRecord := { splunkRecord with isActive := false }

def ibmRecord : ReferenceSecurityRecord :=
  otherRecord "IBM" "International Business Machines Corporation Common Stock" "N" "NYSE" "XNYS"

/-- The same security on another exchange. -/
def ibmMoved : ReferenceSecurityRecord :=
  otherRecord "IBM" "International Business Machines Corporation Common Stock" "A" "NYSE AMERICAN"
    "XASE"

def googleRecord : ReferenceSecurityRecord := secRecord "0001288776" "GOOG" "Google Inc."

/-- The same ticker under the CIK of the successor. -/
def alphabetRecord : ReferenceSecurityRecord := secRecord "0001652044" "GOOG" "Alphabet Inc."

/-- The identifiers and checksums that the standard library has for these records. -/
def directoryLibrary : Library where
  uuid5 := fun name =>
    ([("security:NASDAQ:AAPL", 103670532486502072248809149396461575192),
      ("security:NASDAQ:MSFT", 123011519902124539503527499181164098576),
      ("security:NASDAQ:ATVI", 232279132555866242860836834644348078248),
      ("security:NASDAQ:ARM", 271581056675672560381047765712533938471),
      ("security:NASDAQ:SPLK", 103204193390095494672904106129406709473),
      ("security:NYSE:IBM", 263188454739814220698075784552916015006),
      ("security:NASDAQ:GOOG", 134907070610281661963922381967478010001),
      ("issuer:cik:0000320193", 51292777939143755016752986171488053594),
      ("issuer:cik:0001288776", 252477793801470447279101057094044462299),
      ("issuer:cik:0001652044", 120560551402787267006175120936567384685)].lookup name).getD 0
  checksum := fun record =>
    ([(appleRecord, "6831dcaccbb44ab82c7d4f81fe0befd68ef5b74e7414352c75da01fdcbcacf29"),
      (appleRenamed, "2d6ed59b8e10b40fffb8ece84f7f794c39a9f8afdcb2b8d7d68a02084d847612"),
      (appleSecRecord, "f3ca895f0aaaf90e8f94deb8fc46bb9a4b04a075a9a572aa774151b4f3b7a6b1"),
      (microsoftRecord, "7b109b69e8fd037cd9e2f7537943d338c1cdb28764d19d6b70220889cbe955b6"),
      (retiredRecord, "bf48607de7c6a33d7f1988dbe16068548491f615464a3f5229141171ac67c9dc"),
      (activisionRecord, "8c44c32a95bb35cbd085dcc0df28214f801faf1e9b4ea2e84615e101a6d73ff9"),
      (armRecord, "353c1329df63b58f1c32c1a31c04c5738473c4e7966ed904313100d66a23d178"),
      (splunkRecord, "1f1fdbf839985a40535b145b194b6118341f9e327a6fb35cc2210f4c37a80287"),
      (splunkInactive, "eb8f0a63921a8519ab3dac06c6e49ee776892a32b9610fc267bef21d3b6f01da"),
      (ibmRecord, "3a4b7851dcd44a5dcca5917d11979b14b3d41aaabaff52b43e4396612bcacf00"),
      (ibmMoved, "a675787eacb0016612fee7628dd706f7dca21914aefbb8ddd86952c97574953c"),
      (googleRecord, "73667d24f4c954567e02db931085a647e753fa4deed6fc6ac0da1c6d5615121c"),
      (alphabetRecord, "e8311bdfd6431cf6daba53da58d9f823f838b6b330823bb657aafeecb704bd89")].lookup
        record).getD ""
  casefold := fun text => text.toLower
  isWord := fun char => char.isAlphanum || char = '_'

def emptyCatalog : Catalog := ⟨[], [], [], [], [], []⟩

theorem formed_nil : Formed [] :=
  ⟨fun _ impossible => absurd impossible List.not_mem_nil,
    fun _ _ impossible => absurd impossible List.not_mem_nil,
    fun _ _ impossible => absurd impossible List.not_mem_nil⟩

/-- What the calls leave in an empty catalog. -/
def leftBy (calls : List ReconcileCall) : Catalog :=
  ((reconcileAll directoryLibrary calls emptyCatalog).toOption).getD emptyCatalog

/-- The symbol, the name, the status and the end of each listing. -/
def Catalog.listingStates (catalog : Catalog) :
    List (String × String × ListingStatus × Option Instant) :=
  catalog.listings.map fun listing =>
    (listing.symbol, listing.securityName, listing.listingStatus, listing.validTo)

def firstDirectory : ReconcileCall where
  now := 10
  records := [appleRecord, microsoftRecord, activisionRecord, splunkRecord]
  markMissingInactive := true

/-- One name has changed, one listing is gone, one is inactive and one is new. -/
def secondDirectory : ReconcileCall where
  now := 20
  records := [appleRenamed, microsoftRecord, splunkInactive, armRecord]
  markMissingInactive := true

/-- The second directory is reached from the listings of the first. -/
theorem secondDirectory_reached :
    (leftBy [firstDirectory, secondDirectory]).listingStates =
        [("AAPL", "Apple Inc. - Common Stock", .active, none),
          ("MSFT", "Microsoft Corporation Common Stock", .active, none),
          ("ATVI", "Activision Blizzard, Inc - Common Stock", .delisted, some 20),
          ("SPLK", "Splunk Inc. - Common Stock", .inactive, none),
          ("ARM", "Arm Holdings plc - American Depositary Shares", .active, none)] ∧
      FeedListed "nasdaq_trader:nasdaq" secondDirectory.records
        (leftBy [firstDirectory, secondDirectory]) ∧
      Repeats directoryLibrary secondDirectory.records
        (leftBy [firstDirectory, secondDirectory]) := by
  have formed : Formed emptyCatalog.places := formed_nil
  have accepted : emptyCatalog.Accepted := by decide
  have history : reconcileAll directoryLibrary [firstDirectory] emptyCatalog =
      .ok (leftBy [firstDirectory]) := by
    decide +kernel
  have feed : Feed "nasdaq_trader:nasdaq" secondDirectory.records :=
    ⟨by decide, by decide, by decide⟩
  have done : reconcileReferenceRecords directoryLibrary 20 secondDirectory.records true
      (leftBy [firstDirectory]) =
        .ok (leftBy [firstDirectory, secondDirectory], ⟨4, 1, 1, 3, 1, 0, 0⟩) := by
    decide +kernel
  refine ⟨by decide +kernel,
    (feedReached_iff formed accepted history feed (List.cons_ne_nil _ _) done).mpr
      ⟨by decide +kernel, ?_⟩⟩
  intro record member inactive
  have finds : secondDirectory.records.all (fun record => record.isActive ||
      (aim record (leftBy [firstDirectory]).places).any fun place =>
        touchable "nasdaq_trader:nasdaq"
          (secondDirectory.records.map ReferenceSecurityRecord.sourceRecordKey) place) = true := by
    decide +kernel
  have found := List.all_eq_true.mp finds record member
  rw [inactive, Bool.false_or] at found
  rcases (Option.any_eq_true _ _).mp found with ⟨place, aimed, named⟩
  exact ⟨place, aimed, Or.inl named⟩

/-! ## A security that moves, and one that gets another key -/

def movedCalls : List ReconcileCall :=
  [⟨10, [ibmRecord], true⟩, ⟨20, [ibmMoved], true⟩]

def renumberedCalls : List ReconcileCall :=
  [⟨10, [googleRecord], true⟩, ⟨20, [alphabetRecord], true⟩]

theorem feed_singleton (record : ReferenceSecurityRecord) : Feed record.source [record] := by
  refine ⟨?_, List.nodup_singleton _, List.nodup_singleton _⟩
  intro other member
  rw [List.mem_singleton.mp member]

/-- The listing of a security that has moved to another exchange keeps its old exchange.  The
listing of one whose key has changed is written and closed in the same call. -/
theorem movedListing_notListed :
    (Feed ibmMoved.source [ibmMoved] ∧
        reconcileAll directoryLibrary movedCalls emptyCatalog = .ok (leftBy movedCalls) ∧
        ¬ exists listing, listing ∈ (leftBy movedCalls).listings ∧ Live listing ∧
          Agrees ibmMoved listing) ∧
      Feed alphabetRecord.source [alphabetRecord] ∧
        reconcileAll directoryLibrary renumberedCalls emptyCatalog =
          .ok (leftBy renumberedCalls) ∧
        ¬ exists listing, listing ∈ (leftBy renumberedCalls).listings ∧ Live listing ∧
          Agrees alphabetRecord listing := by
  refine ⟨⟨feed_singleton ibmMoved, by decide +kernel, ?_⟩, feed_singleton alphabetRecord,
    by decide +kernel, ?_⟩
  · rintro ⟨listing, member, _, agrees⟩
    have exchanges : (leftBy movedCalls).listings.map AssetListing.exchangeCode = ["NYSE"] := by
      decide +kernel
    have exchange : listing.exchangeCode ∈ ["NYSE"] := exchanges ▸ List.mem_map_of_mem member
    rw [agrees.exchangeCode] at exchange
    exact absurd exchange (by decide)
  · rintro ⟨listing, member, live, _⟩
    have ends : (leftBy renumberedCalls).listings.map AssetListing.validTo = [some 20] := by
      decide +kernel
    have closed : listing.validTo ∈ [some (20 : Instant)] := ends ▸ List.mem_map_of_mem member
    rw [live.1] at closed
    exact absurd closed (by decide)

end ReferenceData
end MarketIntelligence
