import MarketIntelligence.Foundations.Loops
import MarketIntelligence.Operations.Scheduling

namespace MarketIntelligence
namespace Operations
namespace Scheduling

open Foundations
open Loops
open Trails

/-!
# The occurrences of a definition

Whatever the schedulers do at once, the committed occurrences of a definition are the due
times from its first one up to the one that it waits for.  A round can have read a due time
that another round has served since then; its insert fails.  What is inserted and not yet
committed is the due time that the definition waits for, and only one round has it.
-/

/-! ## Due times move forward -/

theorem day_pos : (0 : Int) < day := by decide

theorem second_pos : (0 : Int) < second := by decide

section NextDue

variable {upper : String -> String} {definition : ScheduledTaskDefinition} {due next : Int}

theorem later_ok {delta : Int} (moved : later due delta = .ok next) : next = due + delta := by
  unfold later at moved
  split at moved
  · cases moved
  · exact (Except.ok.inj moved).symm

theorem later_lt {delta : Int} (positive : 0 < delta) (moved : later due delta = .ok next) :
    due < next := by
  have ends := later_ok moved
  omega

theorem skipWeekend_ok {candidate : Int} (skipped : skipWeekend candidate = .ok next) :
    candidate ≤ next ∧ weekday next < 5 := by
  induction candidate using skipWeekend.induct with
  | case1 candidate weekend beyond =>
      rw [skipWeekend, if_pos weekend, if_pos beyond] at skipped
      cases skipped
  | case2 candidate weekend within ih =>
      rw [skipWeekend, if_pos weekend, if_neg within] at skipped
      rcases ih skipped with ⟨forward, open_⟩
      exact ⟨le_trans (le_of_lt (Int.lt_add_of_pos_right candidate day_pos)) forward, open_⟩
  | case3 candidate open_ =>
      rw [skipWeekend, if_neg open_] at skipped
      cases skipped
      exact ⟨le_refl _, not_le.mp open_⟩

/-- A due time is followed by a later one, outside weekends on the market calendar. -/
theorem nextDue_ok (moved : nextDue upper definition due = .ok next) :
    due < next ∧ (upper definition.scheduleType = "MARKET_CALENDAR" -> weekday next < 5) := by
  unfold nextDue at moved
  simp only at moved
  by_cases interval : upper definition.scheduleType = "INTERVAL"
  · rw [if_pos interval] at moved
    rcases except_bind_ok moved with ⟨seconds, _, shifted⟩
    refine ⟨later_lt (Int.mul_pos (by omega) second_pos) shifted, ?_⟩
    rw [interval]
    intro impossible
    simp at impossible
  rw [if_neg interval] at moved
  by_cases daily : upper definition.scheduleType = "DAILY"
  · rw [if_pos daily] at moved
    refine ⟨later_lt day_pos moved, ?_⟩
    rw [daily]
    intro impossible
    simp at impossible
  rw [if_neg daily] at moved
  by_cases weekly : upper definition.scheduleType = "WEEKLY"
  · rw [if_pos weekly] at moved
    refine ⟨later_lt (Int.mul_pos (by omega) day_pos) moved, ?_⟩
    rw [weekly]
    intro impossible
    simp at impossible
  rw [if_neg weekly] at moved
  split at moved
  · rcases except_bind_ok moved with ⟨days, _, rest⟩
    rcases except_bind_ok rest with ⟨candidate, shifted, ends⟩
    have forward : due < candidate := later_lt (Int.mul_pos (by omega) day_pos) shifted
    by_cases market : upper definition.scheduleType = "MARKET_CALENDAR"
    · rw [if_pos market] at ends
      rcases skipWeekend_ok ends with ⟨further, open_⟩
      exact ⟨lt_of_lt_of_le forward further, fun _ => open_⟩
    · rw [if_neg market] at ends
      cases ends
      exact ⟨forward, fun same => absurd same market⟩
  · cases moved

end NextDue

/-! ## What the tables hold -/

def dueTimes (occurrences : List ScheduledTaskOccurrence) (definitionId : Identifier) :
    List Instant :=
  (occurrences.filter fun occurrence => occurrence.definitionId = definitionId).map
    ScheduledTaskOccurrence.scheduledFor

/-- The definitions have one schedule.  The rounds move when a definition is due and change
nothing else that the next time is computed from. -/
structure SameSchedule (first second : ScheduledTaskDefinition) : Prop where
  id : first.id = second.id
  scheduleType : first.scheduleType = second.scheduleType
  schedule : first.schedule = second.schedule

/-- The due times lead from the first one to the one that the definition waits for. -/
structure Served (upper : String -> String) (origin current : ScheduledTaskDefinition)
    (times : List Instant) : Prop where
  same : SameSchedule origin current
  trail : exists trail,
    Leads (fun due next => nextDue upper origin due = .ok next) origin.nextDueAt trail
      current.nextDueAt ∧ times = trail.map Prod.fst

/-- What a round has read is the due time that the definition waits for, or served. -/
def Seen (system : System) (definition : ScheduledTaskDefinition) : Prop :=
  exists current, current ∈ system.definitions ∧ SameSchedule definition current ∧
    (definition.nextDueAt = current.nextDueAt ∨
      definition.nextDueAt ∈ dueTimes system.occurrences definition.id)

/-- What a round has written is the due time that the definition waits for. -/
def Awaited (upper : String -> String) (system : System) (pending : Pending) : Prop :=
  exists current, current ∈ system.definitions ∧
    current.id = pending.occurrence.definitionId ∧
    pending.occurrence.scheduledFor = current.nextDueAt ∧
    nextDue upper current current.nextDueAt = .ok pending.nextDueAt

def Pending.definitionId (pending : Pending) : Identifier :=
  pending.occurrence.definitionId

/-- A round, as far as the committed tables are concerned: what it has read is still so or was
overtaken, and what it writes is about one definition each. -/
structure Sound (upper : String -> String) (system : System) (round : Round) : Prop where
  seen : forall definition, definition ∈ round.remaining -> Seen system definition
  awaited : forall pending, pending ∈ round.written -> Awaited upper system pending
  single : (round.written.map Pending.definitionId).Nodup

/-- The rounds write about different definitions. -/
def Apart (first second : Round) : Prop :=
  forall left, left ∈ first.written -> forall right, right ∈ second.written ->
    left.definitionId ≠ right.definitionId

structure Consistent (upper : String -> String) (timetable : Timetable) (system : System) :
    Prop where
  ids : system.definitions.map ScheduledTaskDefinition.id =
    timetable.definitions.map ScheduledTaskDefinition.id
  served : forall origin, origin ∈ timetable.definitions -> forall current,
    current ∈ system.definitions -> current.id = origin.id ->
      Served upper origin current (dueTimes system.occurrences origin.id)
  open_nodup : (system.rounds.map Round.schedulerId).Nodup
  sound : forall round, round ∈ system.rounds -> Sound upper system round
  apart : forall first, first ∈ system.rounds -> forall second, second ∈ system.rounds ->
    first.schedulerId ≠ second.schedulerId -> Apart first second

theorem SameSchedule.nextDue {upper : String -> String}
    {first second : ScheduledTaskDefinition} (same : SameSchedule first second) (due : Instant) :
    nextDue upper first due = nextDue upper second due := by
  unfold Scheduling.nextDue
  rw [same.scheduleType, same.schedule]

theorem SameSchedule.trans {first middle second : ScheduledTaskDefinition}
    (left : SameSchedule first middle) (right : SameSchedule middle second) :
    SameSchedule first second :=
  ⟨left.id.trans right.id, left.scheduleType.trans right.scheduleType,
    left.schedule.trans right.schedule⟩

theorem mem_dueTimes {occurrences : List ScheduledTaskOccurrence} {definitionId : Identifier}
    {due : Instant} :
    due ∈ dueTimes occurrences definitionId <-> exists occurrence, occurrence ∈ occurrences ∧
      occurrence.definitionId = definitionId ∧ occurrence.scheduledFor = due := by
  unfold dueTimes
  rw [List.mem_map]
  constructor
  · rintro ⟨occurrence, member, scheduled⟩
    rcases List.mem_filter.mp member with ⟨listed, own⟩
    exact ⟨occurrence, listed, of_decide_eq_true own, scheduled⟩
  · rintro ⟨occurrence, listed, own, scheduled⟩
    exact ⟨occurrence, List.mem_filter.mpr ⟨listed, decide_eq_true own⟩, scheduled⟩

/-! ## Rounds opened and closed -/

section Rounds

variable {upper : String -> String} {digest : Identifier × Instant -> String}
  {timetable : Timetable} {system : System} {round : Round}

theorem round_some {schedulerId : String} (found : system.round schedulerId = some round) :
    round ∈ system.rounds ∧ round.schedulerId = schedulerId :=
  Tables.lookup_some found

theorem mem_others {schedulerId : String} {other : Round} :
    other ∈ system.others schedulerId <->
      other ∈ system.rounds ∧ other.schedulerId ≠ schedulerId := by
  unfold System.others
  rw [List.mem_filter, decide_eq_true_eq]

theorem Apart.symm {first second : Round} (apart : Apart first second) : Apart second first :=
  fun left leftMember right rightMember same =>
    apart right rightMember left leftMember same.symm

/-- A round can be written that is sound and apart from the others. -/
theorem Consistent.write (consistent : Consistent upper timetable system)
    (sound : Sound upper system round)
    (apart : forall other, other ∈ system.others round.schedulerId -> Apart round other) :
    Consistent upper timetable (system.write round) where
  ids := consistent.ids
  served := consistent.served
  open_nodup := Tables.nodup_put consistent.open_nodup
  sound := by
    intro other member
    rcases Tables.mem_put member with new | old
    · rw [new]
      exact ⟨sound.seen, sound.awaited, sound.single⟩
    · have kept := consistent.sound other old
      exact ⟨kept.seen, kept.awaited, kept.single⟩
  apart := by
    intro first firstMember second secondMember different
    rcases Tables.mem_put firstMember with firstNew | firstOld
    · rcases Tables.mem_put secondMember with secondNew | secondOld
      · rw [firstNew, secondNew] at different
        exact absurd rfl different
      · rw [firstNew] at different ⊢
        exact apart second (mem_others.mpr ⟨secondOld, different.symm⟩)
    · rcases Tables.mem_put secondMember with secondNew | secondOld
      · rw [secondNew] at different ⊢
        exact (apart first (mem_others.mpr ⟨firstOld, different⟩)).symm
      · exact consistent.apart first firstOld second secondOld different

theorem Consistent.close (consistent : Consistent upper timetable system)
    (schedulerId : String) : Consistent upper timetable (system.close schedulerId) where
  ids := consistent.ids
  served := consistent.served
  open_nodup := consistent.open_nodup.sublist (List.filter_sublist.map _)
  sound := by
    intro other member
    have kept := consistent.sound other (mem_others.mp member).1
    exact ⟨kept.seen, kept.awaited, kept.single⟩
  apart := by
    intro first firstMember second secondMember
    exact consistent.apart first (mem_others.mp firstMember).1 second
      (mem_others.mp secondMember).1

theorem Consistent.read (consistent : Consistent upper timetable system)
    {schedulerId : String} {definitions : List ScheduledTaskDefinition}
    (stored : forall definition, definition ∈ definitions -> definition ∈ system.definitions) :
    Consistent upper timetable (system.write
      { schedulerId := schedulerId
        read := definitions
        remaining := definitions
        written := [] }) := by
  apply consistent.write
  · refine ⟨?_, ?_, List.nodup_nil⟩
    · intro definition member
      exact ⟨definition, stored definition member, ⟨rfl, rfl, rfl⟩, Or.inl rfl⟩
    · intro pending member
      cases member
  · intro other _ left member
    cases member

/-! ## Claims -/

theorem clashes_of_same {first second : ScheduledTaskOccurrence}
    (definition : first.definitionId = second.definitionId)
    (due : first.scheduledFor = second.scheduledFor) : clashes first second = true := by
  unfold clashes
  simp [definition, due]

theorem refuses_of_committed {first second : ScheduledTaskOccurrence}
    (member : first ∈ system.occurrences) (clash : clashes first second = true) :
    system.refuses round second = true := by
  unfold System.refuses
  rw [Bool.or_eq_true]
  exact Or.inl (List.any_eq_true.mpr ⟨first, member, clash⟩)

theorem refuses_of_written {pending : Pending} {occurrence : ScheduledTaskOccurrence}
    (member : pending ∈ round.written) (clash : clashes pending.occurrence occurrence = true) :
    system.refuses round occurrence = true := by
  unfold System.refuses
  rw [Bool.or_eq_true]
  exact Or.inr (List.any_eq_true.mpr ⟨pending, member, clash⟩)

theorem blocks_of_written {other : Round} {pending : Pending}
    {occurrence : ScheduledTaskOccurrence} (open_ : other ∈ system.others round.schedulerId)
    (member : pending ∈ other.written) (clash : clashes pending.occurrence occurrence = true) :
    system.blocks round occurrence = true := by
  unfold System.blocks
  exact List.any_eq_true.mpr ⟨other, open_, List.any_eq_true.mpr ⟨pending, member, clash⟩⟩

theorem Consistent.ids_nodup (consistent : Consistent upper timetable system) :
    (system.definitions.map ScheduledTaskDefinition.id).Nodup := by
  rw [consistent.ids]
  exact timetable.ids_nodup

theorem Consistent.unique (consistent : Consistent upper timetable system)
    {first second : ScheduledTaskDefinition} (firstMember : first ∈ system.definitions)
    (secondMember : second ∈ system.definitions) (same : first.id = second.id) : first = second :=
  List.inj_on_of_nodup_map consistent.ids_nodup firstMember secondMember same

/-- A definition waits for one due time. -/
theorem Consistent.awaited_clashes (consistent : Consistent upper timetable system)
    {first second : Pending} (firstAwaited : Awaited upper system first)
    (secondAwaited : Awaited upper system second)
    (same : first.definitionId = second.definitionId) :
    clashes first.occurrence second.occurrence = true := by
  rcases firstAwaited with ⟨firstRow, firstMember, firstId, firstDue, _⟩
  rcases secondAwaited with ⟨secondRow, secondMember, secondId, secondDue, _⟩
  have rows : firstRow = secondRow :=
    consistent.unique firstMember secondMember (firstId.trans (same.trans secondId.symm))
  refine clashes_of_same same ?_
  rw [firstDue, secondDue, rows]

/-- An insert that the committed rows do not refuse is for the due time that is waited for. -/
theorem awaited_of_accepted {definition : ScheduledTaskDefinition} {next : Instant}
    (seen : Seen system definition)
    (accepted : system.refuses round (occurrenceOf digest round.schedulerId definition) = false)
    (moved : nextDue upper definition definition.nextDueAt = .ok next) :
    Awaited upper system
      { occurrence := occurrenceOf digest round.schedulerId definition, nextDueAt := next } := by
  rcases seen with ⟨current, member, same, waited | served⟩
  · refine ⟨current, member, same.id.symm, waited, ?_⟩
    rw [← same.nextDue, ← waited]
    exact moved
  · rcases mem_dueTimes.mp served with ⟨occurrence, listed, own, scheduled⟩
    rw [refuses_of_committed listed (clashes_of_same own scheduled)] at accepted
    cases accepted

theorem Consistent.apart_others (consistent : Consistent upper timetable system)
    (member : round ∈ system.rounds) :
    forall other, other ∈ system.others round.schedulerId -> Apart round other := by
  intro other open_
  rcases mem_others.mp open_ with ⟨listed, different⟩
  exact consistent.apart round member other listed different.symm

/-- An insert that is neither refused nor blocked is the only one for its definition. -/
theorem Consistent.insert (consistent : Consistent upper timetable system)
    (member : round ∈ system.rounds) {pending : Pending}
    {rest : List ScheduledTaskDefinition}
    (seen : forall definition, definition ∈ rest -> Seen system definition)
    (awaited : Awaited upper system pending)
    (accepted : system.refuses round pending.occurrence = false)
    (free : system.blocks round pending.occurrence = false) :
    Consistent upper timetable (system.write { round with
      remaining := rest
      written := round.written ++ [pending] }) := by
  have sound := consistent.sound round member
  refine consistent.write ⟨seen, ?_, ?_⟩ ?_
  · intro other listed
    rcases List.mem_append.mp listed with old | added
    · exact sound.awaited other old
    · exact List.mem_singleton.mp added ▸ awaited
  · rw [List.map_append]
    refine sound.single.append (List.nodup_singleton _) ?_
    intro name earlier added
    rcases List.mem_map.mp earlier with ⟨other, listed, own⟩
    have clash := consistent.awaited_clashes (sound.awaited other listed) awaited
      (own.trans (List.mem_singleton.mp added))
    rw [refuses_of_written listed clash] at accepted
    cases accepted
  · intro other open_ left leftMember right rightMember same
    rcases List.mem_append.mp leftMember with old | added
    · exact consistent.apart_others member other open_ left old right rightMember same
    · rw [List.mem_singleton.mp added] at same
      have others := consistent.sound other (mem_others.mp open_).1
      have clash := consistent.awaited_clashes (others.awaited right rightMember) awaited same.symm
      have blocked : system.blocks round pending.occurrence = true :=
        blocks_of_written open_ rightMember clash
      rw [blocked] at free
      cases free

theorem Consistent.claim (consistent : Consistent upper timetable system)
    (member : round ∈ system.rounds) :
    Consistent upper timetable (system.claim upper digest round) := by
  have sound := consistent.sound round member
  have apart := consistent.apart_others member
  unfold System.claim
  cases remaining : round.remaining with
  | nil => exact consistent
  | cons definition rest =>
      have later : forall other, other ∈ rest -> Seen system other := fun other listed =>
        sound.seen other (remaining ▸ List.mem_cons_of_mem definition listed)
      simp only
      cases refused : system.refuses round (occurrenceOf digest round.schedulerId definition) with
      | true =>
          rw [if_pos rfl]
          exact consistent.write ⟨later, sound.awaited, sound.single⟩ apart
      | false =>
          rw [if_neg Bool.false_ne_true]
          cases blocked :
              system.blocks round (occurrenceOf digest round.schedulerId definition) with
          | true => exact consistent
          | false =>
              rw [if_neg Bool.false_ne_true]
              cases moved : nextDue upper definition definition.nextDueAt with
              | error refusal => exact consistent.close round.schedulerId
              | ok next =>
                  have seen := sound.seen definition (remaining ▸ List.mem_cons_self)
                  exact consistent.insert member later
                    (awaited_of_accepted seen refused moved) refused blocked

/-! ## Commits -/

theorem moved_of_none {definition : ScheduledTaskDefinition}
    (absent : round.pending definition.id = none) : round.moved definition = definition := by
  unfold Round.moved
  rw [absent]

theorem moved_of_some {definition : ScheduledTaskDefinition} {pending : Pending}
    (found : round.pending definition.id = some pending) :
    round.moved definition = { definition with
      lastScheduledAt := some pending.occurrence.scheduledFor
      nextDueAt := pending.nextDueAt } := by
  unfold Round.moved
  rw [found]

theorem moved_sameSchedule (definition : ScheduledTaskDefinition) :
    SameSchedule definition (round.moved definition) := by
  cases found : round.pending definition.id with
  | none =>
      rw [moved_of_none found]
      exact ⟨rfl, rfl, rfl⟩
  | some pending =>
      rw [moved_of_some found]
      exact ⟨rfl, rfl, rfl⟩

theorem pending_some {definitionId : Identifier} {pending : Pending}
    (found : round.pending definitionId = some pending) :
    pending ∈ round.written ∧ pending.definitionId = definitionId :=
  Tables.lookup_some found

theorem pending_none {definitionId : Identifier}
    (other : forall pending, pending ∈ round.written -> pending.definitionId ≠ definitionId) :
    round.pending definitionId = none := by
  cases found : round.pending definitionId with
  | none => rfl
  | some pending =>
      rcases pending_some found with ⟨member, own⟩
      exact absurd own (other pending member)

theorem dueTimes_append (first second : List ScheduledTaskOccurrence)
    (definitionId : Identifier) :
    dueTimes (first ++ second) definitionId =
      dueTimes first definitionId ++ dueTimes second definitionId := by
  unfold dueTimes
  rw [List.filter_append, List.map_append]

/-- A round adds at most one due time to a definition. -/
theorem dueTimes_written (single : (round.written.map Pending.definitionId).Nodup)
    (definitionId : Identifier) :
    dueTimes (round.written.map Pending.occurrence) definitionId =
      ((round.pending definitionId).map fun pending => pending.occurrence.scheduledFor).toList := by
  unfold dueTimes
  rw [List.filter_map, List.map_map]
  cases found : round.pending definitionId with
  | none =>
      have empty : round.written.filter
          ((fun occurrence => occurrence.definitionId = definitionId) ∘ Pending.occurrence) = [] :=
        List.filter_eq_nil_iff.mpr fun pending member =>
          List.find?_eq_none.mp found pending member
      rw [empty]
      rfl
  | some pending =>
      rcases pending_some found with ⟨member, own⟩
      subst own
      have sole := Tables.sole_of_lookup single found
      have only : round.written.filter
          ((fun occurrence => occurrence.definitionId = pending.definitionId) ∘
            Pending.occurrence) = [pending] := sole
      rw [only]
      rfl

theorem Served.commit {origin current : ScheduledTaskDefinition} {times : List Instant}
    (served : Served upper origin current times)
    (consistent : Consistent upper timetable system) (sound : Sound upper system round)
    (member : current ∈ system.definitions) :
    Served upper origin (round.moved current) (times ++
      ((round.pending current.id).map fun pending => pending.occurrence.scheduledFor).toList) := by
  cases found : round.pending current.id with
  | none =>
      rw [moved_of_none found]
      exact (List.append_nil times).symm ▸ served
  | some pending =>
      rcases pending_some found with ⟨written, own⟩
      rcases sound.awaited pending written with ⟨row, stored, rowId, due, next⟩
      have same : row = current := consistent.unique stored member (rowId.trans own)
      rw [same] at due next
      rcases served.trail with ⟨trail, leads, times_⟩
      have permitted : nextDue upper origin current.nextDueAt = .ok pending.nextDueAt :=
        (served.same.nextDue current.nextDueAt).trans next
      refine ⟨served.same.trans (moved_sameSchedule current),
        trail ++ [(current.nextDueAt, pending.nextDueAt)], ?_, ?_⟩
      · rw [moved_of_some found]
        exact leads.snoc permitted
      · rw [times_, List.map_append, ← due]
        rfl

theorem Seen.commit {definition : ScheduledTaskDefinition} (seen : Seen system definition)
    (consistent : Consistent upper timetable system) (sound : Sound upper system round) :
    Seen
      { definitions := system.definitions.map round.moved
        occurrences := system.occurrences ++ round.written.map Pending.occurrence
        rounds := system.others round.schedulerId }
      definition := by
  rcases seen with ⟨current, member, same, place⟩
  refine ⟨round.moved current, List.mem_map_of_mem member,
    same.trans (moved_sameSchedule current), ?_⟩
  rw [dueTimes_append, List.mem_append, dueTimes_written sound.single]
  rcases place with waited | served
  · cases found : round.pending current.id with
    | none =>
        rw [moved_of_none found]
        exact Or.inl waited
    | some pending =>
        rcases pending_some found with ⟨written, own⟩
        rcases sound.awaited pending written with ⟨row, stored, rowId, due, _⟩
        have rows : row = current := consistent.unique stored member (rowId.trans own)
        rw [same.id, found, waited, ← rows, ← due]
        exact Or.inr (Or.inr (List.mem_singleton.mpr rfl))
  · exact Or.inr (Or.inl served)

theorem Awaited.commit {pending : Pending} (awaited : Awaited upper system pending)
    (other : forall written, written ∈ round.written ->
      written.definitionId ≠ pending.definitionId) :
    Awaited upper
      { definitions := system.definitions.map round.moved
        occurrences := system.occurrences ++ round.written.map Pending.occurrence
        rounds := system.others round.schedulerId }
      pending := by
  rcases awaited with ⟨current, member, own, due, next⟩
  have unmoved : round.moved current = current := by
    apply moved_of_none
    apply pending_none
    intro written listed same
    exact other written listed (same.trans own)
  exact ⟨current, List.mem_map.mpr ⟨current, member, unmoved⟩, own, due, next⟩

theorem Consistent.commit (consistent : Consistent upper timetable system)
    (member : round ∈ system.rounds) : Consistent upper timetable (system.commit round) := by
  have sound := consistent.sound round member
  unfold System.commit
  split
  · refine ⟨?_, ?_, ?_, ?_, ?_⟩
    · rw [List.map_map, ← consistent.ids]
      exact List.map_congr_left fun definition _ => (moved_sameSchedule definition).id.symm
    · intro origin originMember current listed own
      rcases List.mem_map.mp listed with ⟨before, stored, moved⟩
      have name : before.id = origin.id := by
        rw [← own, ← moved]
        exact (moved_sameSchedule before).id
      have served := consistent.served origin originMember before stored name
      rw [dueTimes_append, dueTimes_written sound.single, ← moved, ← name]
      rw [← name] at served
      exact served.commit consistent sound stored
    · exact (consistent.close round.schedulerId).open_nodup
    · intro other open_
      have kept := consistent.sound other (mem_others.mp open_).1
      refine ⟨?_, ?_, kept.single⟩
      · intro definition listed
        exact (kept.seen definition listed).commit consistent sound
      · intro pending listed
        exact (kept.awaited pending listed).commit fun written writtenMember =>
          consistent.apart_others member other open_ written writtenMember pending listed
    · exact (consistent.close round.schedulerId).apart
  · exact consistent

/-! ## Runs of the schedulers -/

variable {postgresql : Bool}

theorem mem_due {schedulerId : String} {now : Instant} {limit : Nat}
    {definition : ScheduledTaskDefinition}
    (member : definition ∈ system.due postgresql schedulerId now limit) :
    definition ∈ system.definitions := by
  unfold System.due at member
  have sorted := List.mem_of_mem_take member
  exact (List.mem_filter.mp (SortedLists.mem_sortedBy.mp sorted)).1

theorem Consistent.step (consistent : Consistent upper timetable system) (step : Step) :
    Consistent upper timetable (system.step upper digest postgresql step) := by
  cases step with
  | read schedulerId now limit =>
      simp only [System.step]
      cases found : system.round schedulerId with
      | some round => exact consistent
      | none => exact consistent.read fun definition member => mem_due member
  | claim schedulerId =>
      simp only [System.step]
      cases found : system.round schedulerId with
      | none => exact consistent
      | some round => exact consistent.claim (round_some found).1
  | commit schedulerId =>
      simp only [System.step]
      cases found : system.round schedulerId with
      | none => exact consistent
      | some round => exact consistent.commit (round_some found).1
  | abort schedulerId => exact consistent.close schedulerId

theorem Timetable.opening_consistent (timetable : Timetable) :
    Consistent upper timetable timetable.opening where
  ids := rfl
  served := by
    intro origin originMember current member same
    have row : current = origin :=
      List.inj_on_of_nodup_map timetable.ids_nodup member originMember same
    rw [row]
    exact ⟨⟨rfl, rfl, rfl⟩, [], .here origin.nextDueAt, rfl⟩
  open_nodup := List.nodup_nil
  sound := by
    intro round member
    cases member
  apart := by
    intro round member
    cases member

end Rounds

/-! ## The due times of a definition -/

section DueTimes

variable (upper : String -> String) (digest : Identifier × Instant -> String)
  (postgresql : Bool)

/-- The occurrences are for the due times from the first one up to the one waited for: each once,
in order, all of them before the next due time, and on weekdays where the schedule follows the
market. -/
structure Complete (origin current : ScheduledTaskDefinition) (times : List Instant) :
    Prop where
  served : Served upper origin current times
  increasing : times.Pairwise (· < ·)
  past : forall due, due ∈ times -> due < current.nextDueAt
  weekdays : upper origin.scheduleType = "MARKET_CALENDAR" ->
    forall due, due ∈ times.tail -> weekday due < 5

variable {upper}

theorem Served.complete {origin current : ScheduledTaskDefinition} {times : List Instant}
    (served : Served upper origin current times) : Complete upper origin current times := by
  rcases served.trail with ⟨trail, leads, times_⟩
  have ordered : (times ++ [current.nextDueAt]).Pairwise (fun due next : Int => due < next) := by
    rw [times_, leads.states]
    exact (leads.isChain.imp fun due next moved => (nextDue_ok moved).1).pairwise
  rw [List.pairwise_append] at ordered
  refine ⟨served, ordered.1, ?_, ?_⟩
  · intro due member
    exact ordered.2.2 due member current.nextDueAt (List.mem_singleton.mpr rfl)
  · intro market due member
    rw [times_] at member
    exact leads.entered (fun state next moved => (nextDue_ok moved).2 market) due
      (leads.mem_of_mem_tail member)

/-- Whatever the schedulers do at once, the occurrences of a definition are those of its due
times up to the one it waits for, without a gap and without a second one. -/
theorem occurrences_complete (timetable : Timetable) (steps : List Step) :
    forall system, system ∈
        Runs.states (System.step upper digest postgresql) timetable.opening steps ->
      forall origin, origin ∈ timetable.definitions ->
        exists current, current ∈ system.definitions ∧ current.id = origin.id ∧
          Complete upper origin current (dueTimes system.occurrences origin.id) := by
  intro system visited origin member
  have consistent : Consistent upper timetable system :=
    Runs.invariant_states (fun state step (held : Consistent upper timetable state) =>
      held.step step) timetable.opening_consistent system visited
  have listed : origin.id ∈ system.definitions.map ScheduledTaskDefinition.id := by
    rw [consistent.ids]
    exact List.mem_map_of_mem member
  rcases List.mem_map.mp listed with ⟨current, stored, same⟩
  exact ⟨current, stored, same, (consistent.served origin member current stored same).complete⟩

end DueTimes

/-! ## Two schedulers at once -/

def dailyTask : ScheduledTaskDefinition where
  id := 1
  workspaceId := none
  enabled := true
  scheduleType := "DAILY"
  schedule := ⟨.absent, .absent⟩
  nextDueAt := 0
  lastScheduledAt := none

def dailyTimetable : Timetable where
  definitions := [dailyTask]
  ids_nodup := List.nodup_singleton _

/-- Both have read the task when the first one inserts its occurrence, and the insert of the
second one is refused. -/
def racingSteps : List Step :=
  [.read "first" 0 100, .read "second" 0 100, .claim "first", .claim "second", .commit "first",
    .claim "second", .commit "second"]

def keyDigest (key : Identifier × Instant) : String :=
  toString key.1 ++ ":" ++ toString key.2

theorem racingSteps_complete :
    dueTimes (racingSteps.foldl (System.step id keyDigest false)
        dailyTimetable.opening).occurrences dailyTask.id = [0] ∧
      exists current, current ∈ (racingSteps.foldl (System.step id keyDigest false)
          dailyTimetable.opening).definitions ∧ current.id = dailyTask.id ∧
        Complete id dailyTask current
          (dueTimes (racingSteps.foldl (System.step id keyDigest false)
            dailyTimetable.opening).occurrences dailyTask.id) :=
  ⟨by decide, occurrences_complete keyDigest false dailyTimetable racingSteps _
    (Runs.foldl_mem_states dailyTimetable.opening racingSteps) dailyTask
    (List.mem_singleton.mpr rfl)⟩

end Scheduling
end Operations
end MarketIntelligence
