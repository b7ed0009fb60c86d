import MarketIntelligence.EconomicGraph.Service
import MarketIntelligence.Foundations.Loops

namespace MarketIntelligence
namespace EconomicGraph

open Foundations
open Loops

/-!
# What a creation has written when it raises

The creation of a relationship, call by call on the session.  The arguments are checked before
the first row is added, all but the directions of the evidence, and a flush can fail on the
constraints of the tables.
-/

/-! ## Calls on the session -/

inductive SessionCall where
  | addRelationship (row : EconomicRelationship)
  | addComponent (row : RelationshipConfidenceComponent)
  | addEvidence (row : RelationshipEvidence)
  | flush
  deriving DecidableEq, Repr

def SessionCall.relationship : SessionCall -> Option EconomicRelationship
  | .addRelationship row => some row
  | _ => none

def SessionCall.evidence : SessionCall -> Option RelationshipEvidence
  | .addEvidence row => some row
  | _ => none

/-- A program keeps the calls that it has made, also when it raises. -/
abbrev SessionProgram := EStateM ServiceError (List SessionCall)

def record (call : SessionCall) : SessionProgram PUnit :=
  modify fun calls => calls ++ [call]

def attempt {α : Type} (outcome : Except ServiceError α) : SessionProgram α := fun calls =>
  match outcome with
  | .ok value => .ok value calls
  | .error raised => .error raised calls

/-- What was added after the last flush.  Only the end of the transaction writes these, so a
failure there leaves them out. -/
def pending (calls : List SessionCall) : List SessionCall :=
  calls.foldl (fun rows call => if call = .flush then [] else rows ++ [call]) []

/-- `session.flush()`, on the rows of the database. -/
def flush (graph : Graph) : SessionProgram PUnit := do
  let calls ← get
  record .flush
  ((pending calls).filterMap SessionCall.relationship).forM fun row =>
    attempt (checkRelationship graph row)
  attempt (checkEvidence ((pending calls).filterMap SessionCall.evidence))

/-! ## The program -/

def directions : List String := ["supporting", "contradicting"]

def EvidenceItem.link (entry : EvidenceItem) (relationshipId : Identifier) :
    RelationshipEvidence :=
  ⟨relationshipId, entry.record.id, entry.direction, entry.weight⟩

def addLink (item : EconomicRelationship) (entry : EvidenceItem) : SessionProgram PUnit :=
  if entry.direction ∉ directions then
    throw (.value "evidence direction must be supporting or contradicting")
  else record (.addEvidence (entry.link item.id))

/-- From `session.add(item)` to the end. -/
def writeRelationship (graph : Graph) (request : RelationshipRequest)
    (item : EconomicRelationship) : SessionProgram (EconomicRelationship × Bool) := do
  record (.addRelationship item)
  flush graph
  request.components.forM fun component =>
    record (.addComponent ⟨item.id, confidenceFormulaVersion, component.1, component.2⟩)
  request.evidence.forM (addLink item)
  flush graph
  return (item, true)

/-- The row that the select finds. -/
def RelationshipRequest.existing (request : RelationshipRequest) (graph : Graph) :
    Option EconomicRelationship :=
  graph.relationships.find? fun row =>
    row.workspaceId = request.subject.workspaceId &&
      row.subjectEntityId = request.subject.id &&
      row.predicate = request.predicate &&
      row.objectEntityId = request.objectEntity.id &&
      row.validFrom = request.validFrom

/-- `create_relationship` in a session -/
def createRelationshipIn (graph : Graph) (request : RelationshipRequest) :
    SessionProgram (EconomicRelationship × Bool) :=
  if request.subject.workspaceId ≠ request.objectEntity.workspaceId then
    throw (.value "cross-workspace relationships are forbidden")
  else if request.subject.id = request.objectEntity.id then
    throw (.value "self relationships are forbidden")
  else if request.predicate ∉ relationshipTypes then
    throw (.value ("unsupported relationship type: " ++ request.predicate))
  else
    match readStatus request.status with
    | none => throw (.value ("unsupported relationship status: " ++ request.status))
    | some status =>
        if status = .verified ∧ request.supporting = [] then
          throw (.value "verified relationships require supporting evidence")
        else if request.simulationEligibleTime < request.evidenceFloor then
          throw (.value "relationship eligibility cannot precede supporting evidence")
        else do
          let confidence ← attempt (aggregateConfidence request.components)
          match request.existing graph with
          | some existing => return (existing, false)
          | none => writeRelationship graph request (request.row confidence status)

/-! ## The calls of the second half -/

section Writing

variable {graph : Graph} {request : RelationshipRequest} {item : EconomicRelationship}
  {calls : List SessionCall}

theorem record_bind {α : Type} (call : SessionCall) (next : PUnit -> SessionProgram α)
    (calls : List SessionCall) :
    (record call >>= next) calls = next ⟨⟩ (calls ++ [call]) := rfl

theorem attempt_ok {α : Type} {outcome : Except ServiceError α} {value : α}
    (done : outcome = .ok value) (calls : List SessionCall) :
    attempt outcome calls = .ok value calls := by
  subst done
  rfl

theorem attempt_error {α : Type} {outcome : Except ServiceError α} {raised : ServiceError}
    (done : outcome = .error raised) (calls : List SessionCall) :
    attempt outcome calls = .error raised calls := by
  subst done
  rfl

theorem forM_record {α : Type} (call : α -> SessionCall) (values : List α)
    (calls : List SessionCall) :
    (values.forM fun value => record (call value)) calls = .ok ⟨⟩ (calls ++ values.map call) := by
  induction values generalizing calls with
  | nil =>
      rw [List.map_nil, List.append_nil]
      rfl
  | cons head tail ih =>
      refine (ih (calls ++ [call head])).trans ?_
      rw [List.map_cons, List.append_assoc, List.singleton_append]

theorem forM_addLink_ok {entries : List EvidenceItem}
    (valid : forall entry, entry ∈ entries -> entry.direction ∈ directions)
    (calls : List SessionCall) :
    entries.forM (addLink item) calls =
      .ok ⟨⟩ (calls ++ entries.map fun entry => .addEvidence (entry.link item.id)) := by
  induction entries generalizing calls with
  | nil =>
      rw [List.map_nil, List.append_nil]
      rfl
  | cons head tail ih =>
      have first : addLink item head = record (.addEvidence (head.link item.id)) :=
        if_neg (not_not_intro (valid head List.mem_cons_self))
      have sequenced : (head :: tail).forM (addLink item) calls =
          (addLink item head >>= fun _ => tail.forM (addLink item)) calls := rfl
      rw [sequenced, first, record_bind,
        ih fun entry member => valid entry (List.mem_cons_of_mem _ member),
        List.map_cons, List.append_assoc, List.singleton_append]

theorem forM_addLink_error {entries : List EvidenceItem}
    (invalid : ¬ forall entry, entry ∈ entries -> entry.direction ∈ directions)
    (calls : List SessionCall) :
    exists reached, entries.forM (addLink item) calls =
      .error (.value "evidence direction must be supporting or contradicting") reached := by
  induction entries generalizing calls with
  | nil => exact absurd (fun entry impossible => absurd impossible List.not_mem_nil) invalid
  | cons head tail ih =>
      have sequenced : (head :: tail).forM (addLink item) calls =
          (addLink item head >>= fun _ => tail.forM (addLink item)) calls := rfl
      rw [sequenced]
      by_cases valid : head.direction ∈ directions
      · rw [addLink, if_neg (not_not_intro valid), record_bind]
        apply ih
        intro others
        apply invalid
        intro entry member
        rcases List.mem_cons.mp member with same | later
        · exact same ▸ valid
        · exact others entry later
      · rw [addLink, if_pos valid]
        exact ⟨calls, rfl⟩

theorem pending_append (front rows : List SessionCall) (added : SessionCall.flush ∉ rows) :
    pending (front ++ rows) = pending front ++ rows := by
  induction rows generalizing front with
  | nil => rw [List.append_nil, List.append_nil]
  | cons head tail ih =>
      rcases not_or.mp (mt List.mem_cons.mpr added) with ⟨other, rest⟩
      have one : pending (front ++ [head]) = pending front ++ [head] := by
        rw [pending, List.foldl_append, List.foldl_cons, List.foldl_nil, if_neg (Ne.symm other)]
        rfl
      rw [← List.singleton_append, ← List.append_assoc, ih _ rest, one,
        List.append_assoc]

theorem pending_flush (front : List SessionCall) : pending (front ++ [.flush]) = [] := by
  rw [pending, List.foldl_append, List.foldl_cons, List.foldl_nil, if_pos rfl]

theorem flush_eq {rows : List EconomicRelationship} {links : List RelationshipEvidence}
    (held : (pending calls).filterMap SessionCall.relationship = rows)
    (linked : (pending calls).filterMap SessionCall.evidence = links) :
    flush graph calls =
      ((rows.forM fun row => attempt (checkRelationship graph row)) >>=
        fun _ => attempt (checkEvidence links)) (calls ++ [.flush]) := by
  subst held
  subst linked
  rfl

/-- The link rows of a creation. -/
def RelationshipRequest.links (request : RelationshipRequest) (item : EconomicRelationship) :
    List RelationshipEvidence :=
  request.evidence.map fun entry => entry.link item.id

def addedCalls (request : RelationshipRequest) (item : EconomicRelationship) :
    List SessionCall :=
  (request.components.map fun component =>
    .addComponent ⟨item.id, confidenceFormulaVersion, component.1, component.2⟩) ++
    request.evidence.map fun entry => .addEvidence (entry.link item.id)

/-- The calls of a creation that does not raise. -/
def writtenCalls (request : RelationshipRequest) (item : EconomicRelationship) :
    List SessionCall :=
  [.addRelationship item, .flush] ++ addedCalls request item ++ [.flush]

theorem flush_relationship (graph : Graph) (item : EconomicRelationship) :
    flush graph [.addRelationship item] =
      attempt (checkRelationship graph item) [.addRelationship item, .flush] := by
  have whole : flush graph [.addRelationship item] =
      (([item].forM fun row => attempt (checkRelationship graph row)) >>=
        fun _ => attempt (checkEvidence [])) [.addRelationship item, .flush] := flush_eq rfl rfl
  have first : ([item].forM fun row => attempt (checkRelationship graph row)) =
      (attempt (checkRelationship graph item) >>= fun _ => pure ⟨⟩) := rfl
  rw [whole, first, bind_apply, bind_apply]
  cases checkRelationship graph item <;> rfl

theorem flush_not_mem_addedCalls : SessionCall.flush ∉ addedCalls request item := by
  intro added
  rcases List.mem_append.mp added with component | link
  · rcases List.mem_map.mp component with ⟨_, _, impossible⟩
    cases impossible
  · rcases List.mem_map.mp link with ⟨_, _, impossible⟩
    cases impossible

theorem addedCalls_relationship :
    (addedCalls request item).filterMap SessionCall.relationship = [] := by
  rw [addedCalls, List.filterMap_append, List.filterMap_map, List.filterMap_map]
  simp [Function.comp_def, SessionCall.relationship]

theorem addedCalls_evidence :
    (addedCalls request item).filterMap SessionCall.evidence = request.links item := by
  rw [addedCalls, List.filterMap_append, List.filterMap_map, List.filterMap_map]
  simp [Function.comp_def, SessionCall.evidence, RelationshipRequest.links]

theorem flush_links (graph : Graph) (request : RelationshipRequest) (item : EconomicRelationship) :
    flush graph ([.addRelationship item, .flush] ++ addedCalls request item) =
      attempt (checkEvidence (request.links item)) (writtenCalls request item) := by
  have flushed : pending [.addRelationship item, .flush] = [] :=
    pending_flush [.addRelationship item]
  have added : pending ([.addRelationship item, .flush] ++ addedCalls request item) =
      addedCalls request item := by
    rw [pending_append _ _ flush_not_mem_addedCalls, flushed, List.nil_append]
  rw [flush_eq (added.symm ▸ addedCalls_relationship) (added.symm ▸ addedCalls_evidence)]
  rfl

/-! ## The outcomes of the second half -/

theorem writeRelationship_refused {raised : ServiceError}
    (refused : (checkRelationship graph item : Except ServiceError Unit) = .error raised) :
    writeRelationship graph request item [] =
      .error raised [.addRelationship item, .flush] := by
  rw [writeRelationship, record_bind, List.nil_append, bind_apply, flush_relationship,
    attempt_error refused]

/-- Past the first flush, the links decide. -/
theorem writeRelationship_links (passed : checkRelationship graph item = .ok ()) :
    writeRelationship graph request item [] =
      (request.evidence.forM (addLink item) >>= fun _ => flush graph >>= fun _ =>
        pure (item, true))
        ([.addRelationship item, .flush] ++ request.components.map fun component =>
          .addComponent ⟨item.id, confidenceFormulaVersion, component.1, component.2⟩) := by
  rw [writeRelationship, record_bind, List.nil_append, bind_apply, flush_relationship,
    attempt_ok passed]
  dsimp only
  rw [bind_apply, forM_record]

theorem writeRelationship_direction (passed : checkRelationship graph item = .ok ())
    (invalid : ¬ forall entry, entry ∈ request.evidence -> entry.direction ∈ directions) :
    exists reached, writeRelationship graph request item [] =
      .error (.value "evidence direction must be supporting or contradicting") reached := by
  rw [writeRelationship_links passed, bind_apply]
  have stops : forall calls, exists reached, request.evidence.forM (addLink item) calls =
      .error (.value "evidence direction must be supporting or contradicting") reached :=
    forM_addLink_error invalid
  rcases stops ([.addRelationship item, .flush] ++ request.components.map fun component =>
    .addComponent ⟨item.id, confidenceFormulaVersion, component.1, component.2⟩) with
    ⟨reached, stopped⟩
  exact ⟨reached, by rw [stopped]⟩

theorem writeRelationship_valid (passed : checkRelationship graph item = .ok ())
    (valid : forall entry, entry ∈ request.evidence -> entry.direction ∈ directions) :
    writeRelationship graph request item [] =
      (attempt (checkEvidence (request.links item)) >>= fun _ => pure (item, true))
        (writtenCalls request item) := by
  rw [writeRelationship_links passed, bind_apply, forM_addLink_ok valid, List.append_assoc,
    ← addedCalls]
  dsimp only
  rw [bind_apply, flush_links, bind_apply]

/-- A raise in the second half leaves calls behind. -/
theorem writeRelationship_error {raised : ServiceError} {reached : List SessionCall}
    (stopped : writeRelationship graph request item [] = .error raised reached) :
    reached ≠ [] := by
  have records : forall call, Preserves (fun calls => calls ≠ []) (record call) := by
    intro call
    exact Preserves.modify fun calls _ => List.append_ne_nil_of_right_ne_nil _
      (List.cons_ne_nil call [])
  have attempts : forall outcome : Except ServiceError Unit,
      Preserves (fun calls => calls ≠ []) (attempt outcome) := by
    intro outcome calls nonempty
    cases outcome <;> exact nonempty
  have flushes : Preserves (fun calls => calls ≠ []) (flush graph) :=
    Preserves.get_bind fun _ => (records _).bind fun _ =>
      (Preserves.forM fun _ _ => attempts _).bind fun _ => attempts _
  have links : forall entry, Preserves (fun calls => calls ≠ []) (addLink item entry) := by
    intro entry
    rw [addLink]
    split
    · exact fun _ nonempty => nonempty
    · exact records _
  have rest : Preserves (fun calls => calls ≠ []) (flush graph >>= fun _ =>
      (request.components.forM fun component =>
        record (.addComponent ⟨item.id, confidenceFormulaVersion, component.1, component.2⟩)) >>=
      fun _ => request.evidence.forM (addLink item) >>= fun _ => flush graph >>= fun _ =>
        pure (item, true)) :=
    flushes.bind fun _ => (Preserves.forM fun _ _ => records _).bind fun _ =>
      (Preserves.forM fun _ _ => links _).bind fun _ => flushes.bind fun _ _ nonempty => nonempty
  have kept := rest [.addRelationship item] (List.cons_ne_nil _ _)
  rw [writeRelationship, record_bind, List.nil_append] at stopped
  rw [stopped] at kept
  exact kept

end Writing

/-! ## All or nothing -/

/-- A raise has added nothing.  A creation with the status `verified` has linked evidence
that supports it, and is eligible no earlier than any of it.  Only the evidence that is
given is linked. -/
structure AllOrNothing (graph : Graph) (request : RelationshipRequest) : Prop where
  nothing : forall raised calls,
    createRelationshipIn graph request [] = .error raised calls -> calls = []
  supported : forall item calls,
    createRelationshipIn graph request [] = .ok (item, true) calls -> item.status = .verified ->
      exists entry, entry ∈ request.evidence ∧ entry.direction = "supporting" ∧
        .addEvidence (entry.link item.id) ∈ calls
  eligible : forall item calls,
    createRelationshipIn graph request [] = .ok (item, true) calls -> item.status = .verified ->
      forall entry, entry ∈ request.evidence -> entry.direction = "supporting" ->
        .addEvidence (entry.link item.id) ∈ calls ->
        entry.record.simulationEligibleTime ≤ item.simulationEligibleTime
  linked : forall item calls,
    createRelationshipIn graph request [] = .ok (item, true) calls ->
      forall link, .addEvidence link ∈ calls ->
        exists entry, entry ∈ request.evidence ∧ link = entry.link item.id

/-- The arguments pass the checks that come before the first row is added, and the graph has no
such relationship yet, so that the call comes to write. -/
structure Proceeds (graph : Graph) (request : RelationshipRequest) : Prop where
  workspace : request.subject.workspaceId = request.objectEntity.workspaceId
  different : request.subject.id ≠ request.objectEntity.id
  predicate : request.predicate ∈ relationshipTypes
  status : readStatus request.status ≠ none
  supported : request.status = "verified" -> request.supporting ≠ []
  eligible : request.evidenceFloor ≤ request.simulationEligibleTime
  components : exists confidence, aggregateConfidence request.components = .ok confidence
  absent : request.existing graph = none

/-- The constraints of the tables take every row of the creation, and the directions of the
evidence are the two that there are.  The service checks neither before it writes. -/
structure Writable (graph : Graph) (request : RelationshipRequest) : Prop where
  fresh : request.newId ∉ graph.relationships.map EconomicRelationship.id
  strength : forall strength, request.strength = some strength -> 0 ≤ strength ∧ strength ≤ 1
  period : forall validTo, request.validTo = some validTo -> request.validFrom < validTo
  directions : forall entry, entry ∈ request.evidence -> entry.direction ∈ directions
  distinct : (request.evidence.map fun entry => (entry.record.id, entry.direction)).Nodup
  weights : forall entry, entry ∈ request.evidence -> 0 ≤ entry.weight ∧ entry.weight ≤ 1

section Conditions

variable {graph : Graph} {request : RelationshipRequest}

theorem readStatus_verified {text : String} (parsed : readStatus text = some .verified) :
    text = "verified" := by
  unfold readStatus at parsed
  split at parsed <;> first | rfl | cases parsed

theorem le_foldl_max {entries : List EvidenceItem} {time : Instant} :
    time ≤
      entries.foldl (fun latest item => max latest item.record.simulationEligibleTime) time := by
  induction entries generalizing time with
  | nil => exact le_refl _
  | cons head tail ih =>
      exact le_trans (le_max_left _ _) ih

theorem mem_le_foldl_max {entries : List EvidenceItem} {time : Instant} {entry : EvidenceItem}
    (member : entry ∈ entries) : entry.record.simulationEligibleTime ≤
      entries.foldl (fun latest item => max latest item.record.simulationEligibleTime) time := by
  induction entries generalizing time with
  | nil => cases member
  | cons head tail ih =>
      rcases List.mem_cons.mp member with same | later
      · subst same
        exact le_trans (le_max_right _ _) le_foldl_max
      · exact ih later

theorem le_evidenceFloor {entry : EvidenceItem} (member : entry ∈ request.supporting) :
    entry.record.simulationEligibleTime ≤ request.evidenceFloor := by
  rw [RelationshipRequest.evidenceFloor]
  cases listed : request.supporting with
  | nil =>
      rw [listed] at member
      cases member
  | cons first rest =>
      rw [listed] at member
      rcases List.mem_cons.mp member with same | later
      · subst same
        exact le_foldl_max
      · exact mem_le_foldl_max later

theorem checkRelationship_ok_iff (item : EconomicRelationship) :
    (checkRelationship graph item : Except ServiceError Unit) = .ok () <->
      item.id ∉ graph.relationships.map EconomicRelationship.id ∧
        (forall strength, item.strength = some strength -> 0 ≤ strength ∧ strength ≤ 1) ∧
        forall validTo, item.validTo = some validTo -> item.validFrom < validTo := by
  have known : (graph.relationships.any fun row => row.id = item.id) = true <->
      item.id ∈ graph.relationships.map EconomicRelationship.id := by
    simp only [List.any_eq_true, decide_eq_true_eq, List.mem_map]
  have strong : (item.strength.any fun strength => strength < 0 || 1 < strength) = true <->
      ¬ forall strength, item.strength = some strength -> 0 ≤ strength ∧ strength ≤ 1 := by
    cases item.strength with
    | none => simp
    | some strength => simp [imp_iff_not_or]
  have ended : (item.validTo.any fun validTo => validTo ≤ item.validFrom) = true <->
      ¬ forall validTo, item.validTo = some validTo -> item.validFrom < validTo := by
    cases item.validTo with
    | none => simp
    | some validTo => simp
  rw [checkRelationship]
  by_cases fresh : item.id ∈ graph.relationships.map EconomicRelationship.id
  · rw [if_pos (known.mpr fresh)]
    exact ⟨(fun impossible => by cases impossible), fun both => absurd fresh both.1⟩
  rw [if_neg (mt known.mp fresh)]
  by_cases strength : forall strength, item.strength = some strength ->
      0 ≤ strength ∧ strength ≤ 1
  · rw [if_neg fun other => strong.mp other strength]
    by_cases period : forall validTo, item.validTo = some validTo -> item.validFrom < validTo
    · rw [if_neg fun other => ended.mp other period]
      exact ⟨fun _ => ⟨fresh, strength, period⟩, fun _ => rfl⟩
    · rw [if_pos (ended.mpr period)]
      exact ⟨(fun impossible => by cases impossible), fun all => absurd all.2.2 period⟩
  · rw [if_pos (strong.mpr strength)]
    exact ⟨(fun impossible => by cases impossible), fun all => absurd all.2.1 strength⟩

theorem checkEvidence_ok_iff (item : EconomicRelationship) :
    (checkEvidence (request.links item) : Except ServiceError Unit) = .ok () <->
      (request.evidence.map fun entry => (entry.record.id, entry.direction)).Nodup ∧
        forall entry, entry ∈ request.evidence -> 0 ≤ entry.weight ∧ entry.weight ≤ 1 := by
  have names : ((request.links item).map fun link => (link.evidenceId, link.direction)) =
      request.evidence.map fun entry => (entry.record.id, entry.direction) := by
    rw [RelationshipRequest.links, List.map_map]
    rfl
  have outside :
      ((request.links item).any fun link => link.weight < 0 || 1 < link.weight) = true <->
      ¬ forall entry, entry ∈ request.evidence -> 0 ≤ entry.weight ∧ entry.weight ≤ 1 := by
    rw [RelationshipRequest.links, List.any_map, List.any_eq_true]
    simp [EvidenceItem.link, imp_iff_not_or]
  rw [checkEvidence, names]
  by_cases distinct : (request.evidence.map fun entry => (entry.record.id, entry.direction)).Nodup
  · rw [if_neg (not_not_intro distinct)]
    by_cases weights : forall entry, entry ∈ request.evidence -> 0 ≤ entry.weight ∧ entry.weight ≤ 1
    · rw [if_neg fun other => outside.mp other weights]
      exact ⟨fun _ => ⟨distinct, weights⟩, fun _ => rfl⟩
    · rw [if_pos (outside.mpr weights)]
      exact ⟨(fun impossible => by cases impossible), fun both => absurd both.2 weights⟩
  · rw [if_pos distinct]
    exact ⟨(fun impossible => by cases impossible), fun both => absurd both.1 distinct⟩

theorem writable_iff (confidence : Rat) (status : GraphStatus) :
    Writable graph request <->
      (checkRelationship graph (request.row confidence status) : Except ServiceError Unit) =
          .ok () ∧
        (forall entry, entry ∈ request.evidence -> entry.direction ∈ directions) ∧
        (checkEvidence (request.links (request.row confidence status)) :
          Except ServiceError Unit) = .ok () := by
  rw [checkRelationship_ok_iff, checkEvidence_ok_iff]
  constructor
  · intro writable
    exact ⟨⟨writable.fresh, writable.strength, writable.period⟩, writable.directions,
      writable.distinct, writable.weights⟩
  · rintro ⟨⟨fresh, strength, period⟩, valid, distinct, weights⟩
    exact ⟨fresh, strength, period, valid, distinct, weights⟩

theorem createRelationshipIn_proceeds (proceeds : Proceeds graph request) :
    exists confidence status, readStatus request.status = some status ∧
      createRelationshipIn graph request [] =
        writeRelationship graph request (request.row confidence status) [] := by
  rcases proceeds.components with ⟨confidence, aggregated⟩
  cases parsed : readStatus request.status with
  | none => exact absurd parsed proceeds.status
  | some status =>
      have supported : ¬ (status = .verified ∧ request.supporting = []) := by
        rintro ⟨verified, empty⟩
        exact proceeds.supported (readStatus_verified (verified ▸ parsed)) empty
      refine ⟨confidence, status, rfl, ?_⟩
      rw [createRelationshipIn, if_neg (not_not_intro proceeds.workspace),
        if_neg proceeds.different, if_neg (not_not_intro proceeds.predicate), parsed]
      dsimp only
      rw [if_neg supported, if_neg (not_lt.mpr proceeds.eligible), bind_apply,
        attempt_ok aggregated]
      dsimp only
      rw [proceeds.absent]

/-- The creation stops before the first row, or it comes to write. -/
theorem createRelationshipIn_stops (stops : ¬ Proceeds graph request) :
    (exists raised, createRelationshipIn graph request [] = .error raised []) ∨
      exists existing, createRelationshipIn graph request [] = .ok (existing, false) [] := by
  rw [createRelationshipIn]
  by_cases workspace : request.subject.workspaceId ≠ request.objectEntity.workspaceId
  · rw [if_pos workspace]
    exact Or.inl ⟨_, rfl⟩
  by_cases same : request.subject.id = request.objectEntity.id
  · rw [if_neg workspace, if_pos same]
    exact Or.inl ⟨_, rfl⟩
  by_cases predicate : request.predicate ∉ relationshipTypes
  · rw [if_neg workspace, if_neg same, if_pos predicate]
    exact Or.inl ⟨_, rfl⟩
  rw [if_neg workspace, if_neg same, if_neg predicate]
  cases parsed : readStatus request.status with
  | none => exact Or.inl ⟨_, rfl⟩
  | some status =>
      dsimp only
      by_cases unsupported : status = .verified ∧ request.supporting = []
      · rw [if_pos unsupported]
        exact Or.inl ⟨_, rfl⟩
      by_cases early : request.simulationEligibleTime < request.evidenceFloor
      · rw [if_neg unsupported, if_pos early]
        exact Or.inl ⟨_, rfl⟩
      rw [if_neg unsupported, if_neg early, bind_apply]
      cases aggregated : aggregateConfidence request.components with
      | error raised => exact Or.inl ⟨raised, rfl⟩
      | ok confidence =>
          cases found : request.existing graph with
          | some existing => exact Or.inr ⟨existing, rfl⟩
          | none =>
              have supported : request.status = "verified" -> request.supporting ≠ [] := by
                intro verified empty
                rw [verified] at parsed
                exact unsupported ⟨(Option.some.inj parsed).symm, empty⟩
              exact absurd ⟨not_not.mp workspace, same, not_not.mp predicate, by simp [parsed],
                supported, not_lt.mp early, ⟨confidence, aggregated⟩, found⟩ stops

end Conditions

theorem mem_writtenCalls {request : RelationshipRequest} {item : EconomicRelationship}
    {link : RelationshipEvidence} :
    .addEvidence link ∈ writtenCalls request item <->
      exists entry, entry ∈ request.evidence ∧ link = entry.link item.id := by
  simp only [writtenCalls, addedCalls, List.mem_append, List.mem_cons, List.mem_map,
    List.not_mem_nil]
  constructor
  · rintro (((impossible | impossible | impossible) | ⟨_, _, impossible⟩ | ⟨entry, member, same⟩) |
      impossible | impossible)
    all_goals first | cases impossible | skip
    exact ⟨entry, member, (SessionCall.addEvidence.inj same).symm⟩
  · rintro ⟨entry, member, same⟩
    exact Or.inl (Or.inr (Or.inr ⟨entry, member, same ▸ rfl⟩))

section Outcome

variable {graph : Graph} {request : RelationshipRequest}

theorem allOrNothing_written {confidence : Rat} {status : GraphStatus}
    (proceeds : Proceeds graph request) (parsed : readStatus request.status = some status)
    (written : createRelationshipIn graph request [] = .ok (request.row confidence status, true)
      (writtenCalls request (request.row confidence status))) : AllOrNothing graph request := by
  refine ⟨?_, ?_, ?_, ?_⟩
  · intro raised calls stopped
    rw [written] at stopped
    cases stopped
  · intro item calls done verified
    rw [written] at done
    cases done
    have same : status = .verified := verified
    have supported := proceeds.supported (readStatus_verified (same ▸ parsed))
    rcases List.exists_mem_of_ne_nil _ supported with ⟨entry, member⟩
    rcases List.mem_filter.mp member with ⟨listed, direction⟩
    exact ⟨entry, listed, of_decide_eq_true direction, mem_writtenCalls.mpr ⟨entry, listed, rfl⟩⟩
  · intro item calls done _ entry member direction _
    rw [written] at done
    cases done
    exact (le_evidenceFloor (List.mem_filter.mpr ⟨member, decide_eq_true direction⟩)).trans
      proceeds.eligible
  · intro item calls done link member
    rw [written] at done
    cases done
    exact mem_writtenCalls.mp member

/-- Nothing is created and nothing is written. -/
theorem allOrNothing_stopped (stops : ¬ Proceeds graph request) : AllOrNothing graph request := by
  have silent : forall item calls,
      createRelationshipIn graph request [] ≠ .ok (item, true) calls := by
    intro item calls done
    rcases createRelationshipIn_stops stops with ⟨raised, stopped⟩ | ⟨existing, returned⟩
    · rw [stopped] at done
      cases done
    · rw [returned] at done
      cases done
  refine ⟨?_, fun item calls done => absurd done (silent item calls),
    fun item calls done => absurd done (silent item calls),
    fun item calls done => absurd done (silent item calls)⟩
  intro raised calls failed
  rcases createRelationshipIn_stops stops with ⟨_, stopped⟩ | ⟨existing, returned⟩
  · rw [stopped] at failed
    cases failed
    rfl
  · rw [returned] at failed
    cases failed

end Outcome

/-- A creation that comes to write is all or nothing exactly when the rows can be written
and no direction is invalid. -/
theorem createRelationship_allOrNothing_iff (graph : Graph) (request : RelationshipRequest) :
    AllOrNothing graph request <-> (Proceeds graph request -> Writable graph request) := by
  constructor
  · intro whole proceeds
    rcases createRelationshipIn_proceeds proceeds with ⟨confidence, status, _, same⟩
    by_contra unwritable
    have raises : exists raised reached,
        createRelationshipIn graph request [] = .error raised reached := by
      rw [same]
      cases checked : (checkRelationship graph (request.row confidence status) :
          Except ServiceError Unit) with
      | error raised => exact ⟨_, _, writeRelationship_refused checked⟩
      | ok passed =>
          by_cases valid : forall entry, entry ∈ request.evidence -> entry.direction ∈ directions
          · cases linked : (checkEvidence (request.links (request.row confidence status)) :
                Except ServiceError Unit) with
            | error raised =>
                rw [writeRelationship_valid checked valid, linked]
                exact ⟨raised, _, rfl⟩
            | ok passed =>
                exact absurd ((writable_iff confidence status).mpr ⟨checked, valid, linked⟩)
                  unwritable
          · rcases writeRelationship_direction checked valid with ⟨reached, stopped⟩
            exact ⟨_, reached, stopped⟩
    rcases raises with ⟨raised, reached, stopped⟩
    exact writeRelationship_error (same.symm.trans stopped) (whole.nothing raised reached stopped)
  · intro writable
    by_cases proceeds : Proceeds graph request
    · rcases createRelationshipIn_proceeds proceeds with ⟨confidence, status, parsed, same⟩
      rcases (writable_iff confidence status).mp (writable proceeds) with ⟨checked, valid, linked⟩
      apply allOrNothing_written proceeds parsed
      rw [same, writeRelationship_valid checked valid, linked]
      rfl
    · exact allOrNothing_stopped proceeds

def company (id : Identifier) : EconomicEntity where
  id := id
  workspaceId := 1
  entityType := "company"
  canonicalName := "Company"
  status := .verified
  validFrom := 0
  validTo := none
  simulationEligibleTime := 0
  confidence := 1

/-- One record supports the relationship, and another is given with a direction that there
is not. -/
def neutralRequest : RelationshipRequest where
  newId := 9
  subject := company 1
  predicate := "SUPPLIES"
  objectEntity := company 2
  validFrom := 0
  simulationEligibleTime := 0
  method := "manual"
  methodVersion := "1"
  components := confidenceWeights.map fun weight => (weight.1, 1)
  evidence := [⟨⟨3, 0⟩, "supporting", 1⟩, ⟨⟨4, 0⟩, "neutral", 1⟩]
  status := "verified"
  strength := none
  validTo := none

theorem neutral_evidence_leaves_rows :
    ¬ AllOrNothing ⟨[company 1, company 2], [], [], []⟩ neutralRequest := by
  intro whole
  have empty := whole.nothing _ _ rfl
  cases empty

end EconomicGraph
end MarketIntelligence
