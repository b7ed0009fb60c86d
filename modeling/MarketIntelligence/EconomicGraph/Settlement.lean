import MarketIntelligence.EconomicGraph.Resolution

namespace MarketIntelligence
namespace EconomicGraph

open Foundations

/-!
# Who owns an identifier

Identifiers are attached directly or confirmed through a candidate, in any order.  Rows of
identifiers and decisions are only added, and an operation looks for the row that would
stand in the way of its own.  So an identifier has one owner for ever, and a confirmed
candidate is its owner.
-/

/-! ## The invariant -/

def Registry.Owns (registry : Registry) (key : CandidateKey) : Prop :=
  exists identifier, identifier ∈ registry.identifiers ∧ identifier.name = key.name ∧
    identifier.entityId = key.candidateEntityId

structure Lawful (registry : Registry) : Prop where
  names : (registry.identifiers.map EntityIdentifier.name).Nodup
  keys : (registry.candidates.map EntityResolutionCandidate.key).Nodup
  single : (registry.decisions.map EntityResolutionDecision.candidate).Nodup
  decided : forall decision, decision ∈ registry.decisions -> exists candidate,
    candidate ∈ registry.candidates ∧ candidate.key = decision.candidate ∧
      candidate.status = decision.decision.status
  owned : forall decision, decision ∈ registry.decisions -> decision.decision = .confirmed ->
    registry.Owns decision.candidate

/-- Rows of identifiers and decisions are only added. -/
structure Extends (earlier later : Registry) : Prop where
  identifiers : earlier.identifiers <+: later.identifiers
  decisions : earlier.decisions <+: later.decisions

section Growth

variable {earlier middle later registry : Registry}

theorem Extends.refl (registry : Registry) : Extends registry registry :=
  ⟨List.prefix_rfl, List.prefix_rfl⟩

theorem Extends.trans (first : Extends earlier middle) (second : Extends middle later) :
    Extends earlier later :=
  ⟨first.identifiers.trans second.identifiers, first.decisions.trans second.decisions⟩

theorem Extends.owns (grown : Extends earlier later) {key : CandidateKey}
    (owns : earlier.Owns key) : later.Owns key := by
  rcases owns with ⟨identifier, member, name, entity⟩
  exact ⟨identifier, grown.identifiers.subset member, name, entity⟩

theorem Lawful.empty (users : List Identifier) : Lawful (Registry.empty users) where
  names := List.nodup_nil
  keys := List.nodup_nil
  single := List.nodup_nil
  decided := by
    intro decision member
    cases member
  owned := by
    intro decision member
    cases member

end Growth

/-! ## Attaching and proposing -/

section Steps

variable {text : PythonText} {registry : Registry} {request : IdentifierRequest}

theorem Lawful.propose (lawful : Lawful registry) {item : EntityResolutionCandidate}
    (fresh : item.key ∉ registry.candidates.map EntityResolutionCandidate.key) :
    Lawful { registry with candidates := registry.candidates ++ [item] } where
  names := lawful.names
  keys := Tables.nodup_append_row.mpr ⟨fresh, lawful.keys⟩
  single := lawful.single
  decided := by
    intro decision member
    rcases lawful.decided decision member with ⟨candidate, listed, same, status⟩
    exact ⟨candidate, List.mem_append_left _ listed, same, status⟩
  owned := lawful.owned

theorem Lawful.attach (lawful : Lawful registry) {item : EntityIdentifier}
    (fresh : item.name ∉ registry.identifiers.map EntityIdentifier.name) :
    Lawful { registry with identifiers := registry.identifiers ++ [item] } where
  names := Tables.nodup_append_row.mpr ⟨fresh, lawful.names⟩
  keys := lawful.keys
  single := lawful.single
  decided := lawful.decided
  owned := by
    intro decision member confirmed
    rcases lawful.owned decision member confirmed with ⟨identifier, listed, owns⟩
    exact ⟨identifier, List.mem_append_left _ listed, owns⟩

theorem fresh_of_lookup {α κ : Type} [DecidableEq κ] {key : α -> κ} {wanted : κ}
    {rows : List α} (missing : Tables.lookup key wanted rows = none) :
    wanted ∉ rows.map key :=
  Tables.lookup_isNone_iff.mp (Option.isNone_iff_eq_none.mpr missing)

theorem createResolutionCandidate_keeps (lawful : Lawful registry) (status : ResolutionStatus)
    (conflict : Option Identifier) :
    Lawful (createResolutionCandidate text request status conflict registry).2 ∧
      Extends registry (createResolutionCandidate text request status conflict registry).2 := by
  unfold createResolutionCandidate
  split
  · exact ⟨lawful, .refl registry⟩
  · split
    · exact ⟨lawful, .refl registry⟩
    · next missing =>
        split
        · exact ⟨lawful.propose (fresh_of_lookup missing), List.prefix_rfl, List.prefix_rfl⟩
        · exact ⟨lawful, .refl registry⟩

theorem attachIdentifier_keeps (lawful : Lawful registry) :
    Lawful (attachIdentifier text request registry).2 ∧
      Extends registry (attachIdentifier text request registry).2 := by
  unfold attachIdentifier
  split
  · exact ⟨lawful, .refl registry⟩
  · split
    · next existing found =>
        split
        · exact ⟨lawful, .refl registry⟩
        · have kept : Lawful (createResolutionCandidate text request .ambiguous
              (some existing.entityId) registry).2 ∧
              Extends registry (createResolutionCandidate text request .ambiguous
                (some existing.entityId) registry).2 :=
            createResolutionCandidate_keeps lawful _ _
          split
          · next raised left proposed =>
              rw [proposed] at kept
              exact kept
          · next candidate left proposed =>
              rw [proposed] at kept
              exact ⟨⟨kept.1.names, kept.1.keys, kept.1.single, kept.1.decided, kept.1.owned⟩,
                kept.2.identifiers, kept.2.decisions⟩
    · next missing =>
        split
        · exact ⟨lawful.attach (fresh_of_lookup missing), List.prefix_append _ _,
            List.prefix_rfl⟩
        · exact ⟨lawful, .refl registry⟩

end Steps

/-! ## Deciding -/

section Decisions

variable {registry : Registry} {candidate : EntityResolutionCandidate}
  {request : DecisionRequest} {decision : FinalDecision} {identifiers : List EntityIdentifier}

/-- What is owned once a decision is taken. -/
theorem decidedIdentifiers_ok {now : Instant}
    (names : (registry.identifiers.map EntityIdentifier.name).Nodup)
    (decided : decidedIdentifiers candidate decision now registry.identifiers =
      .ok identifiers) :
    registry.identifiers <+: identifiers ∧ (identifiers.map EntityIdentifier.name).Nodup ∧
      (decision = .confirmed -> exists identifier, identifier ∈ identifiers ∧
        identifier.name = candidate.key.name ∧
          identifier.entityId = candidate.key.candidateEntityId) := by
  cases decision with
  | rejected =>
      cases decided
      refine ⟨List.prefix_rfl, names, ?_⟩
      intro impossible
      cases impossible
  | confirmed =>
      unfold decidedIdentifiers at decided
      cases found : Tables.lookup EntityIdentifier.name candidate.key.name
          registry.identifiers with
      | some conflict =>
          simp only [found] at decided
          rcases Tables.lookup_some found with ⟨listed, named⟩
          by_cases other : conflict.entityId ≠ candidate.key.candidateEntityId
          · rw [if_pos other] at decided
            cases decided
          · rw [if_neg other] at decided
            cases decided
            exact ⟨List.prefix_rfl, names, fun _ => ⟨conflict, listed, named, not_not.mp other⟩⟩
      | none =>
          simp only [found] at decided
          cases decided
          refine ⟨List.prefix_append _ _, ?_, fun _ =>
            ⟨candidate.identifier now, by simp, rfl, rfl⟩⟩
          exact Tables.nodup_append_row.mpr ⟨fresh_of_lookup found, names⟩

/-- A candidate that is still open has no decision. -/
theorem Lawful.undecided (lawful : Lawful registry) (listed : candidate ∈ registry.candidates)
    (pending : ¬ (candidate.status = .confirmed ∨ candidate.status = .rejected)) :
    candidate.key ∉ registry.decisions.map EntityResolutionDecision.candidate := by
  intro present
  rcases List.mem_map.mp present with ⟨old, member, same⟩
  rcases lawful.decided old member with ⟨other, otherListed, key, status⟩
  have equal : other = candidate :=
    List.inj_on_of_nodup_map lawful.keys otherListed listed (key.trans same)
  rw [equal] at status
  cases taken : old.decision with
  | confirmed => exact pending (Or.inl (status.trans (congrArg FinalDecision.status taken)))
  | rejected => exact pending (Or.inr (status.trans (congrArg FinalDecision.status taken)))

theorem storeDecision_keeps (lawful : Lawful registry) (listed : candidate ∈ registry.candidates)
    (pending : ¬ (candidate.status = .confirmed ∨ candidate.status = .rejected))
    (decided : decidedIdentifiers candidate decision request.now registry.identifiers =
      .ok identifiers) :
    Lawful (storeDecision candidate request decision identifiers registry).2 ∧
      Extends registry (storeDecision candidate request decision identifiers registry).2 := by
  rcases decidedIdentifiers_ok lawful.names decided with ⟨grown, names, owned⟩
  have undecided := lawful.undecided listed pending
  unfold storeDecision
  split
  · refine ⟨⟨names, Tables.nodup_put lawful.keys, ?_, ?_, ?_⟩, grown, List.prefix_append _ _⟩
    · exact Tables.nodup_append_row.mpr ⟨undecided, lawful.single⟩
    · intro item member
      rcases List.mem_append.mp member with old | new
      · rcases lawful.decided item old with ⟨other, otherListed, key, status⟩
        have apart : candidate.key ≠ item.candidate := by
          intro same
          exact undecided (List.mem_map.mpr ⟨item, old, same.symm⟩)
        have kept : Tables.lookup EntityResolutionCandidate.key item.candidate
            (Tables.put EntityResolutionCandidate.key { candidate with status := decision.status }
              registry.candidates) = _ :=
          Tables.lookup_put _ item.candidate registry.candidates
        rw [if_neg apart, ← key, Tables.lookup_of_mem lawful.keys otherListed] at kept
        exact ⟨other, (Tables.lookup_some kept).1, key, status⟩
      · rw [List.mem_singleton.mp new]
        exact ⟨_, Tables.mem_put_self _ _, rfl, rfl⟩
    · intro item member confirmed
      rcases List.mem_append.mp member with old | new
      · rcases lawful.owned item old confirmed with ⟨identifier, held, owns⟩
        exact ⟨identifier, grown.subset held, owns⟩
      · rw [List.mem_singleton.mp new] at confirmed ⊢
        exact owned confirmed
  · exact ⟨lawful, .refl registry⟩

theorem decideResolution_keeps (lawful : Lawful registry)
    (listed : candidate ∈ registry.candidates) :
    Lawful (decideResolution candidate request registry).2 ∧
      Extends registry (decideResolution candidate request registry).2 := by
  unfold decideResolution
  split
  · exact ⟨lawful, .refl registry⟩
  · split
    · split
      · split
        · exact ⟨lawful, .refl registry⟩
        · exact ⟨lawful, .refl registry⟩
      · exact ⟨lawful, .refl registry⟩
    · next pending =>
        split
        · exact ⟨lawful, .refl registry⟩
        · next decided => exact storeDecision_keeps lawful listed pending decided

/-- A decision that raises leaves the registry as it is. -/
theorem decideResolution_error {raised : ServiceError} {left : Registry}
    (refused : decideResolution candidate request registry = (.error raised, left)) :
    left = registry := by
  unfold decideResolution at refused
  split at refused
  · exact (Prod.mk.inj refused).2.symm
  · split at refused
    · split at refused
      · split at refused
        · exact (Prod.mk.inj refused).2.symm
        · cases refused
      · exact (Prod.mk.inj refused).2.symm
    · split at refused
      · exact (Prod.mk.inj refused).2.symm
      · unfold storeDecision at refused
        split at refused
        · cases refused
        · exact (Prod.mk.inj refused).2.symm

/-- A decision that is returned is stored, for the candidate and as it was asked for. -/
theorem decideResolution_ok {item : EntityResolutionDecision} {left : Registry}
    (done : decideResolution candidate request registry = (.ok item, left)) :
    item ∈ left.decisions ∧ item.candidate = candidate.key ∧
      readDecision request.decision = some item.decision := by
  unfold decideResolution at done
  split at done
  · cases done
  · next decision asked =>
      split at done
      · split at done
        · next existing found =>
            split at done
            · cases done
            · next same =>
                cases done
                rcases Tables.lookup_some found with ⟨listed, key⟩
                exact ⟨listed, key, by rw [asked, not_not.mp same]⟩
        · cases done
      · split at done
        · cases done
        · unfold storeDecision at done
          split at done
          · cases done
            exact ⟨by simp, rfl, asked⟩
          · cases done

end Decisions

/-! ## All orders of operations -/

section Runs

variable {text : PythonText}

theorem step_keeps {registry : Registry} (lawful : Lawful registry)
    (operation : ResolutionOperation) :
    Lawful (registry.step text operation) ∧ Extends registry (registry.step text operation) := by
  cases operation with
  | attach request => exact attachIdentifier_keeps lawful
  | propose request status conflict => exact createResolutionCandidate_keeps lawful status conflict
  | decide request =>
      simp only [Registry.step]
      cases found : Tables.lookup EntityResolutionCandidate.key request.candidate
          registry.candidates with
      | none => exact ⟨lawful, .refl registry⟩
      | some candidate =>
          exact decideResolution_keeps lawful (Tables.lookup_some found).1

theorem run_keeps {registry : Registry} (lawful : Lawful registry)
    (operations : List ResolutionOperation) :
    Lawful (operations.foldl (Registry.step text) registry) ∧
      Extends registry (operations.foldl (Registry.step text) registry) := by
  induction operations generalizing registry with
  | nil => exact ⟨lawful, .refl registry⟩
  | cons operation rest ih =>
      rcases step_keeps lawful operation with ⟨next, grown⟩
      rcases ih next with ⟨last, later⟩
      exact ⟨last, grown.trans later⟩

end Runs

/-- What holds of a registry and of every later one: an identifier has one owner and keeps it, a
candidate has one decision, which stays, and a confirmed candidate owns its identifier from then
on. -/
structure Settled (earlier later : Registry) : Prop where
  sole : forall first, first ∈ later.identifiers -> forall second,
    second ∈ later.identifiers -> first.name = second.name -> first.entityId = second.entityId
  kept : forall key, earlier.Owns key -> later.Owns key
  single : forall first, first ∈ later.decisions -> forall second, second ∈ later.decisions ->
    first.candidate = second.candidate -> first = second
  final : forall decision, decision ∈ earlier.decisions -> decision ∈ later.decisions
  confirmed : forall decision, decision ∈ earlier.decisions -> decision.decision = .confirmed ->
    later.Owns decision.candidate

/-- A call on a registry stores the decision that it returns, with the candidate and the verdict
of the request, and changes nothing when it raises. -/
structure Decides (registry : Registry) : Prop where
  returned : forall candidate, candidate ∈ registry.candidates -> forall request item left,
    decideResolution candidate request registry = (.ok item, left) ->
      item ∈ left.decisions ∧ item.candidate = candidate.key ∧
        readDecision request.decision = some item.decision
  raised : forall candidate, candidate ∈ registry.candidates -> forall request failure left,
    decideResolution candidate request registry = (.error failure, left) -> left = registry

/-- In every sequence of operations, identifiers keep their one owner, a confirmed candidate
owns its identifier from then on, decisions are final, and a decision that raises changes
nothing. -/
theorem resolution_settled (text : PythonText) (users : List Identifier)
    (before after : List ResolutionOperation) :
    Settled (before.foldl (Registry.step text) (Registry.empty users))
        ((before ++ after).foldl (Registry.step text) (Registry.empty users)) ∧
      Decides (before.foldl (Registry.step text) (Registry.empty users)) := by
  rcases @run_keeps text _ (Lawful.empty users) before with ⟨earlier, _⟩
  rcases @run_keeps text _ earlier after with ⟨later, grown⟩
  rw [List.foldl_append]
  refine ⟨⟨?_, fun key => grown.owns, ?_, fun decision => (grown.decisions.subset ·), ?_⟩,
    fun candidate _ request item left => decideResolution_ok,
    fun candidate _ request failure left => decideResolution_error⟩
  · intro first firstListed second secondListed same
    rw [List.inj_on_of_nodup_map later.names firstListed secondListed same]
  · intro first firstListed second secondListed same
    exact List.inj_on_of_nodup_map later.single firstListed secondListed same
  · intro decision member confirmed
    exact grown.owns (earlier.owned decision member confirmed)

end EconomicGraph
end MarketIntelligence
