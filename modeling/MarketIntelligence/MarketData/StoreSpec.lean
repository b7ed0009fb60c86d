import MarketIntelligence.MarketData.SymbolSpec

namespace MarketIntelligence
namespace MarketData

open Foundations
open Loops

/-!
# What a batch does to the rows

The import of a batch adds rows, flushes the added ones and publishes a capability.
A condition on the store that survives these three steps survives the batch.

The bars of a committed batch stand behind those that were stored, and no two bars
of them share an identity.
-/

/-- Rows that a run of the request may add: no capabilities, and no bars in a dry run. -/
structure Addable (request : ImportRequest) (rows : Canonical) : Prop where
  bars : request.dryRun = true -> rows.bars = []
  capabilities : rows.capabilities = []

/-- The three steps of storing a record keep the condition: rows are added, they are flushed, and
capabilities are published. -/
structure StoreInvariant (request : ImportRequest) (invariant : Store -> Prop) : Prop where
  adds : forall store rows, Addable request rows -> invariant store ->
    invariant { store with pending := store.pending.append rows }
  flushes : forall store, (store.stored.append store.pending).Consistent -> invariant store ->
    invariant ⟨store.stored.append store.pending, .empty⟩
  publishes : request.dryRun = false -> forall store capabilities, invariant store ->
    invariant { store with stored := { store.stored with capabilities := capabilities } }

section Rule

variable {request : ImportRequest} {invariant : Store -> Prop}
  (keeps : StoreInvariant request invariant)

include keeps

theorem add_preserves {rows : Canonical} (addable : Addable request rows) :
    Preserves invariant (add rows) :=
  Preserves.modify fun store holds => keeps.adds store rows addable holds

theorem flush_preserves : Preserves invariant flush := by
  intro store holds
  by_cases consistent : (store.stored.append store.pending).Consistent
  · simp only [flush, if_pos consistent]
    exact keeps.flushes store consistent holds
  · simp only [flush, if_neg consistent]
    exact holds

omit keeps in
theorem raise_preserves {α : Type} (outcome : Except Exception α) :
    Preserves invariant (raise outcome) := by
  intro store holds
  cases outcome with
  | ok value => exact holds
  | error raised => exact holds

omit keeps in
theorem pure_preserves {α : Type} (value : α) :
    Preserves invariant (pure value : StoreProgram α) :=
  fun _ holds => holds

theorem assetOf_preserves (library : Library) (adapter : Adapter) (provider symbol : String) :
    Preserves invariant (assetOf library adapter provider symbol) := by
  apply Preserves.get_bind
  intro before
  refine Preserves.bind (raise_preserves _) ?_
  intro metadata
  apply Preserves.bind
  · cases knownAsset provider symbol before.stored with
    | some asset => exact pure_preserves asset
    | none =>
        apply (add_preserves keeps ⟨fun _ => rfl, rfl⟩).bind
        intro _
        exact (flush_preserves keeps).bind fun _ => pure_preserves _
  · intro asset
    apply Preserves.get_bind
    intro current
    exact (add_preserves keeps ⟨fun _ => rfl, rfl⟩).bind fun _ => pure_preserves asset

omit keeps in
theorem fetchStart_preserves (request : ImportRequest) (source : String) (asset : Asset) :
    Preserves invariant (fetchStart request source asset) := by
  apply Preserves.get_bind
  intro current
  cases request.mode with
  | full => exact pure_preserves _
  | incremental =>
      cases latestBar (fun bar => bar.asset = asset.symbol ∧ bar.interval = request.interval ∧
          bar.dataSource = source) current.stored with
      | none => exact pure_preserves _
      | some latest => exact pure_preserves _

theorem storeBar_preserves (bar : PriceBar) (known : Option PriceBar) :
    Preserves invariant (storeBar request bar known) := by
  cases known with
  | some duplicate =>
      rw [storeBar]
      split <;> exact pure_preserves _
  | none =>
      rw [storeBar]
      split
      · exact pure_preserves _
      · rename_i real
        exact (add_preserves keeps ⟨fun dry => absurd dry real, rfl⟩).bind fun _ =>
          pure_preserves _

theorem storeRecord_preserves (library : Library) (provider source : String) (asset : Asset)
    (record : HistoricalBarRecord) :
    Preserves invariant (storeRecord library request provider source asset record) :=
  Preserves.get_bind fun _ => storeBar_preserves keeps _ _

theorem persistAction_preserves (library : Library) (provider : String) (asset : Asset)
    (record : CorporateActionRecord) :
    Preserves invariant (persistAction library provider asset record) := by
  refine Preserves.bind (raise_preserves _) ?_
  intro _
  apply Preserves.get_bind
  intro current
  dsimp only
  split
  · exact pure_preserves _
  · exact add_preserves keeps ⟨fun _ => rfl, rfl⟩

theorem persistActions_preserves (library : Library) (provider : String) (adapter : Adapter)
    (asset : Asset) (symbol : String) :
    Preserves invariant (persistActions library request provider adapter asset symbol) := by
  refine Preserves.bind (raise_preserves _) ?_
  intro records
  exact Preserves.forM fun record _ => persistAction_preserves keeps library provider asset record

theorem publishCapability_preserves (provider : String) (asset : Asset) :
    Preserves invariant (publishCapability request provider asset) := by
  unfold publishCapability
  split
  · exact pure_preserves _
  · rename_i real
    apply (flush_preserves keeps).bind
    intro _
    apply Preserves.modify
    intro store holds
    dsimp only
    split
    · exact holds
    · exact keeps.publishes (eq_false_of_ne_true real) store _ holds

end Rule

/-! ## One batch -/

section Batch

variable {context : Context} {invariant : Store -> Prop}
  (keeps : StoreInvariant context.request invariant)

include keeps

/-- The rule of a batch. -/
theorem batchRows_preserves (sequence : Nat) (symbol : String) :
    Preserves invariant (batchRows context sequence symbol) := by
  apply (assetOf_preserves keeps _ _ _ _).bind
  intro asset
  refine Preserves.bind (fetchStart_preserves _ _ asset) ?_
  intro start
  refine Preserves.bind (raise_preserves _) ?_
  intro answer
  split
  · apply Preserves.bind
    · apply Preserves.forM
      intro record _
      exact (storeRecord_preserves keeps _ _ _ asset record).bind fun _ => pure_preserves _
    · intro _
      apply (persistActions_preserves keeps _ _ _ asset symbol).bind
      intro _
      exact (publishCapability_preserves keeps _ asset).bind fun _ => pure_preserves true
  · exact pure_preserves false

theorem flushedRows_preserves (sequence : Nat) (symbol : String) :
    Preserves invariant (flushedRows context sequence symbol) := by
  apply (batchRows_preserves keeps sequence symbol).bind
  intro complete
  split
  · exact (flush_preserves keeps).bind fun _ => pure_preserves true
  · exact pure_preserves false

end Batch

/-! ## The rows of a committed batch -/

section Bars

variable {context : Context} {sequence : Nat} {symbol : String} {rows committed : Canonical}

theorem committedRows_some (done : committedRows context sequence symbol rows = some committed) :
    exists store, flushedRows context sequence symbol ⟨rows, .empty⟩ = .ok true store ∧
      store.stored = committed := by
  unfold committedRows at done
  cases flushed : flushedRows context sequence symbol ⟨rows, .empty⟩ with
  | error raised store =>
      rw [flushed] at done
      cases done
  | ok complete store =>
      rw [flushed] at done
      cases complete with
      | false => cases done
      | true => exact ⟨store, rfl, Option.some.inj done⟩

/-- The rows are kept in their order, with others behind them.  A capability is
refreshed in its place, so capabilities are not part of this. -/
structure Canonical.Grows (before after : Canonical) : Prop where
  assets : before.assets <+: after.assets
  versions : before.versions <+: after.versions
  assetMappings : before.assetMappings <+: after.assetMappings
  symbolMappings : before.symbolMappings <+: after.symbolMappings
  bars : before.bars <+: after.bars
  actions : before.actions <+: after.actions

theorem Canonical.Grows.refl (rows : Canonical) : rows.Grows rows where
  assets := List.prefix_refl _
  versions := List.prefix_refl _
  assetMappings := List.prefix_refl _
  symbolMappings := List.prefix_refl _
  bars := List.prefix_refl _
  actions := List.prefix_refl _

theorem Canonical.Grows.trans {first second third : Canonical} (left : first.Grows second)
    (right : second.Grows third) : first.Grows third where
  assets := left.assets.trans right.assets
  versions := left.versions.trans right.versions
  assetMappings := left.assetMappings.trans right.assetMappings
  symbolMappings := left.symbolMappings.trans right.symbolMappings
  bars := left.bars.trans right.bars
  actions := left.actions.trans right.actions

theorem Canonical.Grows.append (stored added : Canonical) :
    stored.Grows (stored.append added) where
  assets := List.prefix_append _ _
  versions := List.prefix_append _ _
  assetMappings := List.prefix_append _ _
  symbolMappings := List.prefix_append _ _
  bars := List.prefix_append _ _
  actions := List.prefix_append _ _

theorem rowsGrow (request : ImportRequest) (rows : Canonical) :
    StoreInvariant request fun store => rows.Grows store.stored where
  adds := fun _ _ _ grown => grown
  flushes := fun store _ grown => grown.trans (.append store.stored _)
  publishes := fun _ _ _ grown => { grown with }

/-- A batch does not touch the rows that are stored. -/
theorem committedRows_grows (done : committedRows context sequence symbol rows = some committed) :
    rows.Grows committed := by
  rcases committedRows_some done with ⟨store, flushed, same⟩
  have grown := flushedRows_preserves (rowsGrow context.request rows) sequence symbol
    ⟨rows, .empty⟩ (.refl rows)
  rw [flushed] at grown
  exact same ▸ grown

theorem committedRows_bars (done : committedRows context sequence symbol rows = some committed) :
    rows.bars <+: committed.bars :=
  (committedRows_grows done).bars

/-- The rows of a committed batch have met the constraints. -/
theorem committedRows_consistent
    (done : committedRows context sequence symbol rows = some committed) :
    committed.Consistent := by
  rcases committedRows_some done with ⟨store, flushed, same⟩
  unfold flushedRows at flushed
  rcases Loops.bind_ok flushed with ⟨complete, middle, batch, rest⟩
  cases complete with
  | false => cases rest
  | true =>
      rcases Loops.bind_ok rest with ⟨_, final, done, ended⟩
      cases ended
      rcases flush_ok done with ⟨cleared, consistent⟩
      rw [← same, cleared]
      exact consistent

end Bars

end MarketData
end MarketIntelligence
