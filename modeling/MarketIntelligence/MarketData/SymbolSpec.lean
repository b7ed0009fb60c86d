import MarketIntelligence.MarketData.Progress

namespace MarketIntelligence
namespace MarketData

open Foundations
open Projections

/-!
# What one run does

A symbol is committed, rejected or given up.  Committed, it replaces the canonical
rows by those of its batch and moves the cursor behind itself.  Otherwise the
savepoint has the rows and the cursor as they were.

A run keeps this from symbol to symbol.  What it leaves behind is therefore the
rows of the symbols up to its cursor, whether it reached the end, was cancelled,
rejected a batch or gave up on an exception.
-/

/-! ## One symbol -/

section Symbol

variable (context : Context)

/-- The canonical part of the import of one symbol, with its last flush. -/
def flushedRows (sequence : Nat) (symbol : String) : StoreProgram Bool := do
  let complete ← batchRows context sequence symbol
  if complete then
    flush
    pure true
  else pure false

/-- The rows after the batch of the symbol, when it can be committed. -/
def committedRows (sequence : Nat) (symbol : String) (rows : Canonical) : Option Canonical :=
  match flushedRows context sequence symbol ⟨rows, .empty⟩ with
  | .ok true store => some store.stored
  | _ => none

variable {context}

theorem flush_ok {store final : Store} (done : flush store = .ok ⟨⟩ final) :
    final = ⟨store.stored.append store.pending, .empty⟩ ∧
      (store.stored.append store.pending).Consistent := by
  by_cases consistent : (store.stored.append store.pending).Consistent
  · simp only [flush, if_pos consistent] at done
    cases done
    exact ⟨rfl, consistent⟩
  · simp only [flush, if_neg consistent] at done
    cases done

theorem onProgress_ok {α : Type} {program : StoreProgram α} {progress : Progress} {value : α}
    {store : Store} (done : program progress.store = .ok value store) :
    onProgress program progress = .ok value (progress.withStore store) := by
  simp only [onProgress, done]

theorem onProgress_error {α : Type} {program : StoreProgram α} {progress : Progress}
    {raised : Exception} {store : Store} (stopped : program progress.store = .error raised store) :
    onProgress program progress = .error raised (progress.withStore store) := by
  simp only [onProgress, stopped]

/-- The cursor moves before the last flush, and the savepoint outlives a refused one. -/
theorem closeProgress_ok {sequence : Nat} {progress : Progress} {store : Store}
    (done : flush progress.store = .ok ⟨⟩ store) :
    closeProgress sequence progress =
      .ok ⟨⟩ ((progress.change (Snapshot.advance (sequence + 1))).withStore store).release := by
  rw [closeProgress, Loops.bind_modify, Loops.bind_apply, onProgress_ok (by exact done)]
  rfl

theorem closeProgress_error {sequence : Nat} {progress : Progress} {raised : Exception}
    {store : Store} (stopped : flush progress.store = .error raised store) :
    closeProgress sequence progress =
      .error raised ((progress.change (Snapshot.advance (sequence + 1))).withStore store) := by
  rw [closeProgress, Loops.bind_modify, Loops.bind_apply, onProgress_error (by exact stopped)]

/-- The three outcomes of a symbol, on the progress. -/
theorem symbolProgress_cases (context : Context) (sequence : Nat) (symbol : String)
    (current : Snapshot) :
    (exists rows, committedRows context sequence symbol current.rows = some rows ∧
      symbolProgress context sequence symbol ⟨current, .empty, none⟩ =
        .ok true ⟨{ current.advance (sequence + 1) with rows := rows }, .empty, none⟩) ∨
    (committedRows context sequence symbol current.rows = none ∧
      symbolProgress context sequence symbol ⟨current, .empty, none⟩ =
        .ok false ⟨current.withStatus .failed, .empty, none⟩) ∨
    (committedRows context sequence symbol current.rows = none ∧
      exists raised reached, symbolProgress context sequence symbol ⟨current, .empty, none⟩ =
        .error raised reached ∧ reached.saved = some current) := by
  have started : symbolProgress context sequence symbol ⟨current, .empty, none⟩ =
      (onProgress (batchRows context sequence symbol) >>= fun complete =>
        if complete then closeProgress sequence >>= fun _ => pure true
        else rejectProgress >>= fun _ => pure false) ⟨current, .empty, some current⟩ := rfl
  rw [started, Loops.bind_apply]
  simp only [committedRows, flushedRows]
  rw [Loops.bind_apply]
  cases batch : batchRows context sequence symbol ⟨current.rows, .empty⟩ with
  | error raised store =>
      rw [onProgress_error (by exact batch)]
      exact Or.inr (Or.inr ⟨rfl, raised, _, rfl, rfl⟩)
  | ok complete store =>
      rw [onProgress_ok (by exact batch)]
      cases complete with
      | false => exact Or.inr (Or.inl ⟨rfl, rfl⟩)
      | true =>
          simp only [if_true]
          rw [Loops.bind_apply, Loops.bind_apply]
          cases flushed : flush store with
          | ok value final =>
              rw [closeProgress_ok (by exact flushed)]
              have cleared := (flush_ok flushed).1
              refine Or.inl ⟨final.stored, rfl, ?_⟩
              rw [cleared]
              rfl
          | error raised final =>
              rw [closeProgress_error (by exact flushed)]
              exact Or.inr (Or.inr ⟨rfl, raised, _, rfl, rfl⟩)

/-- The three outcomes of a symbol that starts without a savepoint. -/
theorem importSymbol_cases (context : Context) (sequence : Nat) (symbol : String) {run : Run}
    {current : Snapshot} (steady : run.progress = ⟨current, .empty, none⟩) :
    (exists rows final, committedRows context sequence symbol current.rows = some rows ∧
      importSymbol context sequence symbol run = .ok true final ∧
      final.progress = ⟨{ current.advance (sequence + 1) with rows := rows }, .empty, none⟩) ∨
    (exists final, committedRows context sequence symbol current.rows = none ∧
      importSymbol context sequence symbol run = .ok false final ∧
      final.progress = ⟨current.withStatus .failed, .empty, none⟩) ∨
    (exists raised final, committedRows context sequence symbol current.rows = none ∧
      importSymbol context sequence symbol run = .error raised final ∧
      final.progress.saved = some current) := by
  have projects := importSymbol_projects context sequence symbol
  rcases symbolProgress_cases context sequence symbol current with
    ⟨rows, committed, ended⟩ | ⟨refused, ended⟩ | ⟨refused, raised, reached, ended, saved⟩
  · rw [← steady] at ended
    rcases projects.lift ended with ⟨final, done, same⟩
    exact Or.inl ⟨rows, final, committed, done, same⟩
  · rw [← steady] at ended
    rcases projects.lift ended with ⟨final, done, same⟩
    exact Or.inr (Or.inl ⟨final, refused, done, same⟩)
  · rw [← steady] at ended
    rcases projects.lift_error ended with ⟨final, stopped, same⟩
    exact Or.inr (Or.inr ⟨raised, final, refused, stopped, by rw [same, saved]⟩)

end Symbol

/-! ## A provider with fixed answers -/

/-- The fixed answers of a provider. -/
structure Responses where
  metadata : String -> AssetMetadataRecord
  bars : String -> Instant -> Instant -> String -> List HistoricalBarRecord
  actions : String -> Instant -> Instant -> List CorporateActionRecord

/-- The adapter that gives every answer. -/
def Responses.adapter (responses : Responses) : Adapter where
  fetchAssetMetadata symbol := .ok (responses.metadata symbol)
  fetchHistoricalBars symbol start finish interval :=
    .ok (responses.bars symbol start finish interval)
  fetchCorporateActions symbol start finish := .ok (responses.actions symbol start finish)

/-- Whenever the adapter answers, it gives the fixed answer. -/
structure Adapter.Answers (adapter : Adapter) (responses : Responses) : Prop where
  metadata : forall symbol record, adapter.fetchAssetMetadata symbol = .ok record ->
    record = responses.metadata symbol
  bars : forall symbol start finish interval records,
    adapter.fetchHistoricalBars symbol start finish interval = .ok records ->
      records = responses.bars symbol start finish interval
  actions : forall symbol start finish records,
    adapter.fetchCorporateActions symbol start finish = .ok records ->
      records = responses.actions symbol start finish

/-- The context of the same request with a provider that always answers. -/
def Context.calm (context : Context) (responses : Responses) : Context :=
  { context with
    adapter := fun _ => responses.adapter
    clock := fun _ => 0
    heartbeat := none
    startIndex := 0 }

theorem raise_entails {σ α : Type} {outcome stronger : Except Exception α}
    (answers : forall value, outcome = .ok value -> stronger = .ok value) :
    Loops.Entails (raise outcome : EStateM Exception σ α) (raise stronger) := by
  intro state value final done
  cases outcome with
  | error raised => cases done
  | ok answer =>
      rw [answers answer rfl]
      exact done

section Answers

variable {context : Context} {responses : Responses}
  (answers : forall sequence, (context.adapter sequence).Answers responses)

include answers

theorem assetOf_entails (sequence : Nat) (symbol : String) :
    Loops.Entails (assetOf context.library (context.adapter sequence) context.provider symbol)
      (assetOf context.library responses.adapter context.provider symbol) := by
  apply (Loops.Entails.refl _).bind
  intro before
  apply Loops.Entails.bind
  · apply raise_entails
    intro record answered
    rw [(answers sequence).metadata symbol record answered]
    rfl
  · intro metadata
    exact Loops.Entails.refl _

theorem requestedRecords_calm {sequence : Nat} {symbol : String} {start : Instant}
    {records : List HistoricalBarRecord}
    (done : requestedRecords context.request (context.adapter sequence) symbol start =
      .ok records) :
    requestedRecords context.request responses.adapter symbol start = .ok records := by
  by_cases asked : start < context.request.finish
  · simp only [requestedRecords, if_pos asked] at done ⊢
    rw [(answers sequence).bars _ _ _ _ _ done]
    rfl
  · simp only [requestedRecords, if_neg asked] at done ⊢
    exact done

theorem validatedRecords_calm {sequence : Nat} {symbol : String} {start : Instant}
    {answer : Answer} (done : validatedRecords context sequence symbol start = .ok answer) :
    validatedRecords (context.calm responses) sequence symbol start = .ok answer := by
  rcases Loops.except_bind_ok done with ⟨records, fetched, rest⟩
  rcases Loops.except_bind_ok fetched with ⟨answered, asked, checked⟩
  have calm : fetchRecords context.request context.provider responses.adapter symbol start =
      .ok records :=
    (Loops.except_bind_eq (requestedRecords_calm answers asked) _).trans checked
  exact (Loops.except_bind_eq calm _).trans rest

theorem persistActions_entails (sequence : Nat) (asset : Asset) (symbol : String) :
    Loops.Entails
      (persistActions context.library context.request context.provider (context.adapter sequence)
        asset symbol)
      (persistActions context.library context.request context.provider responses.adapter
        asset symbol) := by
  apply Loops.Entails.bind
  · apply raise_entails
    intro records answered
    rw [(answers sequence).actions symbol context.request.start context.request.finish records
      answered]
    rfl
  · intro records
    exact Loops.Entails.refl _

theorem batchRows_entails (sequence : Nat) (symbol : String) :
    Loops.Entails (batchRows context sequence symbol)
      (batchRows (context.calm responses) sequence symbol) := by
  apply (assetOf_entails answers sequence symbol).bind
  intro asset
  apply (Loops.Entails.refl _).bind
  intro start
  apply (raise_entails fun _ done => validatedRecords_calm answers done).bind
  intro answer
  split
  · apply (Loops.Entails.refl _).bind
    intro _
    apply (persistActions_entails answers sequence asset symbol).bind
    intro _
    exact Loops.Entails.refl _
  · exact Loops.Entails.refl _

/-- What a run can commit is what the uninterrupted provider commits. -/
theorem committedRows_calm {sequence : Nat} {symbol : String} {rows committed : Canonical}
    (done : committedRows context sequence symbol rows = some committed) :
    committedRows (context.calm responses) sequence symbol rows = some committed := by
  have entails : Loops.Entails (flushedRows context sequence symbol)
      (flushedRows (context.calm responses) sequence symbol) :=
    (batchRows_entails answers sequence symbol).bind fun _ => Loops.Entails.refl _
  simp only [committedRows] at done
  cases flushed : flushedRows context sequence symbol ⟨rows, .empty⟩ with
  | error raised store =>
      rw [flushed] at done
      cases done
  | ok complete store =>
      rw [flushed] at done
      simp only [committedRows, entails _ _ _ flushed]
      exact done

end Answers

end MarketData
end MarketIntelligence
