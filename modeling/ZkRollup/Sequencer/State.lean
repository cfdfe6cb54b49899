import ZkRollup.Stf.ApplyBatch

/-!
Contract: the sequencer's in-memory state and its four operations
(`sequencer/src/state.rs`).

`canonical_state` mirrors what the L1 contract has accepted; `speculative_state`
is meant to be `canonical_state` with the mempool applied. Nothing enforces this
relation: each operation rebuilds its part of it.

Owns: the operations as the code performs them, and one equation for each that
says what it does to the record in terms of replays and sifts.
-/

set_option autoImplicit false

namespace ZkRollup

open Foundation

structure SequencerState where
  canonicalState : State
  canonicalRoot : Hash
  speculativeState : State
  mempool : List Tx
  batchCount : UInt64
deriving DecidableEq

/-- The two errors of `commit_batch`: `post-settlement re-apply diverged` and
`post-settlement root mismatch`. -/
inductive CommitError where
  | reapplyDiverged (failure : StfError)
  | rootMismatch (recomputed newRoot : Hash)
deriving DecidableEq

namespace SequencerState

variable [Primitives]

def fromGenesis (state : State) : SequencerState where
  canonicalState := state
  canonicalRoot := state.merkleRoot
  speculativeState := state
  mempool := []
  batchCount := 0

/-- `apply` runs `apply_tx` on a clone, which replaces the state on success. -/
def admitTx (tx : Tx) : EStateM StfError SequencerState Unit := do
  let next ← ofExcept ((← get).speculativeState.apply tx)
  modify fun sequencer => { sequencer with speculativeState := next }
  modify fun sequencer => { sequencer with mempool := sequencer.mempool ++ [tx] }

omit [Primitives] in
/-- The snapshot is taken before the mempool is emptied and the speculative
state is reset. -/
def drainForBatch (sequencer : SequencerState) : (State × Batch) × SequencerState :=
  let prev := sequencer.canonicalState
  let txs := sequencer.mempool
  let sequencer := { sequencer with mempool := [] }
  let sequencer := { sequencer with speculativeState := sequencer.canonicalState }
  ((prev, { txs }), sequencer)

/-- A transfer that is no longer admitted is dropped silently. -/
def restoreMempool (batch : Batch) (sequencer : SequencerState) : SequencerState :=
  batch.txs.foldl (fun sequencer tx => (attempt (admitTx tx) sequencer).2) sequencer

/-- The transfers run on `canonical_state` itself: an error on the way keeps
what the earlier ones wrote. -/
def commitBatch (batch : Batch) (newRoot : Hash) : EStateM CommitError SequencerState Unit := do
  batch.txs.forM fun tx =>
    focus canonicalState (fun sequencer next => { sequencer with canonicalState := next })
      (EStateM.adaptExcept CommitError.reapplyDiverged (applyTx tx))
  let recomputed := (← get).canonicalState.merkleRoot
  if recomputed ≠ newRoot then
    throw (.rootMismatch recomputed newRoot)
  modify fun sequencer => { sequencer with canonicalRoot := newRoot }
  modify fun sequencer => { sequencer with batchCount := sequencer.batchCount + 1 }
  let spec := (← get).canonicalState
  let (mempool, spec) := retain (fun tx => attempt (applyTx tx)) (← get).mempool spec
  modify fun sequencer => { sequencer with mempool }
  modify fun sequencer => { sequencer with speculativeState := spec }

/-! ## What the operations do -/

variable (sequencer : SequencerState)

/-- `admit_tx` as a step on the whole record. -/
def admission (tx : Tx) : Except StfError SequencerState :=
  match sequencer.speculativeState.apply tx with
  | .ok next =>
      .ok { sequencer with speculativeState := next, mempool := sequencer.mempool ++ [tx] }
  | .error failure => .error failure

theorem admitTx_realizes : Realizes admitTx admission := by
  intro tx sequencer
  unfold admitTx admission
  simp only [EStateM.run_bind, EStateM.run_get]
  cases answer : sequencer.speculativeState.apply tx with
  | ok next => rfl
  | error failure => rfl

theorem admission_ok {sequencer next : SequencerState} {tx : Tx} :
    sequencer.admission tx = .ok next ↔
      ∃ extended, sequencer.speculativeState.apply tx = .ok extended ∧
        next = { sequencer with
          speculativeState := extended, mempool := sequencer.mempool ++ [tx] } := by
  unfold admission
  cases sequencer.speculativeState.apply tx <;> simp [eq_comm]

/-- Restoring sifts the batch on top of the speculative state and appends what
is left to the mempool. -/
theorem restoreMempool_eq (batch : Batch) :
    restoreMempool batch sequencer =
      { sequencer with
        speculativeState := (sift State.apply sequencer.speculativeState batch.txs).2
        mempool :=
          sequencer.mempool ++ (sift State.apply sequencer.speculativeState batch.txs).1 } := by
  rcases batch with ⟨txs⟩
  unfold restoreMempool
  induction txs generalizing sequencer with
  | nil => simp [sift]
  | cons tx rest inductionHypothesis =>
      rw [List.foldl_cons, inductionHypothesis, admitTx_realizes.attempt]
      unfold admission
      cases answer : sequencer.speculativeState.apply tx with
      | ok next => simp [sift_cons_ok answer]
      | error failure => simp [sift_cons_error answer]

@[simp] theorem restoreMempool_canonicalState (batch : Batch) :
    (restoreMempool batch sequencer).canonicalState = sequencer.canonicalState := by
  rw [restoreMempool_eq]

@[simp] theorem restoreMempool_canonicalRoot (batch : Batch) :
    (restoreMempool batch sequencer).canonicalRoot = sequencer.canonicalRoot := by
  rw [restoreMempool_eq]

/-- The half of `commit_batch` that writes to `canonical_state` in place. -/
theorem reapply_eq (txs : List Tx) :
    (txs.forM fun tx =>
      focus canonicalState (fun sequencer next => { sequencer with canonicalState := next })
        (EStateM.adaptExcept CommitError.reapplyDiverged (applyTx tx))).run sequencer =
      match sequencer.canonicalState.applyAll txs with
      | .ok next => .ok () { sequencer with canonicalState := next }
      | .error failure => .error (.reapplyDiverged failure)
          { sequencer with canonicalState := haltState State.apply sequencer.canonicalState txs } := by
  induction txs generalizing sequencer with
  | nil => rfl
  | cons tx rest inductionHypothesis =>
      rw [List.forM, EStateM.run_bind, run_focus, EStateM.run_adaptExcept, applyTx_realizes,
        State.applyAll, replay_cons]
      cases answer : sequencer.canonicalState.apply tx with
      | ok next =>
          simp only [haltState, answer]
          rw [inductionHypothesis]
      | error failure => simp only [haltState, answer]

/-- `commit_batch` in full: re-apply, compare the roots, then advance the record
and rebuild the speculative state. -/
theorem commitBatch_eq (batch : Batch) (newRoot : Hash) :
    (commitBatch batch newRoot).run sequencer =
      match sequencer.canonicalState.applyAll batch.txs with
      | .error failure => .error (.reapplyDiverged failure)
          { sequencer with
            canonicalState := haltState State.apply sequencer.canonicalState batch.txs }
      | .ok next =>
          if next.merkleRoot ≠ newRoot then
            .error (.rootMismatch next.merkleRoot newRoot)
              { sequencer with canonicalState := next }
          else
            .ok () {
              canonicalState := next
              canonicalRoot := newRoot
              speculativeState := (sift State.apply next sequencer.mempool).2
              mempool := (sift State.apply next sequencer.mempool).1
              batchCount := sequencer.batchCount + 1 } := by
  unfold commitBatch
  rw [EStateM.run_bind, reapply_eq]
  cases answer : sequencer.canonicalState.applyAll batch.txs with
  | error failure => rfl
  | ok next =>
      simp only [EStateM.run_bind, EStateM.run_get]
      by_cases mismatch : next.merkleRoot = newRoot
      · simp only [mismatch, ne_eq, not_true_eq_false, if_false, EStateM.run_bind,
          EStateM.run_modify, EStateM.run_get, applyTx_realizes.retain]
      · simp only [ne_eq, if_pos mismatch, EStateM.run_bind, EStateM.run_throw]

/-- The record behind a successful commit that advanced to the given state. -/
def committed (advanced : State) : SequencerState where
  canonicalState := advanced
  canonicalRoot := advanced.merkleRoot
  speculativeState := (sift State.apply advanced sequencer.mempool).2
  mempool := (sift State.apply advanced sequencer.mempool).1
  batchCount := sequencer.batchCount + 1

/-- `commit_batch` returns `Ok` exactly when the batch replays from the
canonical state to a state with the given root. -/
theorem commitBatch_ok {sequencer next : SequencerState} {batch : Batch} {newRoot : Hash} :
    (commitBatch batch newRoot).run sequencer = .ok () next ↔
      ∃ advanced, sequencer.canonicalState.applyAll batch.txs = .ok advanced ∧
        advanced.merkleRoot = newRoot ∧ next = sequencer.committed advanced := by
  rw [commitBatch_eq]
  cases replayed : sequencer.canonicalState.applyAll batch.txs with
  | error failure => simp
  | ok advanced =>
      by_cases sameRoot : advanced.merkleRoot = newRoot
      · simp [sameRoot, committed, eq_comm]
      · simp [sameRoot]

end SequencerState

end ZkRollup
