import ZkRollup.Sequencer.State

/-!
Contract: the relation between the layers of the sequencer's state.

`admit_tx` extends the speculative state, `drain_for_batch` resets it,
`restore_mempool` extends it by what still applies and `commit_batch` rebuilds it
on a moved canonical state. After each of them the speculative state is again
the canonical state with the mempool applied, so whatever is drained replays and
the zkVM program accepts it.
-/

set_option autoImplicit false

namespace ZkRollup

open Foundation

/-- The calls that change the sequencer's state. -/
inductive Operation where
  | admitTx (tx : Tx)
  | drainForBatch
  | restoreMempool (batch : Batch)
  | commitBatch (batch : Batch) (newRoot : Hash)
deriving DecidableEq

section

variable [Primitives]

/-- A failed admission changes nothing and is an answer like any other; only
`commit_batch` reports its errors here. -/
def Operation.perform : Operation → EStateM CommitError SequencerState Unit
  | .admitTx tx => modify fun sequencer => (attempt (SequencerState.admitTx tx) sequencer).2
  | .drainForBatch => modify fun sequencer => sequencer.drainForBatch.2
  | .restoreMempool batch => modify (SequencerState.restoreMempool batch)
  | .commitBatch batch newRoot => SequencerState.commitBatch batch newRoot

namespace SequencerState

structure Consistent (sequencer : SequencerState) : Prop where
  root : sequencer.canonicalRoot = sequencer.canonicalState.merkleRoot
  pending : sequencer.canonicalState.applyAll sequencer.mempool = .ok sequencer.speculativeState

variable {sequencer next : SequencerState}

/-- An admission extends whatever the mempool has been applied to. -/
theorem pending_admission {base : State} {tx : Tx}
    (pending : base.applyAll sequencer.mempool = .ok sequencer.speculativeState)
    (admitted : sequencer.admission tx = .ok next) :
    base.applyAll next.mempool = .ok next.speculativeState := by
  obtain ⟨extended, applied, rfl⟩ := admission_ok.mp admitted
  exact replay_append_ok.mpr ⟨_, pending, (replay_singleton _ _).trans applied⟩

theorem pending_restoreMempool {base : State}
    (pending : base.applyAll sequencer.mempool = .ok sequencer.speculativeState) (batch : Batch) :
    base.applyAll (restoreMempool batch sequencer).mempool =
      .ok (restoreMempool batch sequencer).speculativeState := by
  rw [restoreMempool_eq]
  exact replay_append_ok.mpr ⟨_, pending, replay_sift sequencer.speculativeState batch.txs⟩

theorem Consistent.fromGenesis (state : State) : (fromGenesis state).Consistent where
  root := rfl
  pending := rfl

theorem Consistent.admission {tx : Tx} (consistent : sequencer.Consistent)
    (admitted : sequencer.admission tx = .ok next) : next.Consistent := by
  have pending := pending_admission consistent.pending admitted
  obtain ⟨extended, applied, rfl⟩ := admission_ok.mp admitted
  exact { root := consistent.root, pending }

theorem Consistent.attemptAdmit (consistent : sequencer.Consistent) (tx : Tx) :
    (attempt (admitTx tx) sequencer).2.Consistent := by
  rw [admitTx_realizes.attempt]
  cases admitted : sequencer.admission tx with
  | ok next => exact consistent.admission admitted
  | error failure => exact consistent

theorem Consistent.drainForBatch (consistent : sequencer.Consistent) :
    sequencer.drainForBatch.2.Consistent where
  root := consistent.root
  pending := rfl

theorem Consistent.restoreMempool (consistent : sequencer.Consistent) (batch : Batch) :
    (restoreMempool batch sequencer).Consistent where
  root := by
    rw [restoreMempool_canonicalRoot, restoreMempool_canonicalState]
    exact consistent.root
  pending := by
    rw [restoreMempool_canonicalState]
    exact pending_restoreMempool consistent.pending batch

/-- No assumption on the state before: a commit that returns `Ok` has compared
the roots and rebuilt the rest. -/
theorem commitBatch_consistent {batch : Batch} {newRoot : Hash}
    (committed : (commitBatch batch newRoot).run sequencer = .ok () next) : next.Consistent := by
  rcases commitBatch_ok.mp committed with ⟨advanced, -, -, rfl⟩
  exact {
    root := rfl
    pending := replay_sift advanced sequencer.mempool }

theorem Consistent.perform (consistent : sequencer.Consistent) {operation : Operation}
    (performed : operation.perform.run sequencer = .ok () next) : next.Consistent := by
  cases operation with
  | admitTx tx =>
      cases performed
      exact consistent.attemptAdmit tx
  | drainForBatch =>
      cases performed
      exact consistent.drainForBatch
  | restoreMempool batch =>
      cases performed
      exact consistent.restoreMempool batch
  | commitBatch batch newRoot => exact commitBatch_consistent performed

theorem consistent_of_perform {state : State} {operations : List Operation}
    (performed :
      attempt (operations.forM Operation.perform) (.fromGenesis state) = (true, sequencer)) :
    sequencer.Consistent :=
  forM_invariant (fun _ _ _ consistent step => Consistent.perform consistent step)
    (.fromGenesis state) (attempt_true.mp performed)

/-- What a consistent sequencer drains is what its speculative state says. -/
theorem Consistent.applyBatch_drained (consistent : sequencer.Consistent) :
    applyBatch sequencer.canonicalState ⟨sequencer.mempool⟩ =
      .ok {
        newState := sequencer.speculativeState
        publicValues := {
          prevRoot := sequencer.canonicalRoot
          newRoot := sequencer.speculativeState.merkleRoot
          batchHash := Batch.hash ⟨sequencer.mempool⟩ } } := by
  rw [consistent.root]
  exact applyBatch_of_applyAll consistent.pending

/-- After any operations from any genesis state, as long as commits return `Ok`:
the layers agree, and the proved program accepts what is drained next. -/
theorem drained_batch_accepted (state : State) (operations : List Operation)
    (sequencer : SequencerState)
    (performed :
      attempt (operations.forM Operation.perform) (.fromGenesis state) = (true, sequencer)) :
    sequencer.canonicalRoot = sequencer.canonicalState.merkleRoot ∧
    sequencer.canonicalState.applyAll sequencer.mempool = .ok sequencer.speculativeState ∧
    ∀ prev batch drained, sequencer.drainForBatch = ((prev, batch), drained) →
      ∃ output, applyBatch prev batch = .ok output ∧
        output.publicValues.prevRoot = sequencer.canonicalRoot ∧
        output.publicValues.newRoot = sequencer.speculativeState.merkleRoot ∧
        output.publicValues.batchHash = batch.hash ∧
        programMain prev batch = .committed output.publicValues.abiEncode := by
  have consistent := consistent_of_perform performed
  refine ⟨consistent.root, consistent.pending, ?_⟩
  intro prev batch drained drains
  cases drains
  have accepted := consistent.applyBatch_drained
  exact ⟨_, accepted, rfl, rfl, rfl, programMain_committed accepted⟩

end SequencerState

end

namespace HappyPath

/-- The sequencer of the test genesis with the test transfer in its mempool. -/
def pending : SequencerState where
  canonicalState := genesis
  canonicalRoot := genesis.merkleRoot
  speculativeState := settled
  mempool := [transfer]
  batchCount := 0

end HappyPath

open HappyPath in
theorem SequencerState.drained_batch_accepted_happyPath :
    ∃ output, applyBatch genesis ⟨[transfer]⟩ = .ok output ∧
      programMain genesis ⟨[transfer]⟩ = .committed output.publicValues.abiEncode := by
  have accepted := drained_batch_accepted genesis [.admitTx transfer] pending (by decide +kernel)
  rcases accepted.2.2 genesis ⟨[transfer]⟩ _ rfl with ⟨output, applied, -, -, -, exit⟩
  exact ⟨output, applied, exit⟩

end ZkRollup
