import ZkRollup.Sequencer.Consistency
import ZkRollup.Sequencer.Genesis

/-!
Contract: no operation creates or destroys value, not even one that fails.

The invariant speaks of both layers at once: sorted, and worth what the genesis
was worth. A `commit_batch` that stops half way leaves a canonical state that
some prefix of the batch reached, and that prefix kept the invariant too. The
same holds of any property of states that accepted transfers keep.
-/

set_option autoImplicit false

namespace ZkRollup

open Foundation

section

variable [Primitives]

/-- A sorted state whose balances add up to this much. -/
structure State.Holds (amount : Nat) (state : State) : Prop where
  sorted : state.Sorted
  total : state.total = amount

variable {amount : Nat}

theorem State.Holds.apply (state : State) (tx : Tx) (next : State) (holds : state.Holds amount)
    (accepted : state.apply tx = .ok next) : next.Holds amount where
  sorted := holds.sorted.apply accepted
  total := (holds.sorted.apply_total accepted).trans holds.total

theorem State.Holds.ne_overflow {state : State} (holds : state.Holds amount)
    (bounded : amount < 2 ^ 64) (tx : Tx) : state.apply tx ≠ .error .overflow :=
  holds.sorted.apply_ne_overflow (holds.total ▸ bounded) tx

/-- Every call of `apply_tx` that an operation makes, with the state it is made
on: one for an admission, one for each restored transfer, and for a commit those
of the re-application and, when the roots match, those of the `retain` loop. -/
def Operation.applyTxCalls (sequencer : SequencerState) : Operation → List (State × Tx)
  | .admitTx tx => [(sequencer.speculativeState, tx)]
  | .drainForBatch => []
  | .restoreMempool batch => siftCalls State.apply sequencer.speculativeState batch.txs
  | .commitBatch batch newRoot =>
      replayCalls State.apply sequencer.canonicalState batch.txs ++
        match sequencer.canonicalState.applyAll batch.txs with
        | .error _ => []
        | .ok next =>
            if next.merkleRoot ≠ newRoot then []
            else siftCalls State.apply next sequencer.mempool

namespace SequencerState

/-- The state behind a list of operations, failing calls included. -/
def afterOperations (sequencer : SequencerState) (operations : List Operation) : SequencerState :=
  operations.foldl (fun sequencer operation => (attempt operation.perform sequencer).2) sequencer

/-! ## Properties that accepted transfers keep -/

/-- Both layers have the property. -/
structure Layers (motive : State → Prop) (sequencer : SequencerState) : Prop where
  canonical : motive sequencer.canonicalState
  speculative : motive sequencer.speculativeState

section

variable {motive : State → Prop} {sequencer : SequencerState}
  (kept : ∀ state tx next, motive state → State.apply state tx = .ok next → motive next)

include kept

theorem Layers.admitTx (layers : sequencer.Layers motive) (tx : Tx) :
    (attempt (admitTx tx) sequencer).2.Layers motive := by
  rw [admitTx_realizes.attempt]
  cases admitted : sequencer.admission tx with
  | error failure => exact layers
  | ok next =>
      rcases admission_ok.mp admitted with ⟨extended, applied, rfl⟩
      exact {
        canonical := layers.canonical
        speculative := kept _ tx extended layers.speculative applied }

theorem Layers.restoreMempool (layers : sequencer.Layers motive) (batch : Batch) :
    (restoreMempool batch sequencer).Layers motive := by
  rw [restoreMempool_eq]
  exact {
    canonical := layers.canonical
    speculative := sift_invariant kept batch.txs layers.speculative }

/-- Whether it returns `Ok` or stops half way. -/
theorem Layers.commitBatch (layers : sequencer.Layers motive) (batch : Batch) (newRoot : Hash) :
    (attempt (commitBatch batch newRoot) sequencer).2.Layers motive := by
  unfold attempt
  rw [commitBatch_eq]
  cases replayed : sequencer.canonicalState.applyAll batch.txs with
  | error failure =>
      exact {
        canonical := haltState_invariant kept layers.canonical
        speculative := layers.speculative }
  | ok next =>
      have advanced : motive next := replay_invariant kept layers.canonical replayed
      by_cases mismatch : next.merkleRoot ≠ newRoot
      · simp only [if_pos mismatch]
        exact {
          canonical := advanced
          speculative := layers.speculative }
      · simp only [if_neg mismatch]
        exact {
          canonical := advanced
          speculative := sift_invariant kept sequencer.mempool advanced }

theorem Layers.perform (layers : sequencer.Layers motive) (operation : Operation) :
    (attempt operation.perform sequencer).2.Layers motive := by
  cases operation with
  | admitTx tx => exact layers.admitTx kept tx
  | drainForBatch => exact { canonical := layers.canonical, speculative := layers.canonical }
  | restoreMempool batch => exact layers.restoreMempool kept batch
  | commitBatch batch newRoot => exact layers.commitBatch kept batch newRoot

theorem Layers.afterOperations (layers : sequencer.Layers motive) (operations : List Operation) :
    (sequencer.afterOperations operations).Layers motive := by
  induction operations generalizing sequencer with
  | nil => exact layers
  | cons operation rest inductionHypothesis =>
      exact inductionHypothesis (layers.perform kept operation)

/-- Every call of `apply_tx` runs on a state with the property. -/
theorem Layers.applyTxCalls (layers : sequencer.Layers motive) (operation : Operation) :
    ∀ call ∈ operation.applyTxCalls sequencer, motive call.1 := by
  cases operation with
  | admitTx tx =>
      intro call member
      rw [List.mem_singleton.mp member]
      exact layers.speculative
  | drainForBatch =>
      intro call member
      cases member
  | restoreMempool batch => exact siftCalls_invariant kept layers.speculative
  | commitBatch batch newRoot =>
      intro call member
      rcases List.mem_append.mp member with reapplied | retained
      · exact replayCalls_invariant kept layers.canonical call reapplied
      · cases replayed : sequencer.canonicalState.applyAll batch.txs with
        | error failure =>
            rw [replayed] at retained
            cases retained
        | ok next =>
            rw [replayed] at retained
            have advanced : motive next := replay_invariant kept layers.canonical replayed
            by_cases mismatch : next.merkleRoot ≠ newRoot
            · simp only [if_pos mismatch] at retained
              cases retained
            · simp only [if_neg mismatch] at retained
              exact siftCalls_invariant kept advanced call retained

end

/-! ## Value -/

/-- Both layers are sorted and worth the same. -/
structure Holds (amount : Nat) (sequencer : SequencerState) : Prop where
  canonical : sequencer.canonicalState.Holds amount
  speculative : sequencer.speculativeState.Holds amount

variable {sequencer : SequencerState}

omit [Primitives] in
theorem Holds.layers (holds : sequencer.Holds amount) :
    sequencer.Layers (State.Holds amount) where
  canonical := holds.canonical
  speculative := holds.speculative

theorem Holds.afterOperations (holds : sequencer.Holds amount) (operations : List Operation) :
    (sequencer.afterOperations operations).Holds amount :=
  have behind := holds.layers.afterOperations State.Holds.apply operations
  { canonical := behind.canonical, speculative := behind.speculative }

theorem Holds.fromGenesis {state : State} (sorted : state.Sorted) :
    (SequencerState.fromGenesis state).Holds state.total where
  canonical := ⟨sorted, rfl⟩
  speculative := ⟨sorted, rfl⟩

/-- After any operations on any genesis: both layers, every drained snapshot and
every batch result are worth the genesis, and while that fits into a `u64` no
call of `apply_tx` returns `Overflow`. -/
theorem value_conserved (genesis : Genesis) (state : State)
    (loaded : genesis.intoState = .ok state) (operations : List Operation) :
    ((fromGenesis state).afterOperations operations).canonicalState.total = state.total ∧
    ((fromGenesis state).afterOperations operations).speculativeState.total = state.total ∧
    (∀ prev batch drained,
      ((fromGenesis state).afterOperations operations).drainForBatch = ((prev, batch), drained) →
      prev.total = state.total ∧
      (∀ output, applyBatch prev batch = .ok output → output.newState.total = state.total) ∧
      (state.total ≤ 2 ^ 64 - 1 →
        ∀ call ∈ replayCalls State.apply prev batch.txs, call.1.apply call.2 ≠ .error .overflow)) ∧
    (state.total ≤ 2 ^ 64 - 1 → ∀ operation : Operation,
      ∀ call ∈ operation.applyTxCalls ((fromGenesis state).afterOperations operations),
        call.1.apply call.2 ≠ .error .overflow) := by
  have holds := (Holds.fromGenesis (Genesis.intoState_sorted loaded)).afterOperations operations
  refine ⟨holds.canonical.total, holds.speculative.total, ?_, ?_⟩
  · intro prev batch drained drains
    cases drains
    refine ⟨holds.canonical.total, ?_, ?_⟩
    · intro output succeeded
      exact (holds.canonical.sorted.applyAll_total (applyBatch_ok.mp succeeded).1).trans
        holds.canonical.total
    · intro bounded call member
      exact (replayCalls_invariant State.Holds.apply holds.canonical call member).ne_overflow
        (by omega) call.2
  · intro bounded operation call member
    exact (holds.layers.applyTxCalls State.Holds.apply operation call member).ne_overflow (by omega) call.2

end SequencerState

end

namespace HappyPath

/-- The test genesis as a file: the addresses as `0x` texts. -/
def genesisFile : Genesis where
  accounts := [
    { address := [0x30, 0x78] ++ Hex.encode alice.bytes, balance := 1000 },
    { address := [0x30, 0x78] ++ Hex.encode bob.bytes, balance := 0 }]

end HappyPath

open HappyPath in
theorem SequencerState.value_conserved_happyPath :
    ((fromGenesis genesis).afterOperations
      [.admitTx transfer, .drainForBatch]).canonicalState.total = genesis.total :=
  (value_conserved genesisFile genesis (by decide +kernel) [.admitTx transfer, .drainForBatch]).1

end ZkRollup
