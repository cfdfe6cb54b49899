import ZkRollup.Sequencer.Routes
import ZkRollup.SharedTypes.Encoding

/-!
Contract: what a failing `/batch` request leaves behind.

Between the drain and the commit there are five exits. Two of them restore the
mempool; the three that reject the prover's reply return without it, and the
drained transfers are gone. `failed_batch_restores_iff` says exactly when a
request that did not settle leaves the state as it found it.
-/

set_option autoImplicit false

namespace ZkRollup

open Foundation

/-- No receipt says that the call succeeded. -/
def RoundTrip.Unsettled (roundTrip : RoundTrip) : Prop :=
  ∀ receipt, roundTrip = .mined receipt → receipt.status = false

/-- Both strings are hexadecimal and the public values have 96 bytes. -/
def ProveResponse.WellFormed (prove : ProveResponse) : Prop :=
  ∃ publicValues proof, hexToBytes prove.publicValues = .ok publicValues ∧
    hexToBytes prove.proof = .ok proof ∧ publicValues.length = 96

theorem RoundTrip.Unsettled.submitBatch {roundTrip : RoundTrip} (unsettled : roundTrip.Unsettled) :
    ∃ cause, L1Client.submitBatch roundTrip = .error cause := by
  cases roundTrip with
  | sendFailed cause => exact ⟨_, rfl⟩
  | receiptFailed cause => exact ⟨_, rfl⟩
  | mined receipt =>
      have failed := unsettled receipt rfl
      exact ⟨.reverted receipt.txHash receipt.blockNumber, by
        simp [L1Client.submitBatch, failed]⟩

theorem decodeProof_ok {prove : ProveResponse} {submission : Submission} :
    decodeProof prove = .ok submission ↔ ∃ publicValues proof sized,
      hexToBytes prove.publicValues = .ok publicValues ∧ hexToBytes prove.proof = .ok proof ∧
      submission = ⟨publicValues, proof, newRootPv publicValues sized⟩ := by
  unfold decodeProof
  cases pvDecoded : hexToBytes prove.publicValues with
  | error message => simp [Except.mapError, bind, Except.bind]
  | ok publicValues =>
      cases proofDecoded : hexToBytes prove.proof with
      | error message => simp [Except.mapError, bind, Except.bind]
      | ok proof =>
          by_cases sized : publicValues.length = 96
          · simp [Except.mapError, bind, Except.bind, pure, Except.pure, sized, eq_comm]
          · simp [Except.mapError, bind, Except.bind, sized, throw, throwThe, MonadExceptOf.throw]

theorem ProveResponse.wellFormed_iff {prove : ProveResponse} :
    prove.WellFormed ↔ ∃ submission, decodeProof prove = .ok submission := by
  constructor
  · rintro ⟨publicValues, proof, pvDecoded, proofDecoded, sized⟩
    exact ⟨_, decodeProof_ok.mpr ⟨publicValues, proof, sized, pvDecoded, proofDecoded, rfl⟩⟩
  · rintro ⟨submission, decoded⟩
    rcases decodeProof_ok.mp decoded with
      ⟨publicValues, proof, sized, pvDecoded, proofDecoded, -⟩
    exact ⟨publicValues, proof, pvDecoded, proofDecoded, sized⟩

section

variable [Primitives]

/-- Nothing is drained from an empty mempool. -/
theorem triggerBatch_run_empty (prover : State → Batch → Except String ProveResponse)
    (l1 : Submission → RoundTrip) {sequencer : SequencerState} (empty : sequencer.mempool = []) :
    (triggerBatch prover l1).run sequencer = .error (.badRequest .mempoolIsEmpty) sequencer := by
  rw [triggerBatch, EStateM.run_bind, takeBatch_run, if_pos empty]

/-- What a `/batch` request does, exit by exit. -/
theorem triggerBatch_run (prover : State → Batch → Except String ProveResponse)
    (l1 : Submission → RoundTrip) {sequencer : SequencerState}
    (nonempty : sequencer.mempool ≠ []) :
    (triggerBatch prover l1).run sequencer =
      match prover sequencer.canonicalState ⟨sequencer.mempool⟩ with
      | .error cause => .error (.internal (.proveFailed cause))
          (sequencer.drainForBatch.2.restoreMempool ⟨sequencer.mempool⟩)
      | .ok prove =>
          match decodeProof prove with
          | .error failure => .error failure sequencer.drainForBatch.2
          | .ok submission =>
              match L1Client.submitBatch (l1 submission) with
              | .error cause => .error (.internal (.submitBatchFailed cause))
                  (sequencer.drainForBatch.2.restoreMempool ⟨sequencer.mempool⟩)
              | .ok outcome =>
                  match (commitSettled ⟨sequencer.mempool⟩ submission.newRoot outcome).run
                      sequencer.drainForBatch.2 with
                  | .error failure after => .error failure after
                  | .ok _ after =>
                      .ok (batchResponse sequencer.mempool.length prove outcome after) after := by
  unfold triggerBatch
  rw [EStateM.run_bind, takeBatch_run, if_neg nonempty]
  simp only
  cases prover sequencer.canonicalState ⟨sequencer.mempool⟩ with
  | error cause => rfl
  | ok prove =>
      simp only [EStateM.run_bind]
      cases decodeProof prove with
      | error failure => rfl
      | ok submission =>
          simp only [run_ofExcept_ok]
          cases L1Client.submitBatch (l1 submission) with
          | error cause => rfl
          | ok outcome =>
              simp only [EStateM.run_bind]
              cases (commitSettled ⟨sequencer.mempool⟩ submission.newRoot outcome).run
                sequencer.drainForBatch.2 <;> rfl

/-- A drain followed by the restore of its batch is the identity exactly where
the speculative state is the canonical state with the mempool applied. -/
theorem restore_drained_eq_iff (sequencer : SequencerState) :
    sequencer.drainForBatch.2.restoreMempool ⟨sequencer.mempool⟩ = sequencer ↔
      sequencer.canonicalState.applyAll sequencer.mempool = .ok sequencer.speculativeState := by
  rw [SequencerState.restoreMempool_eq]
  have replayed : sequencer.canonicalState.applyAll
      (sift State.apply sequencer.canonicalState sequencer.mempool).1 =
        .ok (sift State.apply sequencer.canonicalState sequencer.mempool).2 :=
    replay_sift sequencer.canonicalState sequencer.mempool
  constructor
  · intro same
    have kept : (sift State.apply sequencer.canonicalState sequencer.mempool).1 =
        sequencer.mempool := congrArg SequencerState.mempool same
    have reached : (sift State.apply sequencer.canonicalState sequencer.mempool).2 =
        sequencer.speculativeState := congrArg SequencerState.speculativeState same
    rw [kept, reached] at replayed
    exact replayed
  · intro pending
    show { sequencer with
      speculativeState := (sift State.apply sequencer.canonicalState sequencer.mempool).2
      mempool := [] ++ (sift State.apply sequencer.canonicalState sequencer.mempool).1 } = sequencer
    rw [sift_of_replay pending]
    rfl

/-- A request that does not settle leaves the state as it was exactly when the
prover fails or replies in the right format, and the pending transfers replay. -/
theorem triggerBatch_restores_iff (prover : State → Batch → Except String ProveResponse)
    (l1 : Submission → RoundTrip) (unsettled : ∀ submission, (l1 submission).Unsettled)
    (sequencer : SequencerState) (nonempty : sequencer.mempool ≠ []) :
    (∃ failure, (triggerBatch prover l1).run sequencer = .error failure sequencer) ↔
      (∀ prove, prover sequencer.canonicalState ⟨sequencer.mempool⟩ = .ok prove →
        prove.WellFormed) ∧
      sequencer.canonicalState.applyAll sequencer.mempool = .ok sequencer.speculativeState := by
  rw [triggerBatch_run prover l1 nonempty]
  cases prover sequencer.canonicalState ⟨sequencer.mempool⟩ with
  | error cause => simp [restore_drained_eq_iff]
  | ok prove =>
      simp only [Except.ok.injEq, forall_eq', ProveResponse.wellFormed_iff]
      cases decodeProof prove with
      | error failure =>
          have emptied : sequencer.drainForBatch.2 ≠ sequencer := by
            intro same
            exact nonempty (congrArg SequencerState.mempool same).symm
          simp [emptied]
      | ok submission =>
          rcases (unsettled submission).submitBatch with ⟨cause, failed⟩
          simp [failed, restore_drained_eq_iff]

/-- The same over all reachable states: the second half of the condition holds
in every state that operations whose commits return `Ok` can reach. -/
theorem failed_batch_restores_iff (state : State) (operations : List Operation)
    (sequencer : SequencerState) (nonempty : sequencer.mempool ≠ [])
    (prover : State → Batch → Except String ProveResponse) (l1 : Submission → RoundTrip)
    (unsettled : ∀ submission, (l1 submission).Unsettled) :
    ((∃ failure, (triggerBatch prover l1).run sequencer = .error failure sequencer) ↔
      (∀ prove, prover sequencer.canonicalState ⟨sequencer.mempool⟩ = .ok prove →
        prove.WellFormed) ∧
      sequencer.canonicalState.applyAll sequencer.mempool = .ok sequencer.speculativeState) ∧
    (attempt (operations.forM Operation.perform) (.fromGenesis state) = (true, sequencer) →
      sequencer.canonicalState.applyAll sequencer.mempool = .ok sequencer.speculativeState) :=
  ⟨triggerBatch_restores_iff prover l1 unsettled sequencer nonempty,
    fun performed => (SequencerState.consistent_of_perform performed).pending⟩

end

namespace HappyPath

/-- The reply of `prover-svc` to the drained batch, in mock mode. -/
def reply : ProveResponse where
  proof := hex0x []
  publicValues := hex0x (PublicValues.ofTransition genesis ⟨[transfer]⟩ settled).abiEncode
  vkey := hex0x (FixedBytes.ofNat 32 1).bytes
  prevRoot := hex0x genesis.merkleRoot.bytes
  newRoot := hex0x settled.merkleRoot.bytes
  batchHash := hex0x (Batch.hash ⟨[transfer]⟩).bytes

/-- A reply whose public values are not hexadecimal. -/
def malformedReply : ProveResponse :=
  { reply with publicValues := [0x7a, 0x7a] }

end HappyPath

open HappyPath in
theorem failed_batch_restores_iff_happyPath :
    ∃ failure, (triggerBatch (fun _ _ => .ok reply) fun _ => .sendFailed "timeout").run pending =
      .error failure pending := by
  have restores := failed_batch_restores_iff genesis [.admitTx transfer] pending (by decide +kernel)
    (fun _ _ => .ok reply) (fun _ => .sendFailed "timeout") (fun _ _ mined => by cases mined)
  refine restores.1.mpr ⟨?_, restores.2 (by decide +kernel)⟩
  intro prove answered
  cases answered
  exact ⟨_, [], hexToBytes_hex0x _, hexToBytes_hex0x [], PublicValues.abiEncode_length _⟩

open HappyPath in
/-- A reachable state, an admitted transfer and a malformed reply: the transfer
is neither in the mempool nor anywhere else afterwards. -/
theorem malformed_reply_loses_transfer :
    attempt (List.forM [Operation.admitTx transfer] Operation.perform) (.fromGenesis genesis) =
        (true, pending) ∧
      pending.mempool = [transfer] ∧
      (attempt (triggerBatch (fun _ _ => .ok malformedReply) fun _ => .sendFailed "timeout")
        pending).2.mempool = [] ∧
      ¬ ∃ failure, (triggerBatch (fun _ _ => .ok malformedReply)
        fun _ => .sendFailed "timeout").run pending = .error failure pending := by
  have emptied : (attempt (triggerBatch (fun _ _ => .ok malformedReply)
      fun _ => .sendFailed "timeout") pending).2.mempool = [] := by decide +kernel
  refine ⟨by decide +kernel, rfl, emptied, ?_⟩
  intro unchanged
  rcases unchanged with ⟨failure, unchanged⟩
  unfold attempt at emptied
  rw [unchanged] at emptied
  cases emptied

end ZkRollup
