import ZkRollup.Sequencer.Conservation
import ZkRollup.Stf.Authorization

/-!
Contract: the pending transfers of a sender are one run of nonces.

The mempool replays from the canonical state to the speculative one, so a
sender's transfers in it carry consecutive nonces from the canonical nonce on,
in whatever way drains, restores and commits have mixed them. The canonical
nonce only grows, so what has been committed stays below it for good.

Owns: the rule by which the web client picks a nonce (`web/app.tsx`).
-/

set_option autoImplicit false

namespace ZkRollup

open Foundation

/-- The transfers of the commits among the operations, in order. -/
def Operation.commits : Operation → List Tx
  | .commitBatch batch _ => batch.txs
  | .admitTx _ | .drainForBatch | .restoreMempool _ => []

/-- `acc.nonce + pending` of `submitTransfer`: the account's nonce as `/state`
reports it, plus the sender's entries in `/mempool`. -/
def SequencerState.clientNonce (sequencer : SequencerState) (addr : Address) : Nat :=
  (sequencer.canonicalState.get addr).nonce.toNat + (sentBy addr sequencer.mempool).length

section

variable [Primitives]

/-- No call of `apply_tx` in the operation pushes a nonce past `u64::MAX`. -/
def Operation.KeepsNonces (sequencer : SequencerState) (operation : Operation) : Prop :=
  ∀ call ∈ operation.applyTxCalls sequencer, ∀ next, call.1.apply call.2 = .ok next →
    call.2.NonceRoom

/-- The same of every operation of a run. -/
def Operation.AllKeepNonces : SequencerState → List Operation → Prop
  | _, [] => True
  | sequencer, operation :: rest =>
      operation.KeepsNonces sequencer ∧
        Operation.AllKeepNonces (attempt operation.perform sequencer).2 rest

namespace SequencerState

/-- The layers agree, the nonces of the mempool do not wrap, and whatever has
been applied is below the canonical nonce of its sender. -/
structure Ordered (applied : List Tx) (sequencer : SequencerState) : Prop where
  sorted : sequencer.canonicalState.Sorted
  consistent : sequencer.Consistent
  room : ∀ tx ∈ sequencer.mempool, tx.NonceRoom
  below : ∀ tx ∈ applied, tx.nonce.toNat < (sequencer.canonicalState.get tx.from).nonce.toNat

variable {sequencer next : SequencerState} {applied : List Tx}

theorem Ordered.fromGenesis {state : State} (sorted : state.Sorted) :
    (fromGenesis state).Ordered [] where
  sorted := sorted
  consistent := .fromGenesis state
  room := fun tx member => by cases member
  below := fun tx member => by cases member

theorem Ordered.attemptAdmit (ordered : sequencer.Ordered applied) {tx : Tx}
    (keeps : (Operation.admitTx tx).KeepsNonces sequencer) :
    (attempt (admitTx tx) sequencer).2.Ordered applied := by
  have consistent := ordered.consistent.attemptAdmit tx
  rw [admitTx_realizes.attempt] at consistent ⊢
  cases admitted : sequencer.admission tx with
  | error failure => exact ordered
  | ok next =>
      rw [admitted] at consistent
      obtain ⟨extended, accepted, rfl⟩ := admission_ok.mp admitted
      exact {
        sorted := ordered.sorted
        consistent := consistent
        room := List.forall_mem_append.mpr ⟨ordered.room, List.forall_mem_singleton.mpr
          (keeps (_, tx) (List.mem_singleton.mpr rfl) extended accepted)⟩
        below := ordered.below }

theorem Ordered.drainForBatch (ordered : sequencer.Ordered applied) :
    sequencer.drainForBatch.2.Ordered applied where
  sorted := ordered.sorted
  consistent := ordered.consistent.drainForBatch
  room := fun tx member => by cases member
  below := ordered.below

theorem Ordered.restoreMempool (ordered : sequencer.Ordered applied) {batch : Batch}
    (keeps : (Operation.restoreMempool batch).KeepsNonces sequencer) :
    (restoreMempool batch sequencer).Ordered applied := by
  have consistent := ordered.consistent.restoreMempool batch
  rw [restoreMempool_eq] at consistent ⊢
  exact {
    sorted := ordered.sorted
    consistent := consistent
    room := by
      intro tx member
      rcases List.mem_append.mp member with old | restored
      · exact ordered.room tx old
      · obtain ⟨state, next, called, accepted⟩ := exists_call_of_sift tx restored
        exact keeps _ called next accepted
    below := ordered.below }

/-- The retained part of the mempool is a part of it, and the canonical nonces
have moved past everything in the batch. -/
theorem Ordered.commitBatch (ordered : sequencer.Ordered applied) {batch : Batch} {newRoot : Hash}
    (keeps : (Operation.commitBatch batch newRoot).KeepsNonces sequencer)
    (committed : (commitBatch batch newRoot).run sequencer = .ok () next) :
    next.Ordered (applied ++ batch.txs) := by
  have consistent := commitBatch_consistent committed
  obtain ⟨advanced, replayed, -, rfl⟩ := commitBatch_ok.mp committed
  have room : ∀ tx ∈ batch.txs, tx.NonceRoom := by
    intro tx member
    obtain ⟨state, after, called, accepted⟩ := exists_call_of_replay replayed tx member
    exact keeps _ (List.mem_append_left _ called) after accepted
  exact {
    sorted := ordered.sorted.applyAll replayed
    consistent := consistent
    room := fun tx member => ordered.room tx ((sift_sublist _ _).subset member)
    below := by
      intro tx member
      rcases List.mem_append.mp member with old | new
      · exact (ordered.below tx old).trans_le (ordered.sorted.nonce_le room replayed tx.from)
      · exact (ordered.sorted.nonce_of_applied room replayed new).2 }

theorem Ordered.perform (ordered : sequencer.Ordered applied) {operation : Operation}
    (keeps : operation.KeepsNonces sequencer)
    (performed : operation.perform.run sequencer = .ok () next) :
    next.Ordered (applied ++ operation.commits) := by
  cases operation with
  | commitBatch batch newRoot => exact ordered.commitBatch keeps performed
  | admitTx tx =>
      cases performed
      rw [Operation.commits, List.append_nil]
      exact ordered.attemptAdmit keeps
  | drainForBatch =>
      cases performed
      rw [Operation.commits, List.append_nil]
      exact ordered.drainForBatch
  | restoreMempool batch =>
      cases performed
      rw [Operation.commits, List.append_nil]
      exact ordered.restoreMempool keeps

/-! ## Runs -/

theorem Ordered.run {operations : List Operation} (ordered : sequencer.Ordered applied)
    (keeps : Operation.AllKeepNonces sequencer operations)
    (performed : (operations.forM Operation.perform).run sequencer = .ok () next) :
    next.Ordered (applied ++ operations.flatMap Operation.commits) := by
  induction operations generalizing sequencer applied with
  | nil =>
      cases performed
      rw [List.flatMap_nil, List.append_nil]
      exact ordered
  | cons operation rest inductionHypothesis =>
      obtain ⟨middle, atHead, restPerformed⟩ := forM_cons_ok.mp performed
      have restKeeps := keeps.2
      rw [attempt_true.mpr atHead] at restKeeps
      have behind := inductionHypothesis (ordered.perform keeps.1 atHead) restKeeps restPerformed
      rw [List.append_assoc] at behind
      exact behind

/-! ## What it means for pending transfers -/

/-- The nonces of a sender, from the canonical one to the speculative one. -/
theorem Ordered.nonces (ordered : sequencer.Ordered applied) (addr : Address) :
    (sentBy addr sequencer.mempool).map (fun tx => tx.nonce.toNat) =
        List.range' (sequencer.canonicalState.get addr).nonce.toNat
          (sentBy addr sequencer.mempool).length ∧
      (sequencer.speculativeState.get addr).nonce.toNat = sequencer.clientNonce addr :=
  ordered.sorted.sent_nonces ordered.room ordered.consistent.pending addr

/-- The client's nonce is the one `admit_tx` expects. -/
theorem Ordered.clientNonce_accepted (ordered : sequencer.Ordered applied) {tx : Tx}
    (chosen : tx.nonce.toNat = sequencer.clientNonce tx.from) (expected got : UInt64)
    (left : SequencerState) :
    (admitTx tx).run sequencer ≠ .error (.nonceMismatch expected got) left := by
  rw [admitTx_realizes]
  intro mismatch
  cases admitted : sequencer.admission tx with
  | ok next => simp [admitted] at mismatch
  | error failure =>
      simp only [admitted, EStateM.Result.error.injEq] at mismatch
      rw [mismatch.1] at admitted
      unfold admission at admitted
      cases applied : sequencer.speculativeState.apply tx with
      | ok extended => simp [applied] at admitted
      | error failure =>
          simp only [applied, Except.error.injEq] at admitted
          rw [admitted] at applied
          exact Ledger.failedCheck_nonceMismatch (State.apply_error.mp applied)
            ((ordered.nonces tx.from).2.trans chosen.symm)

/-- A nonce that the canonical state has passed is neither in the mempool nor
admitted. -/
theorem Ordered.passed (ordered : sequencer.Ordered applied) {tx : Tx}
    (passed : tx.nonce.toNat < (sequencer.canonicalState.get tx.from).nonce.toNat) :
    tx ∉ sequencer.mempool ∧ ∀ left, (admitTx tx).run sequencer ≠ .ok () left := by
  constructor
  · intro member
    have later := ordered.sorted.nonce_of_applied ordered.room ordered.consistent.pending member
    omega
  · intro left admits
    rw [admitTx_realizes] at admits
    cases admitted : sequencer.admission tx with
    | error failure => simp [admitted] at admits
    | ok next =>
        obtain ⟨extended, accepted, -⟩ := admission_ok.mp admitted
        have expected : tx.nonce.toNat = (sequencer.speculativeState.get tx.from).nonce.toNat :=
          (State.apply_ok.mp accepted).1.nonce
        rw [(ordered.nonces tx.from).2, clientNonce] at expected
        omega

/-- After any operations from a sorted state, in any order, as long as commits
return `Ok` and no nonce goes past `u64::MAX`: the pending nonces of a sender
count up from the canonical nonce without a gap, the client's rule gives the
nonce that `admit_tx` expects, and nothing is pending twice or after its commit. -/
theorem pending_nonces_contiguous (state : State) (sorted : state.Sorted)
    (operations : List Operation) (sequencer : SequencerState)
    (performed :
      attempt (operations.forM Operation.perform) (.fromGenesis state) = (true, sequencer))
    (keeps : Operation.AllKeepNonces (.fromGenesis state) operations) :
    (∀ addr, (sentBy addr sequencer.mempool).map (fun tx => tx.nonce.toNat) =
        List.range' (sequencer.canonicalState.get addr).nonce.toNat
          (sentBy addr sequencer.mempool).length ∧
      (sequencer.speculativeState.get addr).nonce.toNat =
        (sequencer.canonicalState.get addr).nonce.toNat +
          (sentBy addr sequencer.mempool).length) ∧
    (∀ tx, tx.nonce.toNat = sequencer.clientNonce tx.from → ∀ expected got left,
      (admitTx tx).run sequencer ≠ .error (.nonceMismatch expected got) left) ∧
    (sequencer.mempool.map fun tx => (tx.from, tx.nonce)).Nodup ∧
    ∀ tx ∈ operations.flatMap Operation.commits, ∀ again : Tx, again.from = tx.from →
      again.nonce = tx.nonce →
      again ∉ sequencer.mempool ∧ (∀ left, (admitTx again).run sequencer ≠ .ok () left) ∧
      ∀ batch, (Operation.restoreMempool batch).KeepsNonces sequencer →
        again ∉ (restoreMempool batch sequencer).mempool := by
  have ordered := (Ordered.fromGenesis sorted).run keeps (attempt_true.mp performed)
  rw [List.nil_append] at ordered
  refine ⟨ordered.nonces, fun tx chosen => ordered.clientNonce_accepted chosen,
    ordered.sorted.sender_nonces_nodup ordered.room ordered.consistent.pending, ?_⟩
  intro tx committed again sameSender sameNonce
  have passed : again.nonce.toNat < (sequencer.canonicalState.get again.from).nonce.toNat := by
    rw [sameSender, sameNonce]
    exact ordered.below tx committed
  refine ⟨(ordered.passed passed).1, (ordered.passed passed).2, ?_⟩
  intro batch keepsRestore
  apply ((ordered.restoreMempool keepsRestore).passed _).1
  rw [restoreMempool_canonicalState]
  exact passed

end SequencerState

end

namespace HappyPath

/-- The transfer is admitted, drained and committed. -/
def commitOnce : List Operation :=
  [.admitTx transfer, .drainForBatch, .commitBatch ⟨[transfer]⟩ settled.merkleRoot]

def committedOnce : SequencerState where
  canonicalState := settled
  canonicalRoot := settled.merkleRoot
  speculativeState := settled
  mempool := []
  batchCount := 1

theorem commitOnce_keepsNonces :
    Operation.AllKeepNonces (.fromGenesis genesis) commitOnce := by
  refine ⟨fun call member next accepted => ?_, fun call member next accepted => ?_,
    fun call member next accepted => ?_, trivial⟩
  · exact (by decide +kernel : ∀ call ∈ (Operation.admitTx transfer).applyTxCalls
      (.fromGenesis genesis), call.2.NonceRoom) call member
  · cases member
  · exact (by decide +kernel : ∀ call ∈ (Operation.commitBatch ⟨[transfer]⟩
      settled.merkleRoot).applyTxCalls pending.drainForBatch.2, call.2.NonceRoom) call member

end HappyPath

open HappyPath in
theorem SequencerState.pending_nonces_contiguous_happyPath :
    (committedOnce.speculativeState.get alice).nonce.toNat = 1 ∧
      transfer ∉ committedOnce.mempool ∧
      ∀ left, (admitTx transfer).run committedOnce ≠ .ok () left := by
  have contiguous := pending_nonces_contiguous genesis (by decide +kernel) commitOnce committedOnce
    (by decide +kernel) commitOnce_keepsNonces
  have again := contiguous.2.2.2 transfer (by simp [commitOnce, Operation.commits]) transfer rfl rfl
  exact ⟨(contiguous.1 alice).2.trans (by decide +kernel), again.1, again.2.1⟩

end ZkRollup
