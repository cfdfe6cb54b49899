import ZkRollup.Sequencer.Conservation

/-!
Contract: what a failing `commit_batch` leaves behind.

The batch is applied to `canonical_state` itself and the roots are compared
afterwards, so a failure keeps the writes of the transfers that did apply. Only
a batch whose first transfer is refused, or an empty one, fails without a trace.

Nothing is assumed of the account list here. On an unsorted one a transfer may
insert an account that exists already; then the list has grown, and otherwise
one nonce has moved by one.
-/

set_option autoImplicit false

namespace ZkRollup

open Foundation

section

variable [Primitives]

/-! ## No way back -/

/-- The list has grown, or its nonces together have moved by this much, modulo
`2 ^ 64`. -/
def State.AheadBy (count : Nat) (start next : State) : Prop :=
  start.accounts.length < next.accounts.length ∨
    (next.accounts.length = start.accounts.length ∧
      next.nonceSum % 2 ^ 64 = (start.nonceSum + count) % 2 ^ 64)

omit [Primitives] in
theorem State.AheadBy.trans {first second third : State} {count more : Nat}
    (left : first.AheadBy count second) (right : second.AheadBy more third) :
    first.AheadBy (count + more) third := by
  rcases left with grown | ⟨sameLength, moved⟩
  · rcases right with alsoGrown | ⟨alsoSame, -⟩
    · exact Or.inl (grown.trans alsoGrown)
    · exact Or.inl (by rw [alsoSame]; exact grown)
  · rcases right with alsoGrown | ⟨alsoSame, alsoMoved⟩
    · exact Or.inl (by rw [← sameLength]; exact alsoGrown)
    · exact Or.inr ⟨alsoSame.trans sameLength, by omega⟩

omit [Primitives] in
theorem State.AheadBy.ne {start next : State} {count : Nat} (ahead : start.AheadBy count next)
    (positive : 0 < count) (small : count < 2 ^ 64) : next ≠ start := by
  rintro rfl
  rcases ahead with grown | ⟨-, moved⟩
  · exact Nat.lt_irrefl _ grown
  · omega

omit [Primitives] in
/-- The two writes of a transfer between different accounts. -/
theorem State.moved_aheadBy (state : State) {tx : Tx} (distinct : tx.from ≠ tx.to) :
    state.AheadBy 1 (state.moved tx) := by
  have debit := state.sumOf_set (fun account => account.nonce.toNat) rfl tx.from {
    balance := (state.get tx.from).balance - tx.amount
    nonce := (state.get tx.from).nonce + 1 }
  have credit := (state.set tx.from {
    balance := (state.get tx.from).balance - tx.amount
    nonce := (state.get tx.from).nonce + 1 }).sumOf_set
      (fun account => account.nonce.toNat) rfl tx.to {
        balance := (state.get tx.to).balance + tx.amount
        nonce := (state.get tx.to).nonce }
  have atSender := state.set_inserts_or_keeps tx.from {
    balance := (state.get tx.from).balance - tx.amount
    nonce := (state.get tx.from).nonce + 1 }
  have atRecipient := (state.set tx.from {
    balance := (state.get tx.from).balance - tx.amount
    nonce := (state.get tx.from).nonce + 1 }).set_inserts_or_keeps tx.to {
      balance := (state.get tx.to).balance + tx.amount
      nonce := (state.get tx.to).nonce }
  have increment : ((state.get tx.from).nonce + 1).toNat =
      ((state.get tx.from).nonce.toNat + 1) % 2 ^ 64 := UInt64.toNat_add _ _
  unfold State.AheadBy State.moved State.nonceSum
  rcases atSender with inserted | ⟨sameLength, kept⟩
  · left
    rcases atRecipient with alsoInserted | ⟨alsoSame, -⟩ <;> omega
  · rcases atRecipient with inserted | ⟨alsoSame, -⟩
    · left
      omega
    · right
      rw [kept tx.to distinct.symm] at credit
      refine ⟨alsoSame.trans sameLength, ?_⟩
      simp only [increment] at debit credit
      omega

theorem State.applyAll_aheadBy {state next : State} {txs : List Tx}
    (replayed : state.applyAll txs = .ok next) : state.AheadBy txs.length next := by
  induction txs generalizing state with
  | nil =>
      cases replayed
      exact Or.inr ⟨rfl, rfl⟩
  | cons tx rest inductionHypothesis =>
      obtain ⟨middle, first, later⟩ := replay_cons_ok.mp replayed
      have outcome := State.apply_ok.mp first
      have step := state.moved_aheadBy outcome.1.distinct
      rw [← outcome.2] at step
      have both := step.trans (inductionHypothesis later)
      rw [Nat.add_comm] at both
      exact both

/-- On any account list: the re-application writes nothing exactly if it refuses
its first transfer, or has none. -/
theorem State.haltState_eq_iff {state : State} {txs : List Tx} (sized : txs.length < 2 ^ 64) :
    haltState State.apply state txs = state ↔
      ∀ tx rest, txs = tx :: rest → ∃ failure, state.apply tx = .error failure := by
  rcases replay_haltState State.apply state txs with
    ⟨before, after, split, replayed, blocked⟩
  constructor
  · intro unchanged tx rest same
    have ahead := State.applyAll_aheadBy replayed
    have none : before = [] := by
      by_contra nonempty
      have short : before.length < 2 ^ 64 := by
        rw [split, List.length_append] at sized
        omega
      exact ahead.ne (List.length_pos_of_ne_nil nonempty) short unchanged
    rw [none, List.nil_append] at split
    rw [unchanged] at blocked
    exact blocked tx rest (split.symm.trans same)
  · intro refused
    cases txs with
    | nil => rfl
    | cons tx rest =>
        obtain ⟨failure, failed⟩ := refused tx rest rfl
        simp only [haltState, failed]

namespace SequencerState

variable {sequencer left : SequencerState} {batch : Batch} {newRoot : Hash} {cause : CommitError}

/-- Whichever check fails, the other four fields are untouched. -/
theorem commitBatch_error (fails : (commitBatch batch newRoot).run sequencer = .error cause left) :
    left = { sequencer with
      canonicalState := haltState State.apply sequencer.canonicalState batch.txs } := by
  rw [commitBatch_eq] at fails
  cases replayed : sequencer.canonicalState.applyAll batch.txs with
  | error failure =>
      simp only [replayed] at fails
      cases fails
      rfl
  | ok advanced =>
      rw [haltState_of_replay replayed]
      by_cases sameRoot : advanced.merkleRoot = newRoot
      · simp [replayed, sameRoot] at fails
      · simp only [replayed, if_pos sameRoot] at fails
        cases fails
        rfl

/-- A failing commit changes nothing exactly if the batch is empty or its first
transfer is refused. Batches are shorter than `2 ^ 64`, as every `Vec` is. -/
theorem failed_commit_atomic_iff (sequencer : SequencerState) (batch : Batch)
    (sized : batch.txs.length < 2 ^ 64) (newRoot : Hash) (cause : CommitError)
    (left : SequencerState)
    (fails : (commitBatch batch newRoot).run sequencer = .error cause left) :
    (left.canonicalState = sequencer.canonicalState ∧
      left.canonicalRoot = sequencer.canonicalRoot ∧
      left.speculativeState = sequencer.speculativeState ∧
      left.mempool = sequencer.mempool ∧
      left.batchCount = sequencer.batchCount ∧
      (sequencer.canonicalRoot = sequencer.canonicalState.merkleRoot →
        left.canonicalRoot = left.canonicalState.merkleRoot)) ↔
    ∀ tx rest, batch.txs = tx :: rest →
      ∃ failure, sequencer.canonicalState.apply tx = .error failure := by
  rw [commitBatch_error fails, ← State.haltState_eq_iff sized]
  constructor
  · intro unchanged
    exact unchanged.1
  · intro unchanged
    refine ⟨unchanged, rfl, rfl, rfl, rfl, fun root => ?_⟩
    simp only [unchanged, root]

end SequencerState

end

namespace HappyPath

/-- The sequencer after the test transfer has been drained. -/
def drained : SequencerState :=
  pending.drainForBatch.2

end HappyPath

open HappyPath in
/-- The transfer applies and the root does not match: the canonical state has
moved without its root. -/
theorem failed_commit_half_written :
    ∃ cause left, (SequencerState.commitBatch ⟨[transfer]⟩ (.ofNat 32 1)).run drained =
        .error cause left ∧
      drained.canonicalRoot = drained.canonicalState.merkleRoot ∧
      left.canonicalState ≠ drained.canonicalState ∧
      left.canonicalRoot ≠ left.canonicalState.merkleRoot := by
  have replayed : drained.canonicalState.applyAll [transfer] = .ok settled := by decide +kernel
  have mismatch : settled.merkleRoot ≠ .ofNat 32 1 := by decide +kernel
  refine ⟨.rootMismatch settled.merkleRoot (.ofNat 32 1), { drained with canonicalState := settled },
    ?_, by decide +kernel, by decide +kernel, by decide +kernel⟩
  rw [SequencerState.commitBatch_eq]
  simp only [replayed, if_pos mismatch]

open HappyPath in
/-- Committed twice, the transfer is refused and nothing changes. -/
theorem SequencerState.failed_commit_atomic_iff_happyPath :
    ∃ cause left, (commitBatch ⟨[transfer]⟩ settled.merkleRoot).run (drained.committed settled) =
        .error cause left ∧
      left.canonicalState = (drained.committed settled).canonicalState := by
  have refused : (drained.committed settled).canonicalState.apply transfer =
      .error (.nonceMismatch 1 0) := by decide +kernel
  have stops : (drained.committed settled).canonicalState.applyAll [transfer] =
      .error (.nonceMismatch 1 0) := (replay_singleton _ _).trans refused
  have fails := commitBatch_eq (drained.committed settled) ⟨[transfer]⟩ settled.merkleRoot
  simp only [stops] at fails
  have atomic := failed_commit_atomic_iff _ ⟨[transfer]⟩ (by decide) settled.merkleRoot _ _ fails
  refine ⟨_, _, fails, (atomic.mpr ?_).1⟩
  intro tx rest same
  cases same
  exact ⟨_, refused⟩

end ZkRollup
