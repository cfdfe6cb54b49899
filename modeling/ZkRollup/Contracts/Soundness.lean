import ZkRollup.Contracts.Rollup
import ZkRollup.Sequencer.Conservation
import ZkRollup.Stf.Binding

/-!
Contract: the on-chain root is the root of the ledger.

The zkVM program takes any account list for the previous state, sorted or not.
What makes settlement sound is the root: `submitBatch` compares it, and it pins
the exact list, so the only list that can be proved from is the one the settled
transfers produced. Everything is relative to collisions among the preimages
hashed for these roots.

Owns: the step lemma `LedgerRoot.settle` for one settled call, and its run over
any calls by any callers.
-/

set_option autoImplicit false

namespace ZkRollup

open Foundation

section

variable [Primitives]

/-- A call of `submitBatch`. The last two fields are the host's inputs of the
proof, if the verifier accepts it. -/
structure SettleCall where
  verifyProof : VerifyProof
  publicValues : Bytes
  proofBytes : Bytes
  prevState : State
  batch : Batch

namespace SettleCall

def submit (rollup : Rollup) (call : SettleCall) : Except RollupRevert Rollup :=
  (rollup.submitBatch call.verifyProof call.publicValues call.proofBytes).map Prod.fst

/-- The verifier accepts only what the zkVM program committed for the host's
inputs. -/
def Sound (programVKey : Hash) (call : SettleCall) : Prop :=
  call.verifyProof programVKey call.publicValues call.proofBytes = true →
    programMain call.prevState call.batch = .committed call.publicValues

end SettleCall

/-- The strings `merkle_root` hashes in a run of `apply_batch`. -/
def rootPreimages (prevState : State) (batch : Batch) : List Bytes :=
  prevState.rootPreimage ::
    match applyBatch prevState batch with
    | .ok output => [output.newState.rootPreimage]
    | .error _ => []

theorem newRootPreimage_mem {prev next : State} {batch : Batch}
    (replayed : prev.applyAll batch.txs = .ok next) :
    next.rootPreimage ∈ rootPreimages prev batch := by
  simp [rootPreimages, applyBatch_of_applyAll replayed]

def SettleCall.hashed (call : SettleCall) : List Bytes :=
  rootPreimages call.prevState call.batch

/-- The on-chain root is the root of this sorted state. -/
structure LedgerRoot (rollup : Rollup) (ledger : State) : Prop where
  sorted : ledger.Sorted
  root : rollup.stateRoot = ledger.merkleRoot

theorem programMain_eq_committed {prev : State} {batch : Batch} {publicValues : Bytes}
    (committed : programMain prev batch = .committed publicValues) :
    ∃ next, prev.applyAll batch.txs = .ok next ∧
      publicValues = (PublicValues.ofTransition prev batch next).abiEncode := by
  unfold programMain at committed
  rw [applyBatch_eq] at committed
  cases replayed : prev.applyAll batch.txs with
  | error failure =>
      rw [replayed] at committed
      cases committed
  | ok next =>
      rw [replayed] at committed
      cases committed
      exact ⟨next, rfl, rfl⟩

/-- One settled proof: its previous state is the ledger, and the ledger advances
by its batch. -/
theorem LedgerRoot.settle {rollup next : Rollup} {ledger prev : State} {batch : Batch}
    {verifyProof : VerifyProof} {publicValues proofBytes : Bytes} {settled : BatchSettled}
    {inputs : List Bytes} (tracks : LedgerRoot rollup ledger)
    (free : CollisionFree keccak256 inputs) (ledgerHashed : ledger.rootPreimage ∈ inputs)
    (prevHashed : prev.rootPreimage ∈ inputs)
    (proved : programMain prev batch = .committed publicValues)
    (accepted : rollup.submitBatch verifyProof publicValues proofBytes = .ok (next, settled)) :
    prev = ledger ∧ ∃ advanced, ledger.applyAll batch.txs = .ok advanced ∧
      LedgerRoot next advanced := by
  rcases programMain_eq_committed proved with ⟨advanced, replayed, rfl⟩
  rcases Rollup.submitBatch_ok.mp accepted with ⟨-, values, decoded, current, -, rfl, -⟩
  rw [PublicValues.abiDecode_abiEncode] at decoded
  cases decoded
  have same : prev = ledger :=
    State.eq_of_merkleRoot_eq free prevHashed ledgerHashed (current.trans tracks.root)
  rw [same] at replayed
  exact ⟨same, advanced, replayed, tracks.sorted.applyAll replayed, rfl⟩

/-! ## Runs -/

/-- The transfers of the settled calls, in order. -/
def settledTxs (calls : List SettleCall) : List Tx :=
  calls.flatMap fun call => call.batch.txs

omit [Primitives] in
theorem SettleCall.submit_ok {rollup next : Rollup} {call : SettleCall} :
    call.submit rollup = .ok next ↔ ∃ settled,
      rollup.submitBatch call.verifyProof call.publicValues call.proofBytes =
        .ok (next, settled) := by
  unfold SettleCall.submit
  cases rollup.submitBatch call.verifyProof call.publicValues call.proofBytes with
  | error revert => simp [Except.map]
  | ok answer => simp [Except.map, Prod.ext_iff]

omit [Primitives] in
theorem SettleCall.submit_programVKey {rollup next : Rollup} {call : SettleCall}
    (accepted : call.submit rollup = .ok next) : next.programVKey = rollup.programVKey := by
  rcases SettleCall.submit_ok.mp accepted with ⟨settled, accepted⟩
  rcases Rollup.submitBatch_ok.mp accepted with ⟨-, values, -, -, -, rfl, -⟩
  rfl

/-- What a run of calls leaves behind, relative to the ledger it started from. -/
structure SettledFrom (ledger : State) (calls : List SettleCall) (final : Rollup) : Prop where
  tracks : ∃ advanced, ledger.applyAll (settledTxs calls) = .ok advanced ∧
    LedgerRoot final advanced
  snapshots : ∀ before call after, calls = before ++ call :: after →
    ledger.applyAll (settledTxs before) = .ok call.prevState

theorem SettledFrom.cons {ledger advanced : State} {call : SettleCall} {rest : List SettleCall}
    {final : Rollup} (sameState : call.prevState = ledger)
    (replayed : ledger.applyAll call.batch.txs = .ok advanced)
    (later : SettledFrom advanced rest final) : SettledFrom ledger (call :: rest) final where
  tracks := by
    rcases later.tracks with ⟨last, restReplayed, tracks⟩
    exact ⟨last, replay_append_ok.mpr ⟨advanced, replayed, restReplayed⟩, tracks⟩
  snapshots := by
    intro before other after split
    cases before with
    | nil =>
        rcases List.cons.inj split with ⟨rfl, -⟩
        rw [sameState]
        rfl
    | cons head tail =>
        rcases List.cons.inj split with ⟨rfl, restSplit⟩
        exact replay_append_ok.mpr
          ⟨advanced, replayed, later.snapshots tail other after restSplit⟩

/-- Reverted calls change nothing; settled ones extend the ledger. -/
theorem LedgerRoot.run {rollup final : Rollup} {ledger : State} {calls settled : List SettleCall}
    (tracks : LedgerRoot rollup ledger) (sound : ∀ call ∈ calls, call.Sound rollup.programVKey)
    (free : CollisionFree keccak256
      (ledger.rootPreimage :: settled.flatMap SettleCall.hashed))
    (ran : sift (fun rollup call => SettleCall.submit rollup call) rollup calls =
      (settled, final)) :
    SettledFrom ledger settled final := by
  induction calls generalizing rollup ledger settled with
  | nil =>
      cases ran
      exact {
        tracks := ⟨ledger, rfl, tracks⟩
        snapshots := fun before call after split => by simp at split }
  | cons call rest inductionHypothesis =>
      have restSound : ∀ other ∈ rest, other.Sound rollup.programVKey :=
        fun other member => sound other (by simp [member])
      cases answer : call.submit rollup with
      | error revert =>
          rw [sift_cons_error answer] at ran
          exact inductionHypothesis tracks restSound free ran
      | ok next =>
          rw [sift_cons_ok answer] at ran
          cases ran
          rcases SettleCall.submit_ok.mp answer with ⟨event, accepted⟩
          have proved := sound call (by simp) (Rollup.submitBatch_ok.mp accepted).1
          rcases tracks.settle free (by simp) (by simp [SettleCall.hashed, rootPreimages]) proved
              accepted with
            ⟨same, advanced, replayed, advancedTracks⟩
          have newHashed : advanced.rootPreimage ∈ call.hashed := by
            rw [← same] at replayed
            exact newRootPreimage_mem replayed
          refine SettledFrom.cons same replayed (inductionHypothesis advancedTracks ?_ ?_ rfl)
          · rw [SettleCall.submit_programVKey answer]
            exact restSound
          · apply free.mono
            intro input member
            simp only [List.flatMap_cons, List.mem_cons, List.mem_append] at member ⊢
            rcases member with rfl | later
            · exact Or.inr (Or.inl newHashed)
            · exact Or.inr (Or.inr later)

/-- End-to-end soundness of the on-chain root. After any calls by any callers,
`stateRoot` is the root of the genesis state with all settled transfers applied,
each settled proof started from exactly that state at its moment, and value is
conserved; or two distinct strings hashed for the roots collide. -/
theorem root_sound (genesis : Genesis) (start : State) (loaded : genesis.intoState = .ok start)
    (rollup : Rollup) (initial : rollup.stateRoot = start.merkleRoot) (calls : List SettleCall)
    (sound : ∀ call ∈ calls, call.Sound rollup.programVKey) (settled : List SettleCall)
    (final : Rollup)
    (ran : sift (fun rollup call => SettleCall.submit rollup call) rollup calls =
      (settled, final)) :
    (∃ state, start.applyAll (settledTxs settled) = .ok state ∧
      final.stateRoot = state.merkleRoot ∧ state.Sorted ∧ state.total = start.total ∧
      ∀ before call after, settled = before ++ call :: after →
        start.applyAll (settledTxs before) = .ok call.prevState ∧ call.prevState.Sorted) ∨
    Collision keccak256 (start.rootPreimage :: settled.flatMap SettleCall.hashed) := by
  apply or_collision
  intro free
  have sorted := Genesis.intoState_sorted loaded
  have tracks : LedgerRoot rollup start := ⟨sorted, initial⟩
  have outcome := tracks.run sound free ran
  rcases outcome.tracks with ⟨state, replayed, reached⟩
  refine ⟨state, replayed, reached.root, reached.sorted, sorted.applyAll_total replayed, ?_⟩
  intro before call after split
  have snapshot := outcome.snapshots before call after split
  exact ⟨snapshot, sorted.applyAll snapshot⟩

end

namespace HappyPath

/-- The contract of the test genesis, and the call that settles the transfer. -/
def deployed : Rollup where
  programVKey := .ofNat 32 1
  verifier := .ofNat 20 1
  stateRoot := genesis.merkleRoot
  batchCount := 0

def settleTransfer : SettleCall where
  verifyProof _ publicValues _ :=
    publicValues = (PublicValues.ofTransition genesis ⟨[transfer]⟩ settled).abiEncode
  publicValues := (PublicValues.ofTransition genesis ⟨[transfer]⟩ settled).abiEncode
  proofBytes := []
  prevState := genesis
  batch := ⟨[transfer]⟩

def deployedAfter : Rollup :=
  { deployed with stateRoot := settled.merkleRoot, batchCount := 1 }

end HappyPath

open HappyPath in
theorem root_sound_happyPath :
    (∃ state, genesis.applyAll (settledTxs [settleTransfer]) = .ok state ∧
      deployedAfter.stateRoot = state.merkleRoot ∧ state.Sorted ∧ state.total = genesis.total ∧
      ∀ before call after, [settleTransfer] = before ++ call :: after →
        genesis.applyAll (settledTxs before) = .ok call.prevState ∧ call.prevState.Sorted) ∨
    Collision keccak256 (genesis.rootPreimage :: [settleTransfer].flatMap SettleCall.hashed) := by
  refine root_sound genesisFile genesis (by decide +kernel) deployed rfl [settleTransfer] ?_
    [settleTransfer] deployedAfter ?_
  · intro call member
    rw [List.mem_singleton.mp member]
    show _ → _
    intro
    decide +kernel
  · apply sift_of_replay
    rw [replay_singleton]
    decide +kernel

end ZkRollup
