import ZkRollup.Sequencer.PartialCommit
import ZkRollup.System.Transfers

/-!
Contract: what `/tx` accepts while batches are in flight.

The speculative state is some sorted state with the mempool applied, so no nonce
of the mempool is accepted again. This survives every drain, restore and commit,
failing ones included. That state is the canonical one as long as no commit has
failed: while a batch is in flight the mempool view collapses to the canonical
state, and what is in flight does not count towards the nonce that is expected.
-/

set_option autoImplicit false

namespace ZkRollup

open Foundation

section

variable [Primitives]

namespace SequencerState

/-- The speculative state is a sorted state with the mempool applied. -/
structure Based (sequencer : SequencerState) : Prop where
  canonical : sequencer.canonicalState.Sorted
  pending : ∃ base : State, base.Sorted ∧
    base.applyAll sequencer.mempool = .ok sequencer.speculativeState

variable {sequencer next : SequencerState}

theorem Based.fromGenesis {state : State} (sorted : state.Sorted) : (fromGenesis state).Based where
  canonical := sorted
  pending := ⟨state, sorted, rfl⟩

theorem Based.admission (based : sequencer.Based) {tx : Tx}
    (admitted : sequencer.admission tx = .ok next) : next.Based := by
  obtain ⟨base, sorted, replayed⟩ := based.pending
  have pending := pending_admission replayed admitted
  obtain ⟨extended, applied, rfl⟩ := admission_ok.mp admitted
  exact { canonical := based.canonical, pending := ⟨base, sorted, pending⟩ }

theorem Based.drainForBatch (based : sequencer.Based) : sequencer.drainForBatch.2.Based where
  canonical := based.canonical
  pending := ⟨sequencer.canonicalState, based.canonical, rfl⟩

theorem Based.restoreMempool (based : sequencer.Based) (batch : Batch) :
    (restoreMempool batch sequencer).Based where
  canonical := by
    rw [restoreMempool_canonicalState]
    exact based.canonical
  pending :=
    based.pending.imp fun _ sorted => ⟨sorted.1, pending_restoreMempool sorted.2 batch⟩

theorem Based.commitBatch (based : sequencer.Based) {batch : Batch} {newRoot : Hash}
    (commits : (commitBatch batch newRoot).run sequencer = .ok () next) : next.Based := by
  obtain ⟨advanced, replayed, -, rfl⟩ := commitBatch_ok.mp commits
  have sorted : advanced.Sorted := based.canonical.applyAll replayed
  exact {
    canonical := sorted
    pending := ⟨advanced, sorted, replay_sift advanced sequencer.mempool⟩ }

/-- A failing commit moves the canonical state away from under the mempool. -/
theorem Based.commitFailed (based : sequencer.Based) {batch : Batch} {newRoot : Hash}
    {cause : CommitError}
    (fails : (SequencerState.commitBatch batch newRoot).run sequencer = .error cause next) :
    next.Based := by
  rw [commitBatch_error fails]
  exact {
    canonical := haltState_invariant
      (fun _ _ _ sorted accepted => State.Sorted.apply sorted accepted) based.canonical
    pending := based.pending }

/-- No nonce of the mempool is admitted again. -/
theorem Based.admission_fresh (based : sequencer.Based)
    (short : sequencer.mempool.length < 2 ^ 64) {tx : Tx}
    (admitted : sequencer.admission tx = .ok next) :
    ∀ pending ∈ sequencer.mempool, pending.from = tx.from → pending.nonce ≠ tx.nonce := by
  obtain ⟨extended, applied, -⟩ := admission_ok.mp admitted
  obtain ⟨base, sorted, replayed⟩ := based.pending
  have expected : (sequencer.speculativeState.get tx.from).nonce = tx.nonce :=
    UInt64.toNat_inj.mp (State.apply_ok.mp applied).1.nonce.symm
  intro pending member sameSender sameNonce
  exact sorted.nonce_not_repeated replayed short member sameSender.symm expected sameNonce.symm

/-- On agreeing layers, the nonce that is admitted counts the canonical state and
the mempool, and nothing else. -/
theorem Based.admission_nonce (based : sequencer.Based) (consistent : sequencer.Consistent)
    {tx : Tx} (admitted : sequencer.admission tx = .ok next) :
    tx.nonce.toNat = ((sequencer.canonicalState.get tx.from).nonce.toNat +
      (sentBy tx.from sequencer.mempool).length) % 2 ^ 64 := by
  obtain ⟨extended, applied, -⟩ := admission_ok.mp admitted
  have expected : tx.nonce.toNat = (sequencer.speculativeState.ledger tx.from).nonce :=
    (State.apply_ok.mp applied).1.nonce
  rw [based.canonical.applyAll_ledger consistent.pending] at expected
  exact expected

end SequencerState

/-! ## The invariant -/

/-- No `commit_batch` has failed. -/
def System.Intact (system : System) : Prop :=
  ∀ request ∈ system.requests, ∀ failure, request.phase ≠ .commitFailed failure

structure System.Admits (system : System) : Prop where
  based : system.sequencer.Based
  consistent : system.Intact → system.sequencer.Consistent

variable {start : State} {system next : System}

omit [Primitives] in
theorem BatchRequest.Arrives.not_commitFailed {request moved : BatchRequest}
    {sequencer : SequencerState} {arrival : Arrival}
    (arrives : request.Arrives sequencer arrival moved) :
    ∀ failure, request.phase ≠ .commitFailed failure := by
  intro failure same
  cases arrives <;> simp_all [Phase.isOpen]

theorem BatchRequest.WriteLocks.not_commitFailed {request moved : BatchRequest}
    {sequencer after : SequencerState} (writes : request.WriteLocks sequencer moved after) :
    ∀ failure, request.phase ≠ .commitFailed failure := by
  intro failure same
  cases writes <;> simp_all

omit [Primitives] in
/-- If no commit has failed once a request has moved on, and that request had not
failed to commit before, none had. -/
theorem System.Intact.of_set {index : Nat} {request moved : BatchRequest}
    (found : system.requests[index]? = some request)
    (sameRequests : next.requests = system.requests.set index moved) (intact : next.Intact)
    (notFailed : ∀ failure, request.phase ≠ .commitFailed failure) : system.Intact := by
  unfold System.Intact at intact
  rw [sameRequests] at intact
  exact forall_mem_of_set found intact notFailed

omit [Primitives] in
theorem System.Intact.moved {index : Nat} {request : BatchRequest} (moved : BatchRequest)
    (found : system.requests[index]? = some request)
    (sameRequests : next.requests = system.requests.set index moved) (intact : next.Intact) :
    ∀ failure, moved.phase ≠ .commitFailed failure := by
  apply intact
  rw [sameRequests]
  exact List.mem_set (List.getElem?_eq_some_iff.mp found).1 moved

namespace System

theorem Admits.locked (admits : system.Admits) {index : Nat} {request moved : BatchRequest}
    {sequencer : SequencerState} (found : system.requests[index]? = some request)
    (writes : request.WriteLocks system.sequencer moved sequencer) :
    System.Admits { system with
      sequencer
      requests := system.requests.set index moved
      commits := system.commits ++ moved.newCommit } := by
  have notFailed := writes.not_commitFailed
  cases writes with
  | restored message standing =>
      exact {
        based := admits.based.restoreMempool request.batch
        consistent := fun intact =>
          (admits.consistent (intact.of_set found rfl notFailed)).restoreMempool request.batch }
  | committed prove submission outcome after standing commits =>
      exact {
        based := admits.based.commitBatch commits
        consistent := fun _ => SequencerState.commitBatch_consistent commits }
  | commitFailed prove submission outcome after cause standing fails =>
      exact {
        based := admits.based.commitFailed fails
        consistent := fun intact => absurd rfl (intact.moved _ found rfl _) }

theorem Admits.step (admits : system.Admits) {event : Event}
    (stepped : system.step event = some next) : next.Admits := by
  cases transition_of_step stepped with
  | unchanged => exact admits
  | admitted request tx sequencer parsed accepted =>
      exact {
        based := admits.based.admission accepted
        consistent := fun intact => (admits.consistent intact).admission accepted }
  | drained nonempty =>
      refine {
        based := admits.based.drainForBatch
        consistent := fun intact => (admits.consistent fun request member => ?_).drainForBatch }
      exact intact request (List.mem_append_left _ member)
  | arrived index arrival request moved found arrives =>
      exact {
        based := admits.based
        consistent := fun intact =>
          admits.consistent (intact.of_set found rfl arrives.not_commitFailed) }
  | locked index request moved sequencer found writes => exact admits.locked found writes
  | settled index verifyProof request submission rollup event found standing accepted =>
      exact {
        based := admits.based
        consistent := fun intact => admits.consistent
          (intact.of_set found rfl (intact.moved { request with l1 := .settled } found rfl)) }
  | reverted index verifyProof request submission found standing =>
      exact {
        based := admits.based
        consistent := fun intact => admits.consistent
          (intact.of_set found rfl (intact.moved { request with l1 := .reverted } found rfl)) }
  | foreignSettled call rollup accepted =>
      exact { based := admits.based, consistent := admits.consistent }

theorem admits_of_run (sorted : start.Sorted) {rollup : Rollup} {allowed : System → Event → Prop}
    (run : Run System.step allowed (System.initial start rollup) system) : system.Admits := by
  refine run.always { based := .fromGenesis sorted, consistent := fun _ => .fromGenesis start } ?_
  intro state event after admits _ stepped
  exact admits.step stepped

end System

/-- In every run, whatever the prover, the L1 and the clients do: `/tx` accepts
no nonce that its sender has in the mempool, and as long as no commit has failed
it accepts the one nonce that follows the canonical state and the mempool, to
which what is in flight does not count. A `Vec` is shorter than `2 ^ 64`. -/
theorem mempool_acknowledged_once (genesis : Genesis) (start : State)
    (loaded : genesis.intoState = .ok start) (rollup : Rollup) (system : System)
    (run : Run System.step (fun _ _ => True) (System.initial start rollup) system)
    (short : system.sequencer.mempool.length < 2 ^ 64) (request : TxRequest) (tx : Tx)
    (parsed : request.intoTx = .ok tx) (response : TxResponse) (left : SequencerState)
    (accepted : (submitTx request).run system.sequencer = .ok response left) :
    (∀ pending ∈ system.sequencer.mempool, pending.from = tx.from → pending.nonce ≠ tx.nonce) ∧
    (system.Intact →
      tx.nonce.toNat = ((system.sequencer.canonicalState.get tx.from).nonce.toNat +
        (sentBy tx.from system.sequencer.mempool).length) % 2 ^ 64) := by
  have admits := System.admits_of_run (Genesis.intoState_sorted loaded) run
  obtain ⟨admittedTx, same, admitted, -⟩ := submitTx_ok.mp accepted
  rw [parsed] at same
  cases same
  exact ⟨admits.based.admission_fresh short admitted,
    fun intact => admits.based.admission_nonce (admits.consistent intact) admitted⟩

end

namespace Resubmission

open HappyPath (alice bob aliceKey aliceRS transfer signingDigest genesis settled)

def secondRS : FixedBytes 64 := .ofNat 64
  0xdc3269acd59f6ce2db792a41aa3e17a42700a601297f2c4176dfbd2be6adeaac7949508d3b5f0778d9c0ba7a95060262c2679d63efcf1345c8322bdf0f0d6005

/-- Alice pays bob once more, in quick succession. -/
def secondTransfer : Tx where
  «from» := alice
  «to» := bob
  amount := 250
  nonce := 1
  signature := secondRS.bytes ++ [0]

def secondRequest : TxRequest where
  «from» := hex0x alice.bytes
  «to» := hex0x bob.bytes
  amount := 250
  nonce := 1
  signature := hex0x secondTransfer.signature

def secondDigest : Hash := .ofNat 32
  0xdead5ecb2a52c805e0c303b4581cfcf781b62758b9db02716d0cd121f56fe67c

def settledTwice : State :=
  ⟨[(alice, { balance := 500, nonce := 2 }), (bob, { balance := 500, nonce := 0 })]⟩

scoped instance primitives : Primitives :=
  .ofTables
    [(transfer.signingPayload, signingDigest), (secondTransfer.signingPayload, secondDigest),
      (aliceKey.bytes.drop 1,
        .ofNat 32 0xb8a0722ae6cb48cde0b4ae1f1a642f0e3c3af545e7acbd38b07251b3990914f1),
      (genesis.rootPreimage,
        .ofNat 32 0xa756e0b06bbe20a7416514ff26fff43f1733b997876914239aa1ee12845121dc),
      (settled.rootPreimage,
        .ofNat 32 0xd4ccc992ad0d153556b0e439cbdb8cbe5d1a6023cdcf5ab3c1ce84eb2962bb4c),
      (settledTwice.rootPreimage,
        .ofNat 32 0xbc946121c99a670d0e64e0fa9a8ea0ae30b5843dc38b4d1e79a486885bf8c070)]
    [((signingDigest, aliceRS, 0), aliceKey), ((secondDigest, secondRS, 0), aliceKey)]

def response : TxResponse where
  accepted := true
  mempoolSize := 2
  speculativeRoot := hex0x settledTwice.merkleRoot.bytes

def queuedTwice : SequencerState where
  canonicalState := genesis
  canonicalRoot := genesis.merkleRoot
  speculativeState := settledTwice
  mempool := [transfer, secondTransfer]
  batchCount := 0

end Resubmission

open Resubmission in
/-- The second transfer lands at the next nonce while the first one waits. -/
theorem mempool_acknowledged_once_resubmission :
    (∀ waiting ∈ [HappyPath.transfer], waiting.from = HappyPath.alice → waiting.nonce ≠ 1) ∧
      1 = ((HappyPath.genesis.get HappyPath.alice).nonce.toNat +
        (sentBy HappyPath.alice [HappyPath.transfer]).length) % 2 ^ 64 := by
  have once := mempool_acknowledged_once HappyPath.genesisFile HappyPath.genesis
    (by decide +kernel) HappyPath.deployed HappyPath.submitted
    (Run.of_events [.submitTx HappyPath.transferRequest] (by simp) (by decide +kernel))
    (by decide) secondRequest secondTransfer (by decide +kernel) response queuedTwice
    (submitTx_ok.mpr ⟨secondTransfer, by decide +kernel, by decide +kernel, rfl⟩)
  exact ⟨once.1, once.2 fun request member => by cases member⟩

open HappyPath in
/-- The transfer is acknowledged, drained, and acknowledged again while its batch
is being proved. -/
theorem in_flight_acknowledged_twice :
    genesisFile.intoState = .ok genesis ∧
      Run System.step (fun _ _ => True) (System.initial genesis deployed) submitted ∧
      submitted.admitted = [transfer] ∧
      submitted.step .startBatch = some proving ∧
      inFlight proving.requests = [[transfer]] ∧
      transferRequest.intoTx = .ok transfer ∧
      ∃ response, (submitTx transferRequest).run proving.sequencer = .ok response pending ∧
        response.accepted = true := by
  refine ⟨by decide +kernel, Run.of_events [.submitTx transferRequest] (by simp)
    (by decide +kernel), rfl, by decide +kernel, by decide +kernel, by decide +kernel, _,
    submitTx_ok.mpr ⟨transfer, by decide +kernel, by decide +kernel, rfl⟩, rfl⟩

end ZkRollup
