import ZkRollup.Prover.Service
import ZkRollup.System.Agreement
import ZkRollup.System.Receipts
import ZkRollup.System.Uninterrupted

/-!
Contract: the sequencer behind its own prover service.

The system leaves the prover's reply open. Here every reply is what prover-svc
answers about the pair that the request has sent, over any SDK that keeps its
documentation, or the failure of the exchange. Then no reply is malformed, none
costs a batch, and what `/batch` reports is what was settled and committed.

Owns: the truth of the answers over whole runs, and the two outcomes of a request
that nothing interrupts.
-/

set_option autoImplicit false

namespace ZkRollup

open Foundation

section

variable [Primitives]

/-- The service answers about this pair, or the exchange fails. -/
def ServiceReply (prevState : State) (batch : Batch) (reply : Except String ProveResponse) : Prop :=
  ∃ sdk : Sp1Sdk, sdk.Documented ∧ ∃ state exchange,
    reply = ProverClient.prove exchange (ProverSvc.prove sdk state prevState batch)

/-- All replies come from the service, and the verifier is sound for everybody
else. -/
def System.Served (system : System) : Event → Prop
  | .arrive index (.proverAnswer reply) =>
      ∀ request, system.requests[index]? = some request →
        ServiceReply request.prevState request.batch reply
  | .foreignCall call => call.Sound system.rollup.programVKey
  | _ => True

/-- The reply and the calldata belong to the batch on its snapshot. -/
structure Proved (prevState : State) (batch : Batch) (prove : ProveResponse)
    (submission : Submission) (next : State) : Prop where
  replayed : prevState.applyAll batch.txs = .ok next
  repeats : prove.Repeats (.ofTransition prevState batch next)
  publicValues : submission.publicValues = (PublicValues.ofTransition prevState batch next).abiEncode
  newRoot : submission.newRoot = next.merkleRoot

/-- The answer tells about the batch on its snapshot. -/
structure BatchResponse.Tells (response : BatchResponse) (prevState : State) (batch : Batch)
    (next : State) : Prop where
  txs : response.txs = batch.txs.length
  prevRoot : response.prevRoot = hex0x prevState.merkleRoot.bytes
  newRoot : response.newRoot = hex0x next.merkleRoot.bytes
  batchHash : response.batchHash = hex0x batch.hash.bytes

/-- What a request stands for in each of its phases. -/
def Phase.Genuine (prevState : State) (batch : Batch) : Phase → Prop
  | .dropped _ => False
  | .submitting prove submission | .awaiting prove submission | .confirmed prove submission _
  | .committed prove submission _ => ∃ next, Proved prevState batch prove submission next
  | .answered submission response => ∃ next, prevState.applyAll batch.txs = .ok next ∧
      submission.newRoot = next.merkleRoot ∧ response.Tells prevState batch next
  | _ => True

variable {start ledger : State} {system next : System}

/-! ## Replies -/

theorem ServiceReply.decodes {prevState : State} {batch : Batch} {prove : ProveResponse}
    (reply : ServiceReply prevState batch (.ok prove)) :
    ∃ advanced submission, decodeProof prove = .ok submission ∧
      Proved prevState batch prove submission advanced := by
  obtain ⟨sdk, documented, state, exchange, answer⟩ := reply
  cases exchange with
  | failed cause => cases answer
  | answered body =>
      cases proved : ProverSvc.prove sdk state prevState batch with
      | error failure =>
          rw [proved] at answer
          cases answer
      | ok response =>
          rw [proved] at answer
          cases answer
          obtain ⟨advanced, replayed, repeats, ⟨proof, proofText, -⟩, -⟩ :=
            ProverSvc.prove_ok documented proved
          exact ⟨advanced, _, repeats.decodeProof proofText, replayed, repeats, rfl, rfl⟩

/-- The service is an honest prover. -/
theorem System.Served.honest {event : Event} (served : system.Served event) :
    system.Honest event := by
  unfold System.Honest
  split
  next index prove =>
    intro request found
    obtain ⟨advanced, submission, -, proved⟩ := (served request found).decodes
    exact ⟨_, programMain_committed (applyBatch_of_applyAll proved.replayed), by
      rw [proved.repeats.publicValues, hexToBytes_hex0x]⟩
  next => exact served
  next => trivial

/-- Its replies are never malformed. -/
theorem System.Served.wellFormed {index : Nat} {prove : ProveResponse} {request : BatchRequest}
    (served : system.Served (.arrive index (.proverAnswer (.ok prove))))
    (found : system.requests[index]? = some request) : prove.WellFormed := by
  obtain ⟨-, submission, decoded, -⟩ := (served request found).decodes
  exact ProveResponse.wellFormed_iff.mpr ⟨submission, decoded⟩

theorem System.run_honest {first last : System} (run : Run System.step System.Served first last) :
    Run System.step System.Honest first last :=
  Relation.ReflTransGen.mono
    (fun _ _ ⟨event, served, stepped⟩ => ⟨event, served.honest, stepped⟩) _ _ run

/-! ## Requests -/

theorem BatchRequest.Arrives.genuine {request moved : BatchRequest} {sequencer : SequencerState}
    {arrival : Arrival} (arrives : request.Arrives sequencer arrival moved)
    (genuine : request.phase.Genuine request.prevState request.batch)
    (reply : ∀ prove, arrival = .proverAnswer (.ok prove) →
      ServiceReply request.prevState request.batch (.ok prove)) :
    moved.phase.Genuine moved.prevState moved.batch := by
  cases arrives with
  | dropped prove failure standing malformed =>
      obtain ⟨-, submission, decoded, -⟩ := (reply prove rfl).decodes
      rw [malformed] at decoded
      cases decoded
  | submitting prove submission standing decoded =>
      obtain ⟨advanced, other, same, proved⟩ := (reply prove rfl).decodes
      rw [decoded] at same
      cases same
      exact ⟨advanced, proved⟩
  | awaiting prove submission standing =>
      rw [standing] at genuine
      exact genuine
  | confirmed prove submission answer outcome standing answers succeeded =>
      rw [standing] at genuine
      exact genuine
  | answered prove submission outcome response standing read =>
      rw [standing] at genuine
      obtain ⟨advanced, proved⟩ := genuine
      subst read
      exact ⟨advanced, proved.replayed, proved.newRoot, rfl, proved.repeats.prevRoot,
        proved.repeats.newRoot, proved.repeats.batchHash⟩
  | _ => trivial

theorem BatchRequest.WriteLocks.genuine {request moved : BatchRequest}
    {sequencer after : SequencerState} (writes : request.WriteLocks sequencer moved after)
    (genuine : request.phase.Genuine request.prevState request.batch) :
    moved.phase.Genuine moved.prevState moved.batch := by
  cases writes with
  | committed prove submission outcome after standing commits =>
      rw [standing] at genuine
      exact genuine
  | _ => trivial

namespace System

def Genuine (system : System) : Prop :=
  ∀ request ∈ system.requests, request.phase.Genuine request.prevState request.batch

theorem Genuine.step (genuine : system.Genuine) {event : Event} (served : system.Served event)
    (stepped : system.step event = some next) : next.Genuine := by
  cases transition_of_step stepped with
  | unchanged => exact genuine
  | admitted => exact genuine
  | drained nonempty => exact forall_mem_concat genuine trivial
  | arrived index arrival request moved found arrives =>
      refine forall_mem_set genuine
        (arrives.genuine (genuine request (List.mem_of_getElem? found)) ?_)
      rintro prove rfl
      exact served request found
  | locked index request moved sequencer found writes =>
      exact forall_mem_set genuine (writes.genuine (genuine request (List.mem_of_getElem? found)))
  | settled index verifyProof request submission rollup event found standing accepted =>
      exact forall_mem_set genuine (genuine request (List.mem_of_getElem? found))
  | reverted index verifyProof request submission found standing =>
      exact forall_mem_set genuine (genuine request (List.mem_of_getElem? found))
  | foreignSettled => exact genuine

theorem genuine_of_run {rollup : Rollup}
    (run : Run System.step System.Served (System.initial start rollup) system) :
    system.Genuine := by
  refine run.always (fun request member => by cases member) ?_
  intro state event after genuine served stepped
  exact genuine.step served stepped

end System

/-- Behind the service no reply costs a batch and no commit fails, in any run and
under any interleaving. A successful answer tells the truth: the batch replays on
its snapshot to the root in the answer, was settled with these roots and this
hash, and is in the log of the commits. -/
theorem served_answers_are_true (genesis : Genesis) (start : State)
    (loaded : genesis.intoState = .ok start) (rollup : Rollup)
    (sameRoot : rollup.stateRoot = start.merkleRoot) (system : System)
    (run : Run System.step System.Served (System.initial start rollup) system)
    (sane : system.Sane start) :
    ∀ request ∈ system.requests,
      (∀ failure, request.phase ≠ .dropped failure ∧ request.phase ≠ .commitFailed failure) ∧
      ∀ submission response, request.phase = .answered submission response →
        ∃ next, request.prevState.applyAll request.batch.txs = .ok next ∧
          response.Tells request.prevState request.batch next ∧
          (request.prevState, request.batch) ∈ system.settlements ∧
          request.CommittedIn start system.commits next.merkleRoot := by
  have sorted := Genesis.intoState_sorted loaded
  obtain ⟨ledger, follower, agrees, -, -⟩ :=
    System.agrees_of_run sorted sameRoot (System.run_honest run) sane
  have genuine := System.genuine_of_run run
  intro request member
  refine ⟨fun failure => ⟨?_, (agrees.logged.requests request member).intact failure⟩, ?_⟩
  · intro dropped
    have impossible := genuine request member
    rw [dropped] at impossible
    exact impossible
  · intro submission response standing
    have told := genuine request member
    rw [standing] at told
    obtain ⟨advanced, replayed, newRoot, tells⟩ := told
    have old := agrees.aligned.requests request member
    refine ⟨advanced, replayed, tells, old.recorded (old.confirmed (by rw [standing]; rfl)), ?_⟩
    rw [← newRoot]
    exact (agrees.logged.requests request member).committed submission (by rw [standing]; rfl)

/-! ## One request, undisturbed -/

/-- What the contract checks of the proof of a batch. -/
theorem Proved.accepted_iff {prevState advanced : State} {batch : Batch} {prove : ProveResponse}
    {submission : Submission} (proved : Proved prevState batch prove submission advanced)
    (rollup : Rollup) (verifyProof : VerifyProof) :
    (∃ answer, rollup.submitBatch verifyProof submission.publicValues submission.proof =
        .ok answer) ↔
      verifyProof rollup.programVKey submission.publicValues submission.proof = true ∧
        rollup.stateRoot = prevState.merkleRoot ∧ advanced.merkleRoot ≠ .zero 32 := by
  have decoded := PublicValues.abiDecode_abiEncode (.ofTransition prevState batch advanced)
  rw [← proved.publicValues] at decoded
  constructor
  · rintro ⟨⟨after, event⟩, accepted⟩
    obtain ⟨verified, values, read, prevRoot, newRoot, -, -⟩ := Rollup.submitBatch_ok.mp accepted
    rw [decoded] at read
    cases read
    exact ⟨verified, prevRoot.symm, newRoot⟩
  · rintro ⟨verified, level, newRoot⟩
    exact ⟨_, Rollup.submitBatch_ok.mpr
      ⟨verified, _, decoded, level.symm, newRoot, rfl, rfl⟩⟩

/-- The request gets a proof, the contract stands at the canonical root and takes
the proof, the new root is not zero, and the receipt arrives. -/
def Settles (prover : State → Batch → Except String ProveResponse) (l1 : Submission → RoundTrip)
    (rollup : Rollup) (verifyProof : VerifyProof) (sequencer : SequencerState) : Prop :=
  ∃ prove submission receipt,
    prover sequencer.canonicalState ⟨sequencer.mempool⟩ = .ok prove ∧
    decodeProof prove = .ok submission ∧ l1 submission = .mined receipt ∧
    verifyProof rollup.programVKey submission.publicValues submission.proof = true ∧
    rollup.stateRoot = sequencer.canonicalRoot ∧
    sequencer.speculativeState.merkleRoot ≠ .zero 32

/-- The state behind a settled request: everything pending is canonical. -/
def SequencerState.advanced (sequencer : SequencerState) : SequencerState where
  canonicalState := sequencer.speculativeState
  canonicalRoot := sequencer.speculativeState.merkleRoot
  speculativeState := sequencer.speculativeState
  mempool := []
  batchCount := sequencer.batchCount + 1

variable {sequencer : SequencerState} {prover : State → Batch → Except String ProveResponse}
  {l1 : Submission → RoundTrip} {rollup : Rollup} {verifyProof : VerifyProof}

theorem commitSettled_drained (consistent : sequencer.Consistent) (outcome : SettleOutcome) :
    (commitSettled ⟨sequencer.mempool⟩ sequencer.speculativeState.merkleRoot outcome).run
      sequencer.drainForBatch.2 = .ok () sequencer.advanced := by
  have committed := SequencerState.commitBatch_ok.mpr
    ⟨sequencer.speculativeState, (show sequencer.drainForBatch.2.canonicalState.applyAll
      (Batch.mk sequencer.mempool).txs = _ from consistent.pending), rfl, rfl⟩
  rw [commitSettled, EStateM.run_adaptExcept, committed]
  rfl

/-- Behind the service a request either settles everything pending or leaves the
state as it was. -/
theorem triggerBatch_all_or_nothing (consistent : sequencer.Consistent)
    (nonempty : sequencer.mempool ≠ [])
    (served : ServiceReply sequencer.canonicalState ⟨sequencer.mempool⟩
      (prover sequencer.canonicalState ⟨sequencer.mempool⟩))
    (fits : ∀ submission, (l1 submission).Fits rollup verifyProof submission) :
    (Settles prover l1 rollup verifyProof sequencer ∧
      ∃ response, (triggerBatch prover l1).run sequencer = .ok response sequencer.advanced ∧
        response.Tells sequencer.canonicalState ⟨sequencer.mempool⟩ sequencer.speculativeState ∧
        response.batchNumber = sequencer.batchCount + 1) ∨
    (¬ Settles prover l1 rollup verifyProof sequencer ∧
      ∃ failure, (triggerBatch prover l1).run sequencer = .error failure sequencer) := by
  have restored := (restore_drained_eq_iff sequencer).mpr consistent.pending
  rw [triggerBatch_run prover l1 nonempty]
  unfold Settles
  cases reply : prover sequencer.canonicalState ⟨sequencer.mempool⟩ with
  | error cause => exact Or.inr ⟨by simp, _, by rw [restored]⟩
  | ok prove =>
      rw [reply] at served
      obtain ⟨advanced, submission, decoded, proved⟩ := served.decodes
      obtain rfl := Except.ok.inj (consistent.pending.symm.trans proved.replayed)
      have accepted := proved.accepted_iff rollup verifyProof
      rw [← consistent.root] at accepted
      have told := fits submission
      simp only [Except.ok.injEq, decoded, exists_and_left, exists_eq_left']
      cases trip : l1 submission with
      | sendFailed cause =>
          exact Or.inr ⟨by simp, .internal (.submitBatchFailed (.send cause)),
            congrArg _ restored⟩
      | receiptFailed cause =>
          exact Or.inr ⟨by simp, .internal (.submitBatchFailed (.receipt cause)),
            congrArg _ restored⟩
      | mined receipt =>
          rw [trip] at told
          have decides := told.trans accepted
          cases answer : L1Client.submitBatch (.mined receipt) with
          | error cause =>
              have reverted : receipt.status ≠ true := by
                intro positive
                simp [L1Client.submitBatch, positive] at answer
              refine Or.inr ⟨?_, _, by rw [restored]⟩
              rintro ⟨-, -, checks⟩
              exact reverted (decides.mpr checks)
          | ok outcome =>
              have positive : receipt.status = true := by
                by_contra reverted
                simp [L1Client.submitBatch, reverted] at answer
              refine Or.inl ⟨⟨receipt, rfl, decides.mp positive⟩, ?_⟩
              simp only [proved.newRoot, commitSettled_drained consistent outcome]
              exact ⟨_, rfl, {
                txs := rfl
                prevRoot := proved.repeats.prevRoot
                newRoot := proved.repeats.newRoot
                batchHash := proved.repeats.batchHash }, rfl⟩

/-- A request behind the service that nothing interrupts, in any state that a run
of the system can reach. With nothing pending it is refused. Otherwise it settles
exactly if the exchange with the prover, the contract's checks and the receipt all
go through, and then everything that was pending is canonical and the answer says
so. In every other case the sequencer is as if the request had never been made. -/
theorem undisturbed_batch_settles_iff (genesis : Genesis) (start : State)
    (loaded : genesis.intoState = .ok start) (deployed : Rollup)
    (sameRoot : deployed.stateRoot = start.merkleRoot) (system : System)
    (run : Run System.step System.Served (System.initial start deployed) system)
    (sane : system.Sane start) (prover : State → Batch → Except String ProveResponse)
    (l1 : Submission → RoundTrip) (verifyProof : VerifyProof)
    (served : system.sequencer.mempool ≠ [] →
      ServiceReply system.sequencer.canonicalState ⟨system.sequencer.mempool⟩
        (prover system.sequencer.canonicalState ⟨system.sequencer.mempool⟩))
    (fits : ∀ submission, (l1 submission).Fits system.rollup verifyProof submission) :
    (system.sequencer.mempool = [] →
      (triggerBatch prover l1).run system.sequencer =
        .error (.badRequest .mempoolIsEmpty) system.sequencer ∧
      system.step .startBatch = some system) ∧
    (system.sequencer.mempool ≠ [] → ∃ final request,
      (ownEvents system.requests.length verifyProof
        (prover system.sequencer.canonicalState ⟨system.sequencer.mempool⟩) l1).foldlM
          System.step system = some final ∧
      final.requests = system.requests ++ [request] ∧
      (Settles prover l1 system.rollup verifyProof system.sequencer →
        final.sequencer = system.sequencer.advanced ∧
        ∃ response, request.Reports (.ok response final.sequencer) ∧
          response.Tells system.sequencer.canonicalState ⟨system.sequencer.mempool⟩
            system.sequencer.speculativeState ∧
          response.batchNumber = system.sequencer.batchCount + 1) ∧
      (¬ Settles prover l1 system.rollup verifyProof system.sequencer →
        final.sequencer = system.sequencer ∧
        ∃ failure, request.Reports (.error failure final.sequencer))) := by
  have sorted := Genesis.intoState_sorted loaded
  obtain ⟨ledger, follower, agrees, -, -⟩ :=
    System.agrees_of_run sorted sameRoot (System.run_honest run) sane
  constructor
  · intro empty
    refine ⟨triggerBatch_run_empty prover l1 empty, ?_⟩
    simp only [System.step, takeBatch_run, if_pos empty]
  · intro nonempty
    obtain ⟨final, request, ran, grown, sameSequencer, reports⟩ :=
      system.triggerBatch_uninterrupted prover l1 verifyProof nonempty fits
    refine ⟨final, request, ran, grown, ?_⟩
    unfold attempt at sameSequencer
    rcases triggerBatch_all_or_nothing agrees.aligned.consistent nonempty (served nonempty) fits with
      ⟨settles, response, answered, tells, number⟩ | ⟨not, failure, answered⟩
    · rw [answered] at sameSequencer reports
      refine ⟨fun _ => ⟨sameSequencer, response, ?_, tells, number⟩, fun not => absurd settles not⟩
      rw [sameSequencer]
      exact reports
    · rw [answered] at sameSequencer reports
      refine ⟨fun settles => absurd settles not, fun _ => ⟨sameSequencer, failure, ?_⟩⟩
      rw [sameSequencer]
      exact reports

end

namespace HappyPath

theorem served_reply : ServiceReply genesis ⟨[transfer]⟩ (.ok reply) :=
  ⟨sdk, sdk_documented, mockService, .answered id, by rw [prove_reply]; rfl⟩

theorem served_run_executed :
    Run System.step System.Served (System.initial genesis deployed) executed := by
  refine run_executed trivial trivial ?_ trivial trivial
  intro request found
  cases found
  exact served_reply

theorem executed_answered :
    [Event.arrive 0 (.receipt (.mined receipt)), .writeLock 0, .arrive 0 .readLock].foldlM
      System.step executed = some answered := by
  decide +kernel

theorem served_run_answered :
    Run System.step System.Served (System.initial genesis deployed) answered := by
  refine served_run_executed.trans (Run.of_events _ ?_ executed_answered)
  intro event member state
  rcases List.mem_cons.mp member with rfl | member
  · trivial
  · rcases List.mem_pair.mp member with rfl | rfl <;> trivial

/-- The L1 executes the call at once and its receipt arrives. -/
def prompt (submission : Submission) : RoundTrip :=
  .mined { receipt with
    status := (deployed.submitBatch (fun _ _ _ => true) submission.publicValues
      submission.proof).toBool }

theorem prompt_fits (submission : Submission) :
    (prompt submission).Fits deployed (fun _ _ _ => true) submission := by
  show Except.toBool _ = true ↔ _
  cases deployed.submitBatch (fun _ _ _ => true) submission.publicValues submission.proof with
  | error revert => simp [Except.toBool]
  | ok answer => simp [Except.toBool]

end HappyPath

open HappyPath in
theorem served_answers_are_true_happyPath :
    ∃ next, genesis.applyAll [transfer] = .ok next ∧
      hex0x settled.merkleRoot.bytes = hex0x next.merkleRoot.bytes := by
  obtain ⟨-, tells⟩ := served_answers_are_true genesisFile genesis (by decide +kernel) deployed rfl
    answered served_run_answered { free := by decide +kernel, room := by decide +kernel } _
    (List.mem_singleton.mpr rfl)
  obtain ⟨next, replayed, told, -, -⟩ := tells _ _ rfl
  exact ⟨next, replayed, told.newRoot⟩

open HappyPath in
/-- One transfer is pending, and everything goes through. -/
theorem undisturbed_batch_settles_iff_happyPath :
    Settles (fun _ _ => .ok reply) prompt deployed (fun _ _ _ => true) submitted.sequencer ∧
    ∃ (final : System) (request : BatchRequest),
      final.requests = submitted.requests ++ [request] ∧
      final.sequencer = submitted.sequencer.advanced ∧
      ∃ response, request.Reports (.ok response final.sequencer) ∧
        response.batchNumber = submitted.sequencer.batchCount + 1 := by
  have submits : Run System.step System.Served (System.initial genesis deployed) submitted :=
    .single ⟨.submitTx transferRequest, trivial, by decide +kernel⟩
  have goesThrough :
      Settles (fun _ _ => .ok reply) prompt deployed (fun _ _ _ => true) submitted.sequencer :=
    ⟨reply, submission, receipt, rfl, by decide +kernel, by decide +kernel, rfl, rfl,
      by decide +kernel⟩
  obtain ⟨-, runs⟩ := undisturbed_batch_settles_iff genesisFile genesis (by decide +kernel) deployed
    rfl submitted submits { free := by decide +kernel, room := by decide +kernel }
    (fun _ _ => .ok reply) prompt (fun _ _ _ => true) (fun _ => served_reply) prompt_fits
  obtain ⟨final, request, -, grown, settled, -⟩ := runs (by decide +kernel)
  obtain ⟨sameSequencer, response, reports, -, number⟩ := settled goesThrough
  exact ⟨goesThrough, final, request, grown, sameSequencer, response, reports, number⟩

end ZkRollup
