import ZkRollup.System.Model

/-!
Contract: what one step of the system can do.

The step function nests its matches as the code does. The relations below list
the outcomes instead, each with the guards that lead to it, and say all that a
step changes. Invariants are proved by cases on them and never unfold the step.
-/

set_option autoImplicit false

namespace ZkRollup

open Foundation

/-- The outcomes of an arrival. -/
inductive BatchRequest.Arrives (request : BatchRequest) (sequencer : SequencerState) :
    Arrival → BatchRequest → Prop where
  | proveFailed (cause : String) (standing : request.phase = .proving) :
      Arrives request sequencer (.proverAnswer (.error cause))
        { request with phase := .proveFailed cause }
  | dropped (prove : ProveResponse) (failure : ApiError) (standing : request.phase = .proving)
      (malformed : decodeProof prove = .error failure) :
      Arrives request sequencer (.proverAnswer (.ok prove)) { request with phase := .dropped failure }
  | submitting (prove : ProveResponse) (submission : Submission)
      (standing : request.phase = .proving) (decoded : decodeProof prove = .ok submission) :
      Arrives request sequencer (.proverAnswer (.ok prove))
        { request with phase := .submitting prove submission }
  | awaiting (prove : ProveResponse) (submission : Submission)
      (standing : request.phase = .submitting prove submission) :
      Arrives request sequencer .sent
        { request with phase := .awaiting prove submission, l1 := .pending submission }
  | sendFailed (prove : ProveResponse) (submission : Submission) (cause : String)
      (broadcast : Bool) (standing : request.phase = .submitting prove submission) :
      Arrives request sequencer (.sendFailed cause broadcast)
        { request with
          phase := .submitFailed (.send cause)
          l1 := if broadcast then .pending submission else .unsent }
  | submitFailed (prove : ProveResponse) (submission : Submission) (answer : RoundTrip)
      (cause : SubmitError) (standing : request.phase = .awaiting prove submission)
      (answers : request.l1.Answers answer)
      (failed : L1Client.submitBatch answer = .error cause) :
      Arrives request sequencer (.receipt answer) { request with phase := .submitFailed cause }
  | confirmed (prove : ProveResponse) (submission : Submission) (answer : RoundTrip)
      (outcome : SettleOutcome) (standing : request.phase = .awaiting prove submission)
      (answers : request.l1.Answers answer)
      (succeeded : L1Client.submitBatch answer = .ok outcome) :
      Arrives request sequencer (.receipt answer)
        { request with phase := .confirmed prove submission outcome }
  | answered (prove : ProveResponse) (submission : Submission) (outcome : SettleOutcome)
      (response : BatchResponse) (standing : request.phase = .committed prove submission outcome)
      (read : response = batchResponse request.batch.txs.length prove outcome sequencer) :
      Arrives request sequencer .readLock { request with phase := .answered submission response }
  | disconnected (prove : ProveResponse) (submission : Submission) (broadcast : Bool)
      (standing : request.phase = .submitting prove submission) :
      Arrives request sequencer (.disconnected broadcast)
        { request with
          phase := .cancelled
          l1 := if broadcast then .pending submission else .unsent }
  | cancelled (broadcast : Bool) (standing : request.phase.isOpen = true) :
      Arrives request sequencer (.disconnected broadcast) { request with phase := .cancelled }

theorem BatchRequest.arrives_of_arrive {request moved : BatchRequest} {sequencer : SequencerState}
    {arrival : Arrival} (arrived : request.arrive sequencer arrival = some moved) :
    request.Arrives sequencer arrival moved := by
  cases arrival with
  | proverAnswer reply =>
      simp only [arrive] at arrived
      split at arrived
      next cause standing =>
        cases arrived
        exact .proveFailed cause standing
      next prove standing =>
        split at arrived
        next failure malformed =>
          cases arrived
          exact .dropped prove failure standing malformed
        next submission decoded =>
          cases arrived
          exact .submitting prove submission standing decoded
      next => cases arrived
  | sent =>
      simp only [arrive] at arrived
      split at arrived
      next prove submission standing =>
        cases arrived
        exact .awaiting prove submission standing
      next => cases arrived
  | sendFailed cause broadcast =>
      simp only [arrive] at arrived
      split at arrived
      next prove submission standing =>
        cases arrived
        exact .sendFailed prove submission cause broadcast standing
      next => cases arrived
  | receipt answer =>
      simp only [arrive] at arrived
      split at arrived
      next prove submission standing =>
        split_ifs at arrived with answers
        split at arrived
        next cause failed =>
          cases arrived
          exact .submitFailed prove submission answer cause standing answers failed
        next outcome succeeded =>
          cases arrived
          exact .confirmed prove submission answer outcome standing answers succeeded
      next => cases arrived
  | readLock =>
      simp only [arrive] at arrived
      split at arrived
      next prove submission outcome standing =>
        cases arrived
        exact .answered prove submission outcome _ standing rfl
      next => cases arrived
  | disconnected broadcast =>
      simp only [arrive] at arrived
      split at arrived
      next prove submission standing =>
        cases arrived
        exact .disconnected prove submission broadcast standing
      next =>
        split_ifs at arrived with standing
        cases arrived
        exact .cancelled broadcast standing

section

variable [Primitives]

/-- The outcomes under the write lock. -/
inductive BatchRequest.WriteLocks (request : BatchRequest) (sequencer : SequencerState) :
    BatchRequest → SequencerState → Prop where
  | restored (message : Message)
      (standing : (∃ cause, request.phase = .proveFailed cause) ∨
        ∃ cause, request.phase = .submitFailed cause) :
      WriteLocks request sequencer { request with phase := .restored (.internal message) }
        (sequencer.restoreMempool request.batch)
  | committed (prove : ProveResponse) (submission : Submission) (outcome : SettleOutcome)
      (next : SequencerState) (standing : request.phase = .confirmed prove submission outcome)
      (commits : (SequencerState.commitBatch request.batch submission.newRoot).run sequencer =
        .ok () next) :
      WriteLocks request sequencer
        { request with phase := .committed prove submission outcome } next
  | commitFailed (prove : ProveResponse) (submission : Submission) (outcome : SettleOutcome)
      (next : SequencerState) (cause : CommitError)
      (standing : request.phase = .confirmed prove submission outcome)
      (fails : (SequencerState.commitBatch request.batch submission.newRoot).run sequencer =
        .error cause next) :
      WriteLocks request sequencer
        { request with phase := .commitFailed (.internal (.commitBatchFailed outcome.txHash cause)) }
        next

theorem BatchRequest.writeLocks_of_writeLock {request moved : BatchRequest}
    {sequencer next : SequencerState}
    (locked : request.writeLock sequencer = some (moved, next)) :
    request.WriteLocks sequencer moved next := by
  unfold writeLock at locked
  split at locked
  next cause standing =>
    cases locked
    exact .restored _ (.inl ⟨cause, standing⟩)
  next cause standing =>
    cases locked
    exact .restored _ (.inr ⟨cause, standing⟩)
  next prove submission outcome standing =>
    unfold commitSettled at locked
    rw [EStateM.run_adaptExcept] at locked
    cases answer : (SequencerState.commitBatch request.batch submission.newRoot).run sequencer with
    | ok value after =>
        rw [answer] at locked
        cases locked
        exact .committed prove submission outcome next standing answer
    | error cause after =>
        rw [answer] at locked
        cases locked
        exact .commitFailed prove submission outcome next cause standing answer
  next => cases locked

namespace System

/-- The outcomes of an event. -/
inductive Transition (system : System) : Event → System → Prop where
  | unchanged (event : Event) : Transition system event system
  | admitted (request : TxRequest) (tx : Tx) (sequencer : SequencerState)
      (parsed : request.intoTx = .ok tx) (accepted : system.sequencer.admission tx = .ok sequencer) :
      Transition system (.submitTx request)
        { system with sequencer, admitted := system.admitted ++ [tx] }
  | drained (nonempty : system.sequencer.mempool ≠ []) :
      Transition system .startBatch { system with
        sequencer := system.sequencer.drainForBatch.2
        requests := system.requests ++ [{
          prevState := system.sequencer.canonicalState
          batch := ⟨system.sequencer.mempool⟩
          phase := .proving
          l1 := .unsent }] }
  | arrived (index : Nat) (arrival : Arrival) (request moved : BatchRequest)
      (found : system.requests[index]? = some request)
      (arrives : request.Arrives system.sequencer arrival moved) :
      Transition system (.arrive index arrival)
        { system with requests := system.requests.set index moved }
  | locked (index : Nat) (request moved : BatchRequest) (sequencer : SequencerState)
      (found : system.requests[index]? = some request)
      (writes : request.WriteLocks system.sequencer moved sequencer) :
      Transition system (.writeLock index) { system with
        sequencer
        requests := system.requests.set index moved
        commits := system.commits ++ moved.newCommit }
  | settled (index : Nat) (verifyProof : VerifyProof) (request : BatchRequest)
      (submission : Submission) (rollup : Rollup) (event : BatchSettled)
      (found : system.requests[index]? = some request)
      (standing : request.l1 = .pending submission)
      (accepted : system.rollup.submitBatch verifyProof submission.publicValues submission.proof =
        .ok (rollup, event)) :
      Transition system (.execute index verifyProof) { system with
        rollup
        requests := system.requests.set index { request with l1 := .settled }
        settlements := system.settlements ++ [(request.prevState, request.batch)] }
  | reverted (index : Nat) (verifyProof : VerifyProof) (request : BatchRequest)
      (submission : Submission) (found : system.requests[index]? = some request)
      (standing : request.l1 = .pending submission) :
      Transition system (.execute index verifyProof)
        { system with requests := system.requests.set index { request with l1 := .reverted } }
  | foreignSettled (call : SettleCall) (rollup : Rollup)
      (accepted : call.submit system.rollup = .ok rollup) :
      Transition system (.foreignCall call) { system with
        rollup, settlements := system.settlements ++ [(call.prevState, call.batch)] }

theorem transition_of_step {system next : System} {event : Event}
    (stepped : system.step event = some next) : system.Transition event next := by
  cases event with
  | submitTx request =>
      simp only [step, submitTx_run] at stepped
      cases parsed : request.intoTx with
      | error failure =>
          rw [parsed] at stepped
          cases stepped
          exact .unchanged _
      | ok tx =>
          simp only [parsed] at stepped
          cases accepted : system.sequencer.admission tx with
          | error failure =>
              rw [accepted] at stepped
              cases stepped
              exact .unchanged _
          | ok sequencer =>
              rw [accepted] at stepped
              cases stepped
              exact .admitted request tx sequencer parsed accepted
  | startBatch =>
      simp only [step, takeBatch_run] at stepped
      by_cases empty : system.sequencer.mempool = []
      · rw [if_pos empty] at stepped
        cases stepped
        exact .unchanged _
      · rw [if_neg empty] at stepped
        cases stepped
        exact .drained empty
  | arrive index arrival =>
      simp only [step, bind, Option.bind_eq_some_iff] at stepped
      rcases stepped with ⟨request, found, moved, arrived, same⟩
      cases same
      exact .arrived index arrival request moved found (BatchRequest.arrives_of_arrive arrived)
  | writeLock index =>
      simp only [step, bind, Option.bind_eq_some_iff] at stepped
      rcases stepped with ⟨request, found, ⟨moved, sequencer⟩, locked, same⟩
      cases same
      exact .locked index request moved sequencer found
        (BatchRequest.writeLocks_of_writeLock locked)
  | execute index verifyProof =>
      simp only [step, bind, Option.bind_eq_some_iff] at stepped
      rcases stepped with ⟨request, found, executed⟩
      split at executed
      next submission standing =>
        split at executed
        next rollup event accepted =>
          cases executed
          exact .settled index verifyProof request submission rollup event found standing accepted
        next =>
          cases executed
          exact .reverted index verifyProof request submission found standing
      next => cases executed
  | foreignCall call =>
      simp only [step] at stepped
      cases accepted : call.submit system.rollup with
      | ok rollup =>
          rw [accepted] at stepped
          cases stepped
          exact .foreignSettled call rollup accepted
      | error revert =>
          rw [accepted] at stepped
          cases stepped
          exact .unchanged _

end System

end

end ZkRollup
