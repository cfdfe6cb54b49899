import ZkRollup.Sequencer.Failures
import ZkRollup.System.Transitions

/-!
Contract: a request that nothing interrupts runs `trigger_batch` from top to
bottom.

The system cuts a `/batch` request where it releases the lock. Here the pieces
are put together again: the events of one request, with none of anybody else in
between, leave the sequencer and the request as the undivided function does, for
every answer of the prover and every round trip of the L1.
-/

set_option autoImplicit false

namespace ZkRollup

open Foundation

section

variable [Primitives]

omit [Primitives] in
/-- The receipt of a call tells what the rollup does with it. -/
def RoundTrip.Fits (rollup : Rollup) (verifyProof : VerifyProof) (submission : Submission) :
    RoundTrip → Prop
  | .mined receipt => receipt.status = true ↔ ∃ answer,
      rollup.submitBatch verifyProof submission.publicValues submission.proof = .ok answer
  | _ => True

/-! ## The events of one request -/

def l1Events (index : Nat) (verifyProof : VerifyProof) : RoundTrip → List Event
  | .sendFailed cause => [.arrive index (.sendFailed cause false)]
  | .receiptFailed cause => [.arrive index .sent, .arrive index (.receipt (.receiptFailed cause))]
  | .mined receipt =>
      [.arrive index .sent, .execute index verifyProof, .arrive index (.receipt (.mined receipt))]

/-- Up to the release of the last write lock. -/
def ownEvents (index : Nat) (verifyProof : VerifyProof) (reply : Except String ProveResponse)
    (l1 : Submission → RoundTrip) : List Event :=
  [.startBatch, .arrive index (.proverAnswer reply)] ++
    match reply with
    | .error _ => [.writeLock index]
    | .ok prove =>
        match decodeProof prove with
        | .error _ => []
        | .ok submission => l1Events index verifyProof (l1 submission) ++ [.writeLock index]

/-- The phase after `submit_batch` has returned. -/
def Phase.submitted (prove : ProveResponse) (submission : Submission) :
    Except SubmitError SettleOutcome → Phase
  | .error cause => .submitFailed cause
  | .ok outcome => .confirmed prove submission outcome

/-- The answer the request gives, on success after its read lock. -/
def BatchRequest.Reports (request : BatchRequest) :
    EStateM.Result ApiError SequencerState BatchResponse → Prop
  | .ok response sequencer => ∃ submission,
      request.arrive sequencer .readLock =
        some { request with phase := .answered submission response }
  | .error failure _ => request.phase = .restored failure ∨ request.phase = .dropped failure ∨
      request.phase = .commitFailed failure

omit [Primitives] in
theorem BatchRequest.arrive_receipt (request : BatchRequest) (sequencer : SequencerState)
    (answer : RoundTrip) {prove : ProveResponse} {submission : Submission}
    (standing : request.phase = .awaiting prove submission)
    (answers : request.l1.Answers answer) :
    request.arrive sequencer (.receipt answer) =
      some { request with
        phase := .submitted prove submission (L1Client.submitBatch answer) } := by
  simp only [BatchRequest.arrive, standing, if_pos answers]
  cases L1Client.submitBatch answer <;> rfl

namespace System

/-- The system with one more request. -/
def withRequest (system : System) (sequencer : SequencerState) (request : BatchRequest) : System :=
  { system with sequencer, requests := system.requests ++ [request] }

/-- What a drain puts in flight. -/
def drained (system : System) : BatchRequest where
  prevState := system.sequencer.canonicalState
  batch := ⟨system.sequencer.mempool⟩
  phase := .proving
  l1 := .unsent

variable (system : System) (sequencer : SequencerState) {request moved : BatchRequest}

theorem step_startBatch (nonempty : system.sequencer.mempool ≠ []) :
    system.step .startBatch =
      some (system.withRequest system.sequencer.drainForBatch.2 system.drained) := by
  simp only [step, takeBatch_run, if_neg nonempty]
  rfl

theorem step_arrive {arrival : Arrival} (arrives : request.arrive sequencer arrival = some moved) :
    (system.withRequest sequencer request).step (.arrive system.requests.length arrival) =
      some (system.withRequest sequencer moved) := by
  simp [step, withRequest, arrives]

theorem step_writeLock {after : SequencerState}
    (locks : request.writeLock sequencer = some (moved, after)) :
    (system.withRequest sequencer request).step (.writeLock system.requests.length) =
      some { system.withRequest after moved with
        commits := system.commits ++ moved.newCommit } := by
  simp [step, withRequest, locks]

theorem step_execute_ok (request : BatchRequest) {verifyProof : VerifyProof} {submission : Submission} {rollup : Rollup}
    {event : BatchSettled} (standing : request.l1 = .pending submission)
    (accepted : system.rollup.submitBatch verifyProof submission.publicValues submission.proof =
      .ok (rollup, event)) :
    (system.withRequest sequencer request).step (.execute system.requests.length verifyProof) =
      some (withRequest { system with
        rollup, settlements := system.settlements ++ [(request.prevState, request.batch)] }
        sequencer { request with l1 := .settled }) := by
  simp [step, withRequest, standing, accepted]

theorem step_execute_error (request : BatchRequest) {verifyProof : VerifyProof} {submission : Submission}
    {revert : RollupRevert} (standing : request.l1 = .pending submission)
    (reverted : system.rollup.submitBatch verifyProof submission.publicValues submission.proof =
      .error revert) :
    (system.withRequest sequencer request).step (.execute system.requests.length verifyProof) =
      some (system.withRequest sequencer { request with l1 := .reverted }) := by
  simp [step, withRequest, standing, reverted]

/-! ## The round trip -/

/-- From the decoded reply to the return of `submit_batch`. -/
theorem run_l1Events {prove : ProveResponse} {submission : Submission} {verifyProof : VerifyProof}
    (roundTrip : RoundTrip) (fits : roundTrip.Fits system.rollup verifyProof submission)
    (standing : request.phase = .submitting prove submission) :
    ∃ (base : System) (l1 : L1Status), base.requests = system.requests ∧
      (l1Events system.requests.length verifyProof roundTrip).foldlM step
          (system.withRequest sequencer request) =
        some (base.withRequest sequencer { request with
          phase := .submitted prove submission (L1Client.submitBatch roundTrip), l1 }) := by
  have sent : (system.withRequest sequencer request).step (.arrive system.requests.length .sent) =
      some (system.withRequest sequencer
        { request with phase := .awaiting prove submission, l1 := .pending submission }) :=
    system.step_arrive sequencer (by simp [BatchRequest.arrive, standing])
  cases roundTrip with
  | sendFailed cause =>
      refine ⟨system, .unsent, rfl, ?_⟩
      have failed : request.arrive sequencer (.sendFailed cause false) =
          some { request with phase := .submitFailed (.send cause), l1 := .unsent } := by
        simp [BatchRequest.arrive, standing]
      rw [l1Events, foldlM_cons_of_step (system.step_arrive sequencer failed)]
      rfl
  | receiptFailed cause =>
      refine ⟨system, .pending submission, rfl, ?_⟩
      have lost := BatchRequest.arrive_receipt
        { request with phase := .awaiting prove submission, l1 := .pending submission } sequencer
        (.receiptFailed cause) rfl trivial
      rw [l1Events, foldlM_cons_of_step sent,
        foldlM_cons_of_step (system.step_arrive sequencer lost)]
      rfl
  | mined receipt =>
      by_cases positive : receipt.status = true
      · rcases fits.mp positive with ⟨⟨rollup, event⟩, accepted⟩
        have settles := system.step_execute_ok sequencer
          { request with phase := .awaiting prove submission, l1 := .pending submission } rfl accepted
        have told := BatchRequest.arrive_receipt
          { request with phase := .awaiting prove submission, l1 := .settled } sequencer
          (.mined receipt) rfl (by simp [L1Status.Answers, positive])
        refine ⟨{ system with
          rollup, settlements := system.settlements ++ [(request.prevState, request.batch)] },
          .settled, rfl, ?_⟩
        rw [l1Events, foldlM_cons_of_step sent, foldlM_cons_of_step settles,
          foldlM_cons_of_step (System.step_arrive _ sequencer told)]
        rfl
      · cases executed : system.rollup.submitBatch verifyProof submission.publicValues
          submission.proof with
        | ok answer => exact absurd (fits.mpr ⟨answer, executed⟩) positive
        | error revert =>
            have reverts := system.step_execute_error sequencer
              { request with phase := .awaiting prove submission, l1 := .pending submission } rfl
              executed
            have told := BatchRequest.arrive_receipt
              { request with phase := .awaiting prove submission, l1 := .reverted } sequencer
              (.mined receipt) rfl (by simp [L1Status.Answers, positive])
            refine ⟨system, .reverted, rfl, ?_⟩
            rw [l1Events, foldlM_cons_of_step sent, foldlM_cons_of_step reverts,
              foldlM_cons_of_step (system.step_arrive sequencer told)]
            rfl

/-- The last write lock: restore, or commit. -/
theorem step_submitted {prove : ProveResponse} {submission : Submission}
    {answer : Except SubmitError SettleOutcome}
    (standing : request.phase = .submitted prove submission answer) :
    ∃ final moved,
      (system.withRequest sequencer request).step (.writeLock system.requests.length) = some final ∧
      final.requests = system.requests ++ [moved] ∧
      match answer with
      | .error cause =>
          final.sequencer = SequencerState.restoreMempool request.batch sequencer ∧
            moved.phase = .restored (.internal (.submitBatchFailed cause))
      | .ok outcome =>
          match (commitSettled request.batch submission.newRoot outcome).run sequencer with
          | .ok _ after => final.sequencer = after ∧
              moved = { request with phase := .committed prove submission outcome }
          | .error failure after => final.sequencer = after ∧ moved.phase = .commitFailed failure := by
  cases answer with
  | error cause =>
      have locks : request.writeLock sequencer =
          some ({ request with phase := .restored (.internal (.submitBatchFailed cause)) },
            SequencerState.restoreMempool request.batch sequencer) := by
        simp only [BatchRequest.writeLock, standing, Phase.submitted]
      exact ⟨_, _, system.step_writeLock sequencer locks, rfl, rfl, rfl⟩
  | ok outcome =>
      dsimp only
      cases ran : (commitSettled request.batch submission.newRoot outcome).run sequencer with
      | ok value after =>
          have locks : request.writeLock sequencer =
              some ({ request with phase := .committed prove submission outcome }, after) := by
            simp only [BatchRequest.writeLock, standing, Phase.submitted, ran]
          exact ⟨_, _, system.step_writeLock sequencer locks, rfl, rfl, rfl⟩
      | error failure after =>
          have locks : request.writeLock sequencer =
              some ({ request with phase := .commitFailed failure }, after) := by
            simp only [BatchRequest.writeLock, standing, Phase.submitted, ran]
          exact ⟨_, _, system.step_writeLock sequencer locks, rfl, rfl, rfl⟩

/-! ## The whole request -/

/-- The events of one request, with nothing in between, are `trigger_batch`. -/
theorem triggerBatch_uninterrupted (prover : State → Batch → Except String ProveResponse)
    (l1 : Submission → RoundTrip) (verifyProof : VerifyProof)
    (nonempty : system.sequencer.mempool ≠ [])
    (fits : ∀ submission, (l1 submission).Fits system.rollup verifyProof submission) :
    ∃ final request,
      (ownEvents system.requests.length verifyProof
        (prover system.sequencer.canonicalState ⟨system.sequencer.mempool⟩) l1).foldlM step system =
          some final ∧
      final.requests = system.requests ++ [request] ∧
      final.sequencer = (attempt (triggerBatch prover l1) system.sequencer).2 ∧
      request.Reports ((triggerBatch prover l1).run system.sequencer) := by
  have drains := system.step_startBatch nonempty
  unfold attempt
  rw [triggerBatch_run prover l1 nonempty]
  cases prover system.sequencer.canonicalState ⟨system.sequencer.mempool⟩ with
  | error cause =>
      have failed := system.step_arrive system.sequencer.drainForBatch.2
        (show system.drained.arrive system.sequencer.drainForBatch.2 (.proverAnswer (.error cause)) =
          some { system.drained with phase := .proveFailed cause } from rfl)
      have restores := system.step_writeLock system.sequencer.drainForBatch.2
        (show BatchRequest.writeLock { system.drained with phase := .proveFailed cause }
            system.sequencer.drainForBatch.2 =
          some ({ system.drained with phase := .restored (.internal (.proveFailed cause)) },
            system.sequencer.drainForBatch.2.restoreMempool ⟨system.sequencer.mempool⟩) from rfl)
      have ran := foldlM_cons_of_step drains
        [.arrive system.requests.length (.proverAnswer (.error cause)),
          .writeLock system.requests.length]
      rw [foldlM_cons_of_step failed, foldlM_cons_of_step restores] at ran
      exact ⟨_, _, ran, rfl, rfl, Or.inl rfl⟩
  | ok prove =>
      simp only [ownEvents]
      cases decoded : decodeProof prove with
      | error failure =>
          have dropped := system.step_arrive system.sequencer.drainForBatch.2
            (show system.drained.arrive system.sequencer.drainForBatch.2 (.proverAnswer (.ok prove)) =
              some { system.drained with phase := .dropped failure } by
                simp [BatchRequest.arrive, drained, decoded])
          have ran := foldlM_cons_of_step drains
            [.arrive system.requests.length (.proverAnswer (.ok prove))]
          rw [foldlM_cons_of_step dropped] at ran
          exact ⟨_, _, ran, rfl, rfl, Or.inr (Or.inl rfl)⟩
      | ok submission =>
          have decodes := system.step_arrive system.sequencer.drainForBatch.2
            (show system.drained.arrive system.sequencer.drainForBatch.2 (.proverAnswer (.ok prove)) =
              some { system.drained with phase := .submitting prove submission } by
                simp [BatchRequest.arrive, drained, decoded])
          rcases system.run_l1Events system.sequencer.drainForBatch.2
            (l1 submission) (fits submission)
            (show BatchRequest.phase { system.drained with phase := .submitting prove submission } =
              .submitting prove submission from rfl) with ⟨base, status, sameRequests, tripped⟩
          rcases base.step_submitted system.sequencer.drainForBatch.2
            (show BatchRequest.phase { system.drained with
                phase := .submitted prove submission (L1Client.submitBatch (l1 submission))
                l1 := status } = _ from rfl) with ⟨final, moved, locked, grown, outcome⟩
          rw [sameRequests] at locked grown
          have ran := (foldlM_cons_of_step drains
            (.arrive system.requests.length (.proverAnswer (.ok prove)) ::
              (l1Events system.requests.length verifyProof (l1 submission) ++
                [.writeLock system.requests.length]))).trans (foldlM_cons_of_step decodes _)
          rw [List.foldlM_append, tripped] at ran
          refine ⟨final, moved, ran.trans (foldlM_cons_of_step locked []), grown, ?_⟩
          dsimp only
          cases told : L1Client.submitBatch (l1 submission) with
          | error cause =>
              rw [told] at outcome
              exact ⟨outcome.1, Or.inl outcome.2⟩
          | ok settled =>
              rw [told] at outcome
              dsimp only [drained] at outcome ⊢
              cases committed : (commitSettled ⟨system.sequencer.mempool⟩ submission.newRoot settled).run
                system.sequencer.drainForBatch.2 with
              | ok value after =>
                  rw [committed] at outcome
                  rcases outcome with ⟨sameSequencer, rfl⟩
                  exact ⟨sameSequencer, submission, rfl⟩
              | error failure after =>
                  rw [committed] at outcome
                  exact ⟨outcome.1, Or.inr (Or.inr outcome.2)⟩

end System

end

end ZkRollup
