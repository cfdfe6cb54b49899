import ZkRollup.System.Commits

/-!
Contract: the canonical state keeps up with the L1 as long as no settled batch
looks like a failed one.

`L1Client::submit_batch` has one error for three situations: the call was never
sent, it reverted, or its receipt could not be retrieved. `trigger_batch` reads
all of them as "not settled" and restores the mempool. In the third situation
the call may have settled, or settle later. In the second one the batch may have
settled by another call with the same calldata. Then the canonical state stays
behind the L1 for good.

Owns: the condition on the L1 and on everybody else under which every settled
batch is committed, the run in which a receipt is lost, and what follows from it:
such a request blocks every later commit. That at most one batch is
behind at any time needs no such condition: see `System.Settlement`.
-/

set_option autoImplicit false

namespace ZkRollup

open Foundation

section

variable [Primitives]

/-! ## The environment -/

/-- The L1 settles a call only while its request waits for the receipt, or after
its handler was dropped, and no receipt of a settled call is lost. -/
def System.Truthful (system : System) : Event → Prop
  | .arrive index (.receipt (.receiptFailed _)) =>
      ∀ request, system.requests[index]? = some request → request.l1 ≠ .settled
  | .execute index verifyProof =>
      ∀ request submission, system.requests[index]? = some request →
        request.l1 = .pending submission →
        (∃ prove sent, request.phase = .awaiting prove sent) ∨ request.phase = .cancelled ∨
        ∃ revert, system.rollup.submitBatch verifyProof submission.publicValues submission.proof =
          .error revert
  | _ => True

/-- The handler still runs. -/
def Phase.isRunning : Phase → Bool
  | .answered _ _ | .restored _ | .dropped _ | .commitFailed _ | .cancelled => false
  | _ => true

/-- While a request runs, no call but its own settles its batch on its snapshot:
no copy of its calldata, no other proof of the batch, no other request that
carries the same one. -/
def System.Alone (system : System) : Prop :=
  ∀ request ∈ system.requests, request.phase.isRunning = true →
    request.settlement ∈ system.settlements → request.l1 = .settled

/-- Honest proofs, a truthful L1, and nobody who settles the same batch. -/
def System.Reliable (system : System) (event : Event) : Prop :=
  system.Honest event ∧ system.Truthful event ∧ system.Alone

/-! ## The invariant -/

/-- The phases in which a settled call can be. -/
def Phase.maySettle : Phase → Bool
  | .awaiting _ _ | .confirmed _ _ _ | .committed _ _ _ | .answered _ _ | .commitFailed _
  | .cancelled => true
  | _ => false

/-- The request has sent its answer. -/
def Phase.isReturned : Phase → Bool
  | .answered _ _ | .restored _ | .dropped _ | .commitFailed _ => true
  | _ => false

omit [Primitives] in
/-- Of the phases that answer, only two can be those of a settled call. -/
theorem Phase.answered_or_commitFailed {phase : Phase} (settles : phase.maySettle = true)
    (returned : phase.isReturned = true) :
    (∃ submission response, phase = .answered submission response) ∨
      ∃ failure, phase = .commitFailed failure := by
  cases phase with
  | answered submission response => exact Or.inl ⟨submission, response, rfl⟩
  | commitFailed failure => exact Or.inr ⟨failure, rfl⟩
  | awaiting | confirmed | committed | cancelled => cases returned
  | _ => cases settles

/-- `submit_batch` has returned an error, or nobody waits for it any more. -/
def Phase.gaveUp : Phase → Bool
  | .submitFailed _ | .restored _ | .cancelled => true
  | _ => false

omit [Primitives] in
theorem Phase.not_committed_of_gaveUp {phase : Phase} (gaveUp : phase.gaveUp = true) :
    phase.isCommitted = false := by
  cases phase with
  | submitFailed | restored | cancelled => rfl
  | _ => cases gaveUp

omit [Primitives] in
/-- Who has given up is only left alone, or dropped. -/
theorem BatchRequest.Arrives.still_gaveUp {request moved : BatchRequest}
    {sequencer : SequencerState} {arrival : Arrival}
    (arrives : request.Arrives sequencer arrival moved) (gaveUp : request.phase.gaveUp = true) :
    moved.l1 = request.l1 ∧ moved.phase.gaveUp = true := by
  cases arrives with
  | cancelled broadcast standing => exact ⟨rfl, rfl⟩
  | _ => simp only [*, Phase.gaveUp, Bool.false_eq_true] at gaveUp

/-- The answer of this request is given in this step. -/
def System.Returns (system next : System) (request : BatchRequest) : Prop :=
  ∃ (index : Nat) (before : BatchRequest), system.requests[index]? = some before ∧
    before.phase.isReturned = false ∧ next.requests[index]? = some request ∧
    request.phase.isReturned = true

/-- Answered `Ok`, with its batch committed on its snapshot. Its root is the
canonical root until the next commit. -/
def BatchRequest.Included (request : BatchRequest) (start : State) (system : System) : Prop :=
  ∃ submission response, request.phase = .answered submission response ∧
    ∃ before after,
      system.commits =
        before ++ { batch := request.batch, newRoot := submission.newRoot } :: after ∧
      start.applyAll (committedTxs before) = .ok request.prevState ∧
      (after = [] → system.sequencer.canonicalRoot = submission.newRoot)

/-- No settled call goes unheard. -/
def BatchRequest.Heard (request : BatchRequest) : Prop :=
  request.l1 = .settled → request.phase.maySettle = true

def System.Heard (system : System) : Prop :=
  ∀ request ∈ system.requests, request.Heard

variable {start : State} {system next : System}

/-! ## Requests -/

omit [Primitives] in
/-- An L1 error that is no lost receipt is a revert. -/
theorem L1Status.unsettled_of_answers {status : L1Status} {answer : RoundTrip}
    {cause : SubmitError} (answers : status.Answers answer)
    (failed : L1Client.submitBatch answer = .error cause)
    (found : ∀ text, answer = .receiptFailed text → status ≠ .settled) : status ≠ .settled := by
  cases answer with
  | sendFailed text => exact answers.elim
  | receiptFailed text => exact found text rfl
  | mined receipt =>
      by_cases positive : receipt.status = true
      · simp [L1Client.submitBatch, positive] at failed
      · change if receipt.status = true then status = .settled else status = .reverted at answers
        rw [if_neg positive] at answers
        rw [answers]
        intro settled
        cases settled

omit [Primitives] in
theorem BatchRequest.Arrives.heard {request moved : BatchRequest} {sequencer : SequencerState}
    {arrival : Arrival} (arrives : request.Arrives sequencer arrival moved)
    (heard : request.Heard)
    (truthful : ∀ text, arrival = .receipt (.receiptFailed text) → request.l1 ≠ .settled) :
    moved.Heard := by
  -- Before the call is sent nothing can have settled.
  have unsent : request.phase.maySettle = false → request.l1 ≠ .settled := by
    intro early settled
    rw [heard settled] at early
    cases early
  intro settled
  cases arrives with
  | proveFailed cause standing => exact absurd settled (unsent (by rw [standing]; rfl))
  | dropped prove failure standing malformed =>
      exact absurd settled (unsent (by rw [standing]; rfl))
  | submitting prove submission standing decoded =>
      exact absurd settled (unsent (by rw [standing]; rfl))
  | awaiting prove submission standing => cases settled
  | sendFailed prove submission cause broadcast standing => cases broadcast <;> cases settled
  | submitFailed prove submission answer cause standing answers failed =>
      refine absurd settled (L1Status.unsettled_of_answers answers failed ?_)
      intro text same
      exact truthful text (by rw [same])
  | confirmed prove submission answer outcome standing answers succeeded => rfl
  | answered prove submission outcome response standing read => rfl
  | disconnected prove submission broadcast standing => rfl
  | cancelled broadcast standing => rfl

theorem BatchRequest.WriteLocks.heard {request moved : BatchRequest}
    {sequencer after : SequencerState} (writes : request.WriteLocks sequencer moved after)
    (heard : request.Heard) : moved.Heard := by
  intro settled
  cases writes with
  | restored message standing =>
      have hopeful := heard settled
      rcases standing with ⟨cause, standing⟩ | ⟨cause, standing⟩ <;>
      · rw [standing] at hopeful
        cases hopeful
  | committed => rfl
  | commitFailed => rfl

/-! ## Steps and runs -/

namespace System

theorem Heard.step (heard : system.Heard) {event : Event} (truthful : system.Truthful event)
    (stepped : system.step event = some next) : next.Heard := by
  cases transition_of_step stepped with
  | unchanged => exact heard
  | admitted request tx sequencer parsed accepted => exact heard
  | drained nonempty =>
      refine forall_mem_concat heard ?_
      intro settled
      cases settled
  | arrived index arrival request moved found arrives =>
      refine forall_mem_set heard (arrives.heard (heard request (List.mem_of_getElem? found)) ?_)
      intro text same
      rw [same] at truthful
      exact truthful request found
  | locked index request moved sequencer found writes =>
      exact forall_mem_set heard (writes.heard (heard request (List.mem_of_getElem? found)))
  | settled index verifyProof request submission rollup event found standing accepted =>
      refine forall_mem_set heard ?_
      rcases truthful request submission found standing with
        ⟨prove, sent, waits⟩ | dropped | ⟨revert, failed⟩
      · intro
        show request.phase.maySettle = true
        rw [waits]
        rfl
      · intro
        show request.phase.maySettle = true
        rw [dropped]
        rfl
      · rw [accepted] at failed
        cases failed
  | reverted index verifyProof request submission found standing =>
      refine forall_mem_set heard ?_
      intro settled
      cases settled
  | foreignSettled call rollup accepted => exact heard

theorem heard_of_run (sorted : start.Sorted) {rollup : Rollup}
    (sameRoot : rollup.stateRoot = start.merkleRoot)
    (run : Run System.step System.Reliable (System.initial start rollup) system)
    (sane : system.Sane start) :
    (∃ ledger, system.Aligned start ledger) ∧ system.Logged start ∧ system.Heard := by
  refine run.invariant
    (motive := fun reached =>
      (∃ ledger, reached.Aligned start ledger) ∧ reached.Logged start ∧ reached.Heard)
    Sane.inherited ⟨⟨start, .initial sorted sameRoot⟩, .initial rollup, ?_⟩ ?_ sane
  · intro request member
    cases member
  · intro state event after both reliable stepped sane
    rcases both with ⟨⟨ledger, aligned⟩, logged, heard⟩
    exact ⟨aligned.step reliable.1 stepped sane, logged.step aligned stepped,
      heard.step reliable.2.1 stepped⟩

/-! ## Returns -/

/-- A settled request that has returned has its batch in the log. -/
theorem Heard.included (heard : system.Heard) (logged : system.Logged start)
    {request : BatchRequest} (member : request ∈ system.requests) (settled : request.l1 = .settled)
    (returned : request.phase.isReturned = true) : request.Included start system := by
  have own := logged.requests request member
  rcases Phase.answered_or_commitFailed (heard request member settled) returned with
    ⟨submission, response, standing⟩ | ⟨failure, standing⟩
  · rcases own.committed submission (by rw [standing]; rfl) with ⟨before, after, split, snapshot⟩
    refine ⟨submission, response, standing, before, after, split, snapshot, ?_⟩
    intro newest
    rw [newest] at split
    exact logged.last before _ split
  · exact absurd standing (own.intact failure)

omit [Primitives] in
theorem Heard.not_restored (heard : system.Heard) {request : BatchRequest}
    (member : request ∈ system.requests) {failure : ApiError}
    (standing : request.phase = .restored failure) : request.l1 ≠ .settled := by
  intro settled
  have hopeful := heard request member settled
  rw [standing] at hopeful
  cases hopeful

omit [Primitives] in
theorem Returns.of_set {request found moved : BatchRequest} (returns : system.Returns next request)
    {index : Nat} (foundHere : system.requests[index]? = some found)
    (sameRequests : next.requests = system.requests.set index moved) :
    request = moved ∧ found.phase.isReturned = false ∧ moved.phase.isReturned = true := by
  rcases returns with ⟨other, before, foundBefore, running, foundAfter, returned⟩
  rw [sameRequests] at foundAfter
  by_cases same : index = other
  · subst same
    rw [List.getElem?_set_self (List.getElem?_eq_some_iff.mp foundHere).1] at foundAfter
    cases foundAfter
    rw [foundHere] at foundBefore
    cases foundBefore
    exact ⟨rfl, running, returned⟩
  · rw [List.getElem?_set_ne same, foundBefore] at foundAfter
    cases foundAfter
    rw [running] at returned
    cases returned

omit [Primitives] in
/-- Requests that only grow in number do not return. -/
theorem Returns.not_of_append {request : BatchRequest} {fresh : List BatchRequest}
    (sameRequests : next.requests = system.requests ++ fresh) : ¬ system.Returns next request := by
  rintro ⟨index, before, foundBefore, running, foundAfter, returned⟩
  rw [sameRequests, List.getElem?_append_left (List.getElem?_eq_some_iff.mp foundBefore).1,
    foundBefore] at foundAfter
  cases foundAfter
  rw [running] at returned
  cases returned

/-- A request returns with what it had while it ran, and settles nothing. -/
theorem Returns.of_step {request : BatchRequest} (returns : system.Returns next request)
    {event : Event} (stepped : system.step event = some next) :
    ∃ before ∈ system.requests, before.phase.isRunning = true ∧
      request.settlement = before.settlement ∧ request.l1 = before.l1 ∧
      next.settlements = system.settlements := by
  have still : next.requests = system.requests → False := fun same =>
    Returns.not_of_append (same.trans (List.append_nil _).symm) returns
  cases transition_of_step stepped with
  | unchanged => exact (still rfl).elim
  | admitted request tx sequencer parsed accepted => exact (still rfl).elim
  | drained nonempty => exact (Returns.not_of_append rfl returns).elim
  | arrived index arrival request moved found arrives =>
      rcases returns.of_set found rfl with ⟨rfl, -, returned⟩
      refine ⟨request, List.mem_of_getElem? found, ?_⟩
      cases arrives with
      | dropped prove failure standing malformed => exact ⟨by rw [standing]; rfl, rfl, rfl, rfl⟩
      | answered prove submission outcome response standing read =>
          exact ⟨by rw [standing]; rfl, rfl, rfl, rfl⟩
      | _ => cases returned
  | locked index request moved sequencer found writes =>
      rcases returns.of_set found rfl with ⟨rfl, -, returned⟩
      refine ⟨request, List.mem_of_getElem? found, ?_⟩
      cases writes with
      | restored message standing =>
          rcases standing with ⟨cause, standing⟩ | ⟨cause, standing⟩ <;>
            exact ⟨by rw [standing]; rfl, rfl, rfl, rfl⟩
      | committed prove submission outcome after standing commits => cases returned
      | commitFailed prove submission outcome after cause standing fails =>
          exact ⟨by rw [standing]; rfl, rfl, rfl, rfl⟩
  | settled index verifyProof request submission rollup event found standing accepted =>
      rcases returns.of_set found rfl with ⟨-, running, returned⟩
      exact absurd returned (by rw [show _ = false from running]; exact Bool.false_ne_true)
  | reverted index verifyProof request submission found standing =>
      rcases returns.of_set found rfl with ⟨-, running, returned⟩
      exact absurd returned (by rw [show _ = false from running]; exact Bool.false_ne_true)
  | foreignSettled call rollup accepted => exact (still rfl).elim

/-! ## A settled call that was given up -/

/-- The call of this request has settled and its request has given up on it. -/
def Stuck (system : System) (index : Nat) : Prop :=
  ∃ request, system.requests[index]? = some request ∧ request.l1 = .settled ∧
    request.phase.gaveUp = true

variable {ledger : State} {index : Nat}

omit [Primitives] in
theorem Stuck.of_set_ne (stuck : system.Stuck index) {other : Nat} (different : other ≠ index)
    {moved : BatchRequest} (sameRequests : next.requests = system.requests.set other moved) :
    next.Stuck index := by
  rcases stuck with ⟨request, found, settled, gaveUp⟩
  refine ⟨request, ?_, settled, gaveUp⟩
  rw [sameRequests, List.getElem?_set_ne different]
  exact found

/-- A stuck request takes the one place for a batch that waits for its commit. -/
theorem Stuck.nothing_confirmed (stuck : system.Stuck index)
    (aligned : system.Aligned start ledger) {other : Nat} {request : BatchRequest}
    {prove : ProveResponse} {submission : Submission} {outcome : SettleOutcome}
    (found : system.requests[other]? = some request) :
    request.phase ≠ .confirmed prove submission outcome := by
  intro standing
  rcases stuck with ⟨lost, lostFound, settled, gaveUp⟩
  have waits := (aligned.confirmed_commits (List.mem_of_getElem? found) standing).1
  have same : other = index := by
    refine index_eq_of_countP_le_one aligned.unique found lostFound waits ?_
    unfold BatchRequest.outstanding
    rw [Phase.not_committed_of_gaveUp gaveUp]
    simp [settled]
  rw [same, lostFound] at found
  cases found
  rw [standing] at gaveUp
  cases gaveUp

/-- No event moves it on, and none commits anything. -/
theorem Stuck.step (stuck : system.Stuck index) (aligned : system.Aligned start ledger)
    {event : Event} (stepped : system.step event = some next) :
    next.Stuck index ∧ next.sequencer.canonicalState = system.sequencer.canonicalState ∧
      next.commits = system.commits := by
  have kept := stuck
  rcases kept with ⟨lost, lostFound, settled, gaveUp⟩
  cases transition_of_step stepped with
  | unchanged => exact ⟨stuck, rfl, rfl⟩
  | admitted request tx sequencer parsed accepted =>
      rcases SequencerState.admission_ok.mp accepted with ⟨extended, -, rfl⟩
      exact ⟨stuck, rfl, rfl⟩
  | drained nonempty =>
      have early := (List.getElem?_eq_some_iff.mp lostFound).1
      exact ⟨⟨lost, (List.getElem?_append_left early).trans lostFound, settled, gaveUp⟩, rfl, rfl⟩
  | arrived other arrival request moved found arrives =>
      by_cases same : other = index
      · rw [same, lostFound] at found
        cases found
        obtain ⟨sameStatus, stays⟩ := arrives.still_gaveUp gaveUp
        have early := (List.getElem?_eq_some_iff.mp lostFound).1
        rw [same]
        exact ⟨⟨moved, List.getElem?_set_self early, sameStatus.trans settled, stays⟩, rfl, rfl⟩
      · exact ⟨stuck.of_set_ne same rfl, rfl, rfl⟩
  | locked other request moved sequencer found writes =>
      cases writes with
      | restored message standing =>
          have sameState :=
            SequencerState.restoreMempool_canonicalState system.sequencer request.batch
          refine ⟨?_, sameState, List.append_nil _⟩
          by_cases same : other = index
          · rw [same, lostFound] at found
            cases found
            have early := (List.getElem?_eq_some_iff.mp lostFound).1
            rw [same]
            exact ⟨_, List.getElem?_set_self early, settled, rfl⟩
          · exact stuck.of_set_ne same rfl
      | committed prove submission outcome after standing commits =>
          exact absurd standing (stuck.nothing_confirmed aligned found)
      | commitFailed prove submission outcome after cause standing fails =>
          exact absurd standing (stuck.nothing_confirmed aligned found)
  | settled other verifyProof request submission rollup event found standing accepted =>
      refine ⟨stuck.of_set_ne ?_ rfl, rfl, rfl⟩
      intro same
      rw [same, lostFound] at found
      cases found
      rw [settled] at standing
      cases standing
  | reverted other verifyProof request submission found standing =>
      refine ⟨stuck.of_set_ne ?_ rfl, rfl, rfl⟩
      intro same
      rw [same, lostFound] at found
      cases found
      rw [settled] at standing
      cases standing
  | foreignSettled call rollup accepted => exact ⟨stuck, rfl, rfl⟩

/-- The sequencer stays behind for good: whatever happens after a settled call
was given up, nothing is committed any more. -/
theorem stuck_for_good (sorted : start.Sorted) {rollup : Rollup}
    (sameRoot : rollup.stateRoot = start.merkleRoot) {middle : System}
    (before : Run System.step System.Honest (System.initial start rollup) middle)
    (stuck : middle.Stuck index) (after : Run System.step System.Honest middle system)
    (sane : system.Sane start) :
    system.Stuck index ∧ system.sequencer.canonicalState = middle.sequencer.canonicalState ∧
      system.commits = middle.commits := by
  have aligned := aligned_of_run sorted sameRoot before (after.inherited Sane.inherited sane)
  have both : (∃ ledger, system.Aligned start ledger) ∧ system.Stuck index ∧
      system.sequencer.canonicalState = middle.sequencer.canonicalState ∧
      system.commits = middle.commits := by
    refine after.invariant
      (motive := fun reached => (∃ ledger, reached.Aligned start ledger) ∧
        reached.Stuck index ∧ reached.sequencer.canonicalState = middle.sequencer.canonicalState ∧
        reached.commits = middle.commits)
      Sane.inherited ⟨aligned, stuck, rfl, rfl⟩ ?_ sane
    rintro state event reached ⟨⟨ledger, aligned⟩, stuck, sameState, sameCommits⟩ honest stepped sane
    rcases stuck.step aligned stepped with ⟨stays, keepsState, keepsCommits⟩
    exact ⟨aligned.step honest stepped sane, stays, keepsState.trans sameState,
      keepsCommits.trans sameCommits⟩
  exact both.2

end System

/-- As long as no settled batch looks like a failed one: the canonical state is
the genesis with all committed batches. A request whose call has settled and that
has returned has its batch among them, and no request is restored whose call has
settled or ever will. At the moment at which a request returns this is so for its
batch, whoever may have settled it. -/
theorem canonical_keeps_up (genesis : Genesis) (start : State)
    (loaded : genesis.intoState = .ok start) (rollup : Rollup)
    (sameRoot : rollup.stateRoot = start.merkleRoot) (system : System)
    (run : Run System.step System.Reliable (System.initial start rollup) system)
    (sane : system.Sane start) :
    start.applyAll (committedTxs system.commits) = .ok system.sequencer.canonicalState ∧
    (∀ request ∈ system.requests, request.l1 = .settled → request.phase.isReturned = true →
      request.Included start system) ∧
    (∀ request ∈ system.requests, ∀ failure, request.phase = .restored failure →
      request.l1 ≠ .settled) ∧
    ∀ event next, system.Reliable event → system.step event = some next →
      ∀ request, system.Returns next request →
        (request.settlement ∈ next.settlements → request.Included start next) ∧
        ∀ failure, request.phase = .restored failure → request.settlement ∉ next.settlements := by
  rcases System.heard_of_run (Genesis.intoState_sorted loaded) sameRoot run sane with
    ⟨⟨ledger, aligned⟩, logged, heard⟩
  refine ⟨logged.chain, fun request => heard.included logged, fun request member failure =>
    heard.not_restored member, ?_⟩
  intro event next reliable stepped request returns
  have heardNext := heard.step reliable.2.1 stepped
  have loggedNext := logged.step aligned stepped
  rcases returns.of_step stepped with ⟨before, member, running, sameBatch, sameStatus, sameL1⟩
  have own : request.settlement ∈ next.settlements → request.l1 = .settled := by
    rw [sameL1, sameBatch, sameStatus]
    exact reliable.2.2 before member running
  rcases returns with ⟨index, -, -, -, found, returned⟩
  have stands := List.mem_of_getElem? found
  exact ⟨fun settled => heardNext.included loggedNext stands (own settled) returned,
    fun failure restored settled => heardNext.not_restored stands restored (own settled)⟩

end

namespace HappyPath

/-- The batch is committed and the request has its answer. -/
def answered : System where
  sequencer := {
    canonicalState := settled
    canonicalRoot := settled.merkleRoot
    speculativeState := settled
    mempool := []
    batchCount := 1 }
  rollup := deployedAfter
  requests := [{
    prevState := genesis
    batch := ⟨[transfer]⟩
    phase := .answered submission {
      batchNumber := 1
      txs := 1
      prevRoot := reply.prevRoot
      newRoot := reply.newRoot
      batchHash := reply.batchHash
      l1TxHash := hex0x outcome.txHash.bytes
      l1Block := 2
      gasUsed := 84000 }
    l1 := .settled }]
  admitted := [transfer]
  commits := [{ batch := ⟨[transfer]⟩, newRoot := settled.merkleRoot }]
  settlements := [(genesis, ⟨[transfer]⟩)]

/-- The batch is committed, and the answer is still to be read. -/
def unread : System :=
  { answered with requests := [{
      prevState := genesis
      batch := ⟨[transfer]⟩
      phase := .committed reply submission outcome
      l1 := .settled }] }

theorem truthful_awaiting (verifyProof : VerifyProof) :
    awaiting.Truthful (.execute 0 verifyProof) := by
  intro request sent found standing
  cases found
  exact Or.inl ⟨reply, submission, rfl⟩

/-- So far nothing has settled. -/
theorem alone_of_unsettled {system : System} (nothing : system.settlements = []) :
    system.Alone := by
  intro request member running settled
  rw [nothing] at settled
  cases settled

/-- So far only the request's own call has settled. -/
theorem alone_of_settled {system : System} {request : BatchRequest}
    (only : system.requests = [request]) (settled : request.l1 = .settled) : system.Alone := by
  intro other member running recorded
  rw [only] at member
  rw [List.mem_singleton.mp member]
  exact settled

theorem run_unread :
    Run System.step System.Reliable (System.initial genesis deployed) unread := by
  have settles : Run System.step System.Reliable (System.initial genesis deployed) executed :=
    run_executed ⟨trivial, trivial, alone_of_unsettled rfl⟩
      ⟨trivial, trivial, alone_of_unsettled rfl⟩ ⟨honest_reply, trivial, alone_of_unsettled rfl⟩
      ⟨trivial, trivial, alone_of_unsettled rfl⟩
      ⟨trivial, truthful_awaiting _, alone_of_unsettled rfl⟩
  have confirms := settles.tail ⟨.arrive 0 (.receipt (.mined receipt)),
    ⟨trivial, trivial, alone_of_settled rfl rfl⟩, confirmed_of_executed⟩
  exact confirms.tail ⟨.writeLock 0, ⟨trivial, trivial, alone_of_settled rfl rfl⟩,
    by decide +kernel⟩

/-- The receipt of the settled call is lost and the mempool restored. -/
def receiptLost : System :=
  { executed with
    sequencer := pending
    requests := [{
      prevState := genesis
      batch := ⟨[transfer]⟩
      phase := .restored (.internal (.submitBatchFailed (.receipt "timeout")))
      l1 := .settled }] }

end HappyPath

open HappyPath in
/-- The answer about the settled batch is read. -/
theorem canonical_keeps_up_happyPath :
    genesis.applyAll (committedTxs unread.commits) = .ok unread.sequencer.canonicalState ∧
    ∃ request ∈ answered.requests, request.settlement ∈ answered.settlements ∧
      request.Included genesis answered := by
  have keeps := canonical_keeps_up genesisFile genesis (by decide +kernel) deployed rfl unread
    run_unread { free := by decide +kernel, room := by decide +kernel }
  have reads : unread.step (.arrive 0 .readLock) = some answered := by decide +kernel
  have returns := keeps.2.2.2 (.arrive 0 .readLock) answered
    ⟨trivial, trivial, alone_of_settled rfl rfl⟩ reads _ ⟨0, _, rfl, rfl, rfl, rfl⟩
  exact ⟨keeps.1, _, List.mem_singleton.mpr rfl, List.mem_singleton.mpr rfl,
    returns.1 (List.mem_singleton.mpr rfl)⟩

open HappyPath in
/-- An honest prover, a lost receipt: the batch is settled and restored, and the
canonical root is not the one on the L1. -/
theorem lost_receipt_restores_settled_batch :
    Run System.step System.Honest (System.initial genesis deployed) receiptLost ∧
    (∃ request ∈ receiptLost.requests, request.l1 = .settled ∧ request.phase.isReturned = true ∧
      ∃ failure, request.phase = .restored failure) ∧
    receiptLost.sequencer.mempool = [transfer] ∧
    receiptLost.sequencer.canonicalState = genesis ∧
    receiptLost.sequencer.canonicalRoot ≠ settled.merkleRoot ∧
    receiptLost.rollup.stateRoot = settled.merkleRoot := by
  have settles : Run System.step System.Honest (System.initial genesis deployed) executed :=
    run_executed trivial trivial honest_reply trivial trivial
  refine ⟨settles.trans <| Run.of_events
    [.arrive 0 (.receipt (.receiptFailed "timeout")), .writeLock 0] (by simp [System.Honest])
    (by decide +kernel), ⟨_, List.mem_singleton.mpr rfl, rfl, rfl, _, rfl⟩, rfl, rfl, ?_, rfl⟩
  decide +kernel

end ZkRollup
