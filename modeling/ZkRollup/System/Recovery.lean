import ZkRollup.System.Agreement
import ZkRollup.System.Receipts
import ZkRollup.System.Uninterrupted

/-!
Contract: when a sequencer that is behind the L1 can still commit.

A commit takes over the next batch of the log, and only a request whose own call
has settled ever commits. So a sequencer that is behind waits for one request:
the one that still expects the receipt of its settled call, or has it. If that
request has given up or was dropped, or if somebody else settled the batch, no
event of any later run commits anything, and the two roots never meet again.

Owns: the exact condition, for lost receipts and foreign settlements alike.
-/

set_option autoImplicit false

namespace ZkRollup

open Foundation

/-- Its call has left for the L1, or may have. -/
def Phase.hasSent : Phase → Bool
  | .awaiting _ _ | .submitFailed _ | .confirmed _ _ _ | .committed _ _ _ | .answered _ _
  | .restored _ | .commitFailed _ | .cancelled => true
  | _ => false

/-- The call has settled, and the request has not given up on its receipt. -/
def BatchRequest.Hopeful (request : BatchRequest) : Prop :=
  request.l1 = .settled ∧
    ((∃ prove submission, request.phase = .awaiting prove submission) ∨
      ∃ prove submission outcome, request.phase = .confirmed prove submission outcome)

/-- Nothing is known to the L1 of a call that has not been sent. -/
def System.SentFirst (system : System) : Prop :=
  ∀ request ∈ system.requests, request.l1 ≠ .unsent → request.phase.hasSent = true

/-- A batch is left to commit, and every request it could be of has given up. -/
structure System.Blocked (system : System) : Prop where
  behind : system.commits.length < system.settledBatches.length
  gaveUp : ∀ request ∈ system.requests, request.outstanding = true → request.phase.gaveUp = true

section

variable [Primitives] {start ledger : State} {system next : System} {follower : Follower Batch}

/-! ## Sending comes first -/

omit [Primitives] in
theorem BatchRequest.Arrives.sentFirst {request moved : BatchRequest} {sequencer : SequencerState}
    {arrival : Arrival} (arrives : request.Arrives sequencer arrival moved)
    (sentFirst : request.l1 ≠ .unsent → request.phase.hasSent = true) :
    moved.l1 ≠ .unsent → moved.phase.hasSent = true := by
  intro known
  cases arrives with
  | proveFailed cause standing =>
      have sent := sentFirst known
      rw [standing] at sent
      cases sent
  | dropped prove failure standing malformed =>
      have sent := sentFirst known
      rw [standing] at sent
      cases sent
  | submitting prove submission standing decoded =>
      have sent := sentFirst known
      rw [standing] at sent
      cases sent
  | _ => rfl

theorem BatchRequest.WriteLocks.hasSent {request moved : BatchRequest}
    {sequencer after : SequencerState} (writes : request.WriteLocks sequencer moved after) :
    moved.phase.hasSent = true := by
  cases writes <;> rfl

namespace System

theorem SentFirst.step (sentFirst : system.SentFirst) {event : Event}
    (stepped : system.step event = some next) : next.SentFirst := by
  cases transition_of_step stepped with
  | unchanged => exact sentFirst
  | admitted => exact sentFirst
  | drained nonempty => exact forall_mem_concat sentFirst fun known => absurd rfl known
  | arrived index arrival request moved found arrives =>
      exact forall_mem_set sentFirst
        (arrives.sentFirst (sentFirst request (List.mem_of_getElem? found)))
  | locked index request moved sequencer found writes =>
      exact forall_mem_set sentFirst fun _ => writes.hasSent
  | settled index verifyProof request submission rollup event found standing accepted =>
      refine forall_mem_set sentFirst fun _ => ?_
      exact sentFirst request (List.mem_of_getElem? found) (by rw [standing]; nofun)
  | reverted index verifyProof request submission found standing =>
      refine forall_mem_set sentFirst fun _ => ?_
      exact sentFirst request (List.mem_of_getElem? found) (by rw [standing]; nofun)
  | foreignSettled => exact sentFirst

theorem sentFirst_of_run {rollup : Rollup} {allowed : System → Event → Prop}
    (run : Run System.step allowed (System.initial start rollup) system) : system.SentFirst := by
  refine run.always (fun request member => by cases member) ?_
  intro state event after sentFirst _ stepped
  exact sentFirst.step stepped

/-- An outstanding request gave up, or there is hope. -/
theorem Agrees.gaveUp_or_hopeful (agrees : system.Agrees start ledger)
    (sentFirst : system.SentFirst) {request : BatchRequest} (member : request ∈ system.requests)
    (outstanding : request.outstanding = true) :
    request.phase.gaveUp = true ∨ request.Hopeful := by
  simp only [BatchRequest.outstanding, Bool.and_eq_true, decide_eq_true_eq,
    Bool.not_eq_eq_eq_not, Bool.not_true] at outstanding
  obtain ⟨settled, uncommitted⟩ := outstanding
  have sent := sentFirst request member (by simp [settled])
  cases phase : request.phase with
  | awaiting prove submission => exact Or.inr ⟨settled, Or.inl ⟨prove, submission, phase⟩⟩
  | confirmed prove submission outcome =>
      exact Or.inr ⟨settled, Or.inr ⟨prove, submission, outcome, phase⟩⟩
  | submitFailed | restored | cancelled => exact Or.inl rfl
  | commitFailed failure => exact absurd phase ((agrees.logged.requests request member).intact failure)
  | committed | answered =>
      rw [phase] at uncommitted
      cases uncommitted
  | _ =>
      rw [phase] at sent
      cases sent

/-! ## No hope -/

omit [Primitives] in
theorem settledBatches_grow (grown : ∃ more, next.settlements = system.settlements ++ more) :
    system.settledBatches.length ≤ next.settledBatches.length := by
  obtain ⟨more, grown⟩ := grown
  unfold settledBatches
  rw [grown, nonemptyBatches_append, List.length_append]
  exact Nat.le_add_right _ _

theorem Agrees.behind_iff (agrees : system.Agrees start ledger)
    (follows : system.Follows follower) (sorted : start.Sorted) (sane : system.Sane start) :
    system.commits.length < system.settledBatches.length ↔
      system.sequencer.canonicalRoot ≠ system.rollup.stateRoot := by
  have counted := follower.taken_length
  have inside := follower.inside
  rw [follows.taken, committedBatches, List.length_map] at counted
  rw [Ne, agrees.canonicalRoot_eq_iff follows sorted sane, follower.ahead_eq_nil, ← counted,
    follows.log]
  rw [← counted, follows.log] at inside
  omega

theorem Blocked.canonical_ne (blocked : system.Blocked) (agrees : system.Agrees start ledger)
    (follows : system.Follows follower) (sorted : start.Sorted) (sane : system.Sane start) :
    system.sequencer.canonicalState ≠ ledger := by
  intro level
  refine (agrees.behind_iff follows sorted sane).mp blocked.behind ?_
  rw [agrees.aligned.consistent.root, agrees.aligned.tracks.root, level]

/-- A request that is about to commit would be one that has given up. -/
theorem Blocked.nothing_confirmed (blocked : system.Blocked) (agrees : system.Agrees start ledger)
    {request : BatchRequest} (member : request ∈ system.requests) {prove : ProveResponse}
    {submission : Submission} {outcome : SettleOutcome} :
    request.phase ≠ .confirmed prove submission outcome := by
  intro standing
  have outstanding := (agrees.aligned.confirmed_commits member standing).1
  have gaveUp := blocked.gaveUp request member outstanding
  rw [standing] at gaveUp
  cases gaveUp

omit [Primitives] in
theorem Blocked.replace (blocked : system.Blocked) {index : Nat} {moved : BatchRequest}
    (sameRequests : next.requests = system.requests.set index moved)
    (sameCommits : next.commits = system.commits)
    (grown : ∃ more, next.settlements = system.settlements ++ more)
    (gaveUp : moved.outstanding = true → moved.phase.gaveUp = true) : next.Blocked where
  behind := by
    rw [sameCommits]
    exact blocked.behind.trans_le (settledBatches_grow grown)
  gaveUp := by
    rw [sameRequests]
    exact forall_mem_set blocked.gaveUp gaveUp

/-- No step commits, and none brings hope: a call of this sequencer can settle
only on top of the canonical state, which the ledger has left behind. -/
theorem Blocked.step (blocked : system.Blocked) (agrees : system.Agrees start ledger)
    (follows : system.Follows follower) (sorted : start.Sorted) {event : Event}
    (stepped : system.step event = some next) (sane : next.Sane start) :
    next.Blocked ∧ next.commits = system.commits ∧
      next.sequencer.canonicalState = system.sequencer.canonicalState := by
  have before := Sane.inherited system event next stepped sane
  have grown := settlements_grow stepped
  cases transition_of_step stepped with
  | unchanged => exact ⟨blocked, rfl, rfl⟩
  | admitted request tx sequencer parsed accepted =>
      obtain ⟨extended, -, rfl⟩ := SequencerState.admission_ok.mp accepted
      exact ⟨⟨blocked.behind, blocked.gaveUp⟩, rfl, rfl⟩
  | drained nonempty =>
      exact ⟨⟨blocked.behind, forall_mem_concat blocked.gaveUp fun outstanding => by
        cases outstanding⟩, rfl, rfl⟩
  | arrived index arrival request moved found arrives =>
      refine ⟨blocked.replace rfl rfl grown fun outstanding => ?_, rfl, rfl⟩
      have gaveUp := blocked.gaveUp request (List.mem_of_getElem? found)
        (arrives.movesTo.outstanding outstanding)
      exact (arrives.still_gaveUp gaveUp).2
  | locked index request moved sequencer found writes =>
      have member := List.mem_of_getElem? found
      cases writes with
      | restored message standing =>
          exact ⟨blocked.replace rfl (List.append_nil _) grown fun _ => rfl, List.append_nil _,
            SequencerState.restoreMempool_canonicalState _ _⟩
      | committed prove submission outcome after standing commits =>
          exact absurd standing (blocked.nothing_confirmed agrees member)
      | commitFailed prove submission outcome after cause standing fails =>
          exact absurd standing (blocked.nothing_confirmed agrees member)
  | settled index verifyProof request submission rollup event found standing accepted =>
      have old := agrees.aligned.requests request (List.mem_of_getElem? found)
      have free := sane.free
      rw [hashed_concat] at free
      obtain ⟨snapshot, -⟩ :=
        agrees.aligned.settles (old.pending submission standing).programMain accepted free
      have level := State.Behind.antisymm agrees.aligned.behind (snapshot ▸ old.behind)
      exact absurd level (blocked.canonical_ne agrees follows sorted before)
  | reverted index verifyProof request submission found standing =>
      refine ⟨blocked.replace rfl rfl grown fun outstanding => ?_, rfl, rfl⟩
      cases outstanding
  | foreignSettled call rollup accepted =>
      exact ⟨⟨blocked.behind.trans_le (settledBatches_grow grown), blocked.gaveUp⟩, rfl, rfl⟩

theorem Blocked.run (blocked : system.Blocked) (agrees : system.Agrees start ledger)
    (follows : system.Follows follower) (sorted : start.Sorted)
    (run : Run System.step System.Honest system next) (sane : next.Sane start) :
    next.commits = system.commits ∧
      next.sequencer.canonicalState = system.sequencer.canonicalState ∧
      next.sequencer.canonicalRoot ≠ next.rollup.stateRoot := by
  have all : (∃ advanced later, next.Agrees start advanced ∧ next.Follows later) ∧
      next.Blocked ∧ next.commits = system.commits ∧
      next.sequencer.canonicalState = system.sequencer.canonicalState := by
    refine run.invariant (motive := fun reached =>
      (∃ advanced later, reached.Agrees start advanced ∧ reached.Follows later) ∧
        reached.Blocked ∧ reached.commits = system.commits ∧
        reached.sequencer.canonicalState = system.sequencer.canonicalState)
      Sane.inherited ⟨⟨ledger, follower, agrees, follows⟩, blocked, rfl, rfl⟩ ?_ sane
    rintro state event after ⟨⟨_, _, agrees, follows⟩, blocked, sameCommits, sameState⟩ honest
      stepped sane
    have before := Sane.inherited state event after stepped sane
    obtain ⟨advanced, agreesAfter⟩ := agrees.step honest stepped sane
    obtain ⟨later, -, followsAfter⟩ := follows.step agrees.chained agrees.aligned agrees.logged
      sorted before stepped
    obtain ⟨blockedAfter, keepsCommits, keepsState⟩ :=
      blocked.step agrees follows sorted stepped sane
    exact ⟨⟨advanced, later, agreesAfter, followsAfter⟩, blockedAfter,
      keepsCommits.trans sameCommits, keepsState.trans sameState⟩
  obtain ⟨⟨advanced, later, agreesAfter, followsAfter⟩, blockedAfter, sameCommits, sameState⟩ := all
  exact ⟨sameCommits, sameState,
    (agreesAfter.behind_iff followsAfter sorted sane).mp blockedAfter.behind⟩

/-! ## Hope -/

/-- Behind the receipt of a settled call the batch is committed. -/
theorem Agrees.step_commit (agrees : system.Agrees start ledger) {index : Nat}
    {request : BatchRequest} {prove : ProveResponse} {submission : Submission}
    {outcome : SettleOutcome} (found : system.requests[index]? = some request)
    (standing : request.phase = .confirmed prove submission outcome) :
    ∃ after, system.step (.writeLock index) = some after ∧
      after.settlements = system.settlements ∧
      after.commits = system.commits ++ [{ batch := request.batch, newRoot := submission.newRoot }] := by
  obtain ⟨-, -, advanced, -, -, succeeds⟩ :=
    agrees.aligned.confirmed_commits (List.mem_of_getElem? found) standing
  have committed : (commitSettled request.batch submission.newRoot outcome).run system.sequencer =
      .ok () (system.sequencer.committed advanced) := by
    rw [commitSettled, EStateM.run_adaptExcept, succeeds]
  have locks : request.writeLock system.sequencer =
      some ({ request with phase := .committed prove submission outcome },
        system.sequencer.committed advanced) := by
    simp only [BatchRequest.writeLock, standing, committed]
  refine ⟨{ system with
    sequencer := system.sequencer.committed advanced
    requests := system.requests.set index
      { request with phase := .committed prove submission outcome }
    commits := system.commits ++
      [{ batch := request.batch, newRoot := submission.newRoot }] }, ?_, rfl, rfl⟩
  simp [System.step, found, locks, BatchRequest.newCommit]

/-- The receipt of a settled call may arrive at any time. -/
theorem step_receipt {index : Nat} {request : BatchRequest} {prove : ProveResponse}
    {submission : Submission} (receipt : Receipt) (positive : receipt.status = true)
    (found : system.requests[index]? = some request) (settled : request.l1 = .settled)
    (standing : request.phase = .awaiting prove submission) :
    ∃ outcome middle, system.step (.arrive index (.receipt (.mined receipt))) = some middle ∧
      middle.requests[index]? =
        some { request with phase := .confirmed prove submission outcome } ∧
      middle.settlements = system.settlements ∧ middle.commits = system.commits := by
  have answers : request.l1.Answers (.mined receipt) := by
    rw [settled]
    show if receipt.status = true then _ else _
    rw [if_pos positive]
  have arrives := request.arrive_receipt system.sequencer (.mined receipt) standing answers
  cases answer : L1Client.submitBatch (.mined receipt) with
  | error message => simp [L1Client.submitBatch, positive] at answer
  | ok outcome =>
      rw [answer] at arrives
      refine ⟨outcome, { system with
        requests := system.requests.set index
          { request with phase := .confirmed prove submission outcome } }, ?_,
        List.getElem?_set_self (List.getElem?_eq_some_iff.mp found).1, rfl, rfl⟩
      simp [System.step, found, arrives, Phase.submitted]

theorem Sane.of_settlements (sane : system.Sane start)
    (same : next.settlements = system.settlements) : next.Sane start where
  free := by
    unfold hashed
    rw [same]
    exact sane.free
  room := same ▸ sane.room

/-- The events that are missing can come at once. -/
theorem Agrees.commit_of_hopeful (agrees : system.Agrees start ledger) (sane : system.Sane start)
    {request : BatchRequest} (member : request ∈ system.requests) (hopeful : request.Hopeful) :
    ∃ later newRoot, Run System.step System.Honest system later ∧ later.Sane start ∧
      later.commits = system.commits ++ [{ batch := request.batch, newRoot }] := by
  obtain ⟨index, found⟩ := List.getElem?_of_mem member
  obtain ⟨settled, ⟨prove, submission, standing⟩ | ⟨prove, submission, outcome, standing⟩⟩ := hopeful
  · let receipt : Receipt :=
      { txHash := .zero 32, status := true, gasUsed := 0, blockNumber := none }
    obtain ⟨outcome, middle, arrives, foundMiddle, sameSettlements, sameCommits⟩ :=
      step_receipt receipt rfl found settled standing
    have saneMiddle : middle.Sane start := sane.of_settlements sameSettlements
    have honest : system.Honest (.arrive index (.receipt (.mined receipt))) := trivial
    obtain ⟨advanced, agreesMiddle⟩ := agrees.step honest arrives saneMiddle
    obtain ⟨later, commits, keptSettlements, grown⟩ := agreesMiddle.step_commit foundMiddle rfl
    have orderly : middle.Honest (.writeLock index) := trivial
    exact ⟨later, submission.newRoot,
      (Relation.ReflTransGen.single ⟨_, honest, arrives⟩).tail ⟨_, orderly, commits⟩,
      saneMiddle.of_settlements keptSettlements, sameCommits ▸ grown⟩
  · obtain ⟨later, commits, sameSettlements, grown⟩ := agrees.step_commit found standing
    have orderly : system.Honest (.writeLock index) := trivial
    exact ⟨later, submission.newRoot, .single ⟨_, orderly, commits⟩,
      sane.of_settlements sameSettlements, grown⟩

end System

/-- A sequencer that is behind the L1 can commit another batch exactly if a
request still expects the receipt of its settled call, or has it. Otherwise
nothing is ever committed again and the two roots stay apart, whatever happens. -/
theorem commits_again_iff (genesis : Genesis) (start : State)
    (loaded : genesis.intoState = .ok start) (rollup : Rollup)
    (sameRoot : rollup.stateRoot = start.merkleRoot) (system : System)
    (run : Run System.step System.Honest (System.initial start rollup) system)
    (sane : system.Sane start)
    (behind : system.sequencer.canonicalRoot ≠ system.rollup.stateRoot) :
    ((∃ later, Run System.step System.Honest system later ∧ later.Sane start ∧
        later.commits ≠ system.commits) ↔
      ∃ request ∈ system.requests, request.Hopeful) ∧
    ((∀ request ∈ system.requests, ¬ request.Hopeful) →
      ∀ later, Run System.step System.Honest system later → later.Sane start →
        later.commits = system.commits ∧
        later.sequencer.canonicalState = system.sequencer.canonicalState ∧
        later.sequencer.canonicalRoot ≠ later.rollup.stateRoot) := by
  have sorted := Genesis.intoState_sorted loaded
  obtain ⟨ledger, follower, agrees, -, follows⟩ := System.agrees_of_run sorted sameRoot run sane
  have stays : (∀ request ∈ system.requests, ¬ request.Hopeful) →
      ∀ later, Run System.step System.Honest system later → later.Sane start →
        later.commits = system.commits ∧
        later.sequencer.canonicalState = system.sequencer.canonicalState ∧
        later.sequencer.canonicalRoot ≠ later.rollup.stateRoot := by
    intro hopeless later run' sane'
    have blocked : system.Blocked := {
      behind := (agrees.behind_iff follows sorted sane).mpr behind
      gaveUp := fun request member outstanding =>
        (agrees.gaveUp_or_hopeful (System.sentFirst_of_run run) member outstanding).resolve_right
          (hopeless request member) }
    exact blocked.run agrees follows sorted run' sane'
  refine ⟨⟨?_, ?_⟩, stays⟩
  · rintro ⟨later, run', sane', grown⟩
    by_contra hopeless
    push Not at hopeless
    exact grown (stays hopeless later run' sane').1
  · rintro ⟨request, member, hopeful⟩
    obtain ⟨later, newRoot, run', sane', grown⟩ := agrees.commit_of_hopeful sane member hopeful
    refine ⟨later, run', sane', ?_⟩
    rw [grown]
    simp

end

open HappyPath in
/-- The batch is settled and its receipt is still to come. -/
theorem commits_again_iff_happyPath :
    ∃ later, Run System.step System.Honest executed later ∧ later.commits ≠ [] := by
  have run : Run System.step System.Honest (System.initial genesis deployed) executed :=
    run_executed trivial trivial honest_reply trivial trivial
  have catches := commits_again_iff genesisFile genesis (by decide +kernel) deployed rfl executed run
    { free := by decide +kernel, room := by decide +kernel } (by decide +kernel)
  obtain ⟨later, run', -, grown⟩ := catches.1.mpr
    ⟨_, List.mem_singleton.mpr rfl, rfl, Or.inl ⟨reply, submission, rfl⟩⟩
  exact ⟨later, run', grown⟩

end ZkRollup
