import ZkRollup.System.Requests

/-!
Contract: the sequencer's commits never diverge from the L1.

Nothing in the code keeps several batches from being in flight, all built on the
same snapshot. What keeps them apart is the contract's root together with the
nonces: every non-empty batch raises the sum of all nonces, so roots do not
recur, a snapshot that has been left behind can never settle again, and at most
one batch is settled without being committed. While it is, the canonical state
still is its snapshot.

The invariant relates three states: the ledger behind the on-chain root, the
canonical state, and the snapshots in flight, each behind the one before.

Does not own: what happens to a batch whose receipt is lost. It stays the one
settled and uncommitted batch for good, and no other ever settles.
-/

set_option autoImplicit false

namespace ZkRollup

open Foundation

section

variable [Primitives]

/-! ## The invariant -/

/-- A batch of this sequencer that somebody has settled, by the request's own
call or with a copy of its proof, and that no request has committed. -/
def System.Lagging (system : System) (settlement : State × Batch) : Prop :=
  settlement ∈ system.settlements ∧
    (∃ request ∈ system.requests, request.settlement = settlement) ∧
    ∀ request ∈ system.requests, request.settlement = settlement →
      request.phase.isCommitted = false

/-- A non-empty settlement leaves its previous state behind for good. -/
structure SettledOnce (settlements : List (State × Batch)) (ledger : State) : Prop where
  passed : ∀ settlement ∈ settlements, settlement.2.txs ≠ [] →
    settlement.1.nonceSum < ledger.nonceSum
  once : ∀ first ∈ settlements, ∀ second ∈ settlements, first.2.txs ≠ [] → second.2.txs ≠ [] →
    first.1 = second.1 → first = second

structure System.Aligned (start : State) (ledger : State) (system : System) : Prop where
  tracks : LedgerRoot system.rollup ledger
  ledgerHashed : ledger.rootPreimage ∈ system.hashed start
  settledOnce : SettledOnce system.settlements ledger
  consistent : system.sequencer.Consistent
  sorted : system.sequencer.canonicalState.Sorted
  behind : system.sequencer.canonicalState.Behind ledger
  requests : ∀ request ∈ system.requests,
    request.Aligned system.sequencer.canonicalState system.settlements
  waiting : ∀ request ∈ system.requests, request.outstanding = true →
    request.Waiting system.sequencer.canonicalState ledger
  unique : system.requests.countP BatchRequest.outstanding ≤ 1
  lagging : ∀ settlement, system.Lagging settlement →
    settlement.1 = system.sequencer.canonicalState

/-! ## The settlements -/

/-- One more settlement, from the ledger on. -/
theorem SettledOnce.settle {settlements : List (State × Batch)} {ledger advanced : State}
    {batch : Batch} (settledOnce : SettledOnce settlements ledger) (sorted : ledger.Sorted)
    (room : ∀ tx ∈ batch.txs, tx.NonceRoom)
    (replayed : ledger.applyAll batch.txs = .ok advanced) :
    SettledOnce (settlements ++ [(ledger, batch)]) advanced where
  passed := by
    apply forall_mem_concat
    · intro settlement member nonempty
      exact (settledOnce.passed settlement member nonempty).trans_le
        (sorted.behind room replayed).le
    · intro nonempty
      exact sorted.nonceSum_lt room nonempty replayed
  once := by
    -- Before this settlement every non-empty one was strictly behind the ledger.
    have fresh : ∀ settlement ∈ settlements, settlement.2.txs ≠ [] → settlement.1 ≠ ledger := by
      intro settlement member nonempty same
      have passed := settledOnce.passed settlement member nonempty
      rw [same] at passed
      exact Nat.lt_irrefl _ passed
    intro first firstMember second secondMember firstNonempty secondNonempty same
    rcases List.mem_append.mp firstMember with firstOld | firstNew
    · rcases List.mem_append.mp secondMember with secondOld | secondNew
      · exact settledOnce.once first firstOld second secondOld firstNonempty secondNonempty same
      · rw [List.mem_singleton.mp secondNew] at same
        exact absurd same (fresh first firstOld firstNonempty)
    · rw [List.mem_singleton.mp firstNew] at same
      rcases List.mem_append.mp secondMember with secondOld | secondNew
      · exact absurd same.symm (fresh second secondOld secondNonempty)
      · exact (List.mem_singleton.mp firstNew).trans (List.mem_singleton.mp secondNew).symm

variable {start ledger : State} {system next : System}

namespace System

omit [Primitives] in
/-- Nothing lags that did not lag before, as long as no batch is new and no
commit is undone. -/
theorem Lagging.of_requests {requests : List BatchRequest}
    (known : ∀ request ∈ requests, ∃ old ∈ system.requests,
      request.settlement = old.settlement)
    (kept : ∀ old ∈ system.requests, old.phase.isCommitted = true →
      ∃ request ∈ requests, request.settlement = old.settlement ∧
        request.phase.isCommitted = true)
    {settlement : State × Batch} (lagging : next.Lagging settlement)
    (sameRequests : next.requests = requests)
    (settled : settlement ∈ system.settlements) : system.Lagging settlement := by
  rcases lagging with ⟨-, ⟨request, member, same⟩, uncommitted⟩
  rw [sameRequests] at member uncommitted
  refine ⟨settled, ?_, ?_⟩
  · rcases known request member with ⟨old, oldMember, sameOld⟩
    exact ⟨old, oldMember, sameOld.symm.trans same⟩
  · intro old oldMember sameOld
    by_contra committed
    rcases kept old oldMember (by simpa using committed) with
      ⟨later, laterMember, sameLater, laterCommitted⟩
    rw [uncommitted later laterMember (sameLater.trans sameOld)] at laterCommitted
    cases laterCommitted

omit [Primitives] in
/-- One request moves on, or changes its call's status. -/
theorem Lagging.of_set {index : Nat} {request moved : BatchRequest}
    (found : system.requests[index]? = some request)
    (sameSettlement : moved.settlement = request.settlement)
    (committed : request.phase.isCommitted = true → moved.phase.isCommitted = true)
    {settlement : State × Batch} (lagging : next.Lagging settlement)
    (sameRequests : next.requests = system.requests.set index moved)
    (settled : settlement ∈ system.settlements) : system.Lagging settlement := by
  rcases perm_of_set found moved with ⟨others, before, after⟩
  refine lagging.of_requests ?_ ?_ sameRequests settled
  · exact forall_mem_set (fun other member => ⟨other, member, rfl⟩)
      ⟨request, List.mem_of_getElem? found, sameSettlement⟩
  · intro old member oldCommitted
    rcases List.mem_cons.mp (before.mem_iff.mp member) with same | other
    · rw [same] at oldCommitted ⊢
      exact ⟨moved, after.mem_iff.mpr (by simp), sameSettlement, committed oldCommitted⟩
    · exact ⟨old, after.mem_iff.mpr (by simp [other]), rfl, oldCommitted⟩

/-! ### Steps that leave the canonical state and the L1 alone -/

/-- A step that only moves requests along, or touches only the mempool and the
speculative state. -/
theorem Aligned.advance (aligned : system.Aligned start ledger)
    (sequencer : SequencerState) (consistent : sequencer.Consistent)
    (sameState : sequencer.canonicalState = system.sequencer.canonicalState)
    (requests : List BatchRequest)
    (all : ∀ request ∈ requests,
      request.Aligned system.sequencer.canonicalState system.settlements)
    (waiting : ∀ request ∈ requests, request.outstanding = true →
      request.Waiting system.sequencer.canonicalState ledger)
    (unique : requests.countP BatchRequest.outstanding ≤ 1)
    (lagging : ∀ settlement, System.Lagging { system with requests } settlement →
      settlement.1 = system.sequencer.canonicalState)
    (admitted : List Tx) (commits : List Commit) :
    System.Aligned start ledger
      { system with sequencer, requests, admitted, commits } where
  tracks := aligned.tracks
  ledgerHashed := aligned.ledgerHashed
  settledOnce := aligned.settledOnce
  consistent := consistent
  sorted := sameState ▸ aligned.sorted
  behind := sameState ▸ aligned.behind
  requests := sameState ▸ all
  waiting := sameState ▸ waiting
  unique := unique
  lagging := sameState ▸ lagging

/-- The same for one request that moves on. -/
theorem Aligned.replace (aligned : system.Aligned start ledger) {index : Nat}
    {request moved : BatchRequest} (found : system.requests[index]? = some request)
    (sequencer : SequencerState) (consistent : sequencer.Consistent)
    (sameState : sequencer.canonicalState = system.sequencer.canonicalState)
    (kept : moved.Aligned system.sequencer.canonicalState system.settlements)
    (moves : request.MovesTo moved) (commits : List Commit) :
    System.Aligned start ledger
      { system with sequencer, requests := system.requests.set index moved, commits } := by
  have member := List.mem_of_getElem? found
  refine aligned.advance sequencer consistent sameState (system.requests.set index moved) ?_ ?_ ?_
    ?_ system.admitted commits
  · exact forall_mem_set aligned.requests kept
  · apply forall_mem_set aligned.waiting
    intro outstanding
    have waits := aligned.waiting request member (moves.outstanding outstanding)
    have samePrev : moved.prevState = request.prevState := congrArg Prod.fst moves.settlement
    have sameBatch : moved.batch = request.batch := congrArg Prod.snd moves.settlement
    unfold BatchRequest.Waiting at waits ⊢
    rw [samePrev, sameBatch]
    exact waits
  · exact (countP_set_le found moves.outstanding).trans aligned.unique
  · intro settlement lagging
    exact aligned.lagging settlement
      (lagging.of_set found moves.settlement moves.committed rfl lagging.1)

theorem Aligned.admitted (aligned : system.Aligned start ledger) {tx : Tx}
    {sequencer : SequencerState} (accepted : system.sequencer.admission tx = .ok sequencer) :
    System.Aligned start ledger
      { system with sequencer, admitted := system.admitted ++ [tx] } := by
  have consistent := aligned.consistent.admission accepted
  rcases SequencerState.admission_ok.mp accepted with ⟨extended, -, rfl⟩
  exact aligned.advance _ consistent rfl system.requests aligned.requests aligned.waiting
    aligned.unique aligned.lagging _ system.commits

theorem Aligned.drained (aligned : system.Aligned start ledger)
    (nonempty : system.sequencer.mempool ≠ []) :
    System.Aligned start ledger { system with
      sequencer := system.sequencer.drainForBatch.2
      requests := system.requests ++ [{
        prevState := system.sequencer.canonicalState
        batch := ⟨system.sequencer.mempool⟩
        phase := .proving
        l1 := .unsent }] } := by
  refine aligned.advance _ aligned.consistent.drainForBatch rfl _ ?_ ?_ ?_ ?_ system.admitted
    system.commits
  · apply forall_mem_concat aligned.requests
    exact {
      nonempty := nonempty
      sorted := aligned.sorted
      behind := Or.inl rfl
      carried := fun submission carries => by cases carries
      pending := fun submission sent => by cases sent
      recorded := fun settled => by cases settled
      confirmed := fun confirmed => by cases confirmed }
  · apply forall_mem_concat aligned.waiting
    intro outstanding
    cases outstanding
  · rw [List.countP_append]
    exact aligned.unique
  · intro settlement lagging
    rcases lagging with ⟨settled, ⟨request, member, same⟩, uncommitted⟩
    rcases List.mem_append.mp member with old | isNew
    · exact aligned.lagging settlement ⟨settled, ⟨request, old, same⟩,
        fun other otherMember => uncommitted other (List.mem_append_left _ otherMember)⟩
    · rw [← same, List.mem_singleton.mp isNew]
      rfl

theorem Aligned.arrived (aligned : system.Aligned start ledger) {index : Nat} {arrival : Arrival}
    {request moved : BatchRequest} (found : system.requests[index]? = some request)
    (arrives : request.Arrives system.sequencer arrival moved)
    (honest : system.Honest (.arrive index arrival)) :
    System.Aligned start ledger { system with requests := system.requests.set index moved } := by
  have kept : moved.Aligned system.sequencer.canonicalState system.settlements := by
    apply arrives.aligned (aligned.requests request (List.mem_of_getElem? found))
    intro prove answer
    rw [answer] at honest
    exact honest request found
  exact aligned.replace found system.sequencer aligned.consistent rfl kept arrives.movesTo
    system.commits

/-- The L1 gives up on a call. -/
theorem Aligned.reverted (aligned : system.Aligned start ledger) {index : Nat}
    {request : BatchRequest} {submission : Submission}
    (found : system.requests[index]? = some request)
    (standing : request.l1 = .pending submission) :
    System.Aligned start ledger
      { system with requests := system.requests.set index { request with l1 := .reverted } } := by
  have old := aligned.requests request (List.mem_of_getElem? found)
  exact aligned.replace found system.sequencer aligned.consistent rfl (old.revert standing) {
    settlement := rfl
    outstanding := fun outstanding => by cases outstanding
    committed := id } system.commits

/-! ### Settlements -/

/-- An accepted proof starts from the ledger, whoever sends it. -/
theorem Aligned.settles (aligned : system.Aligned start ledger) {prevState : State} {batch : Batch}
    {verifyProof : VerifyProof} {publicValues proofBytes : Bytes} {rollup : Rollup}
    {event : BatchSettled} (proved : programMain prevState batch = .committed publicValues)
    (accepted : system.rollup.submitBatch verifyProof publicValues proofBytes =
      .ok (rollup, event))
    (free : CollisionFree keccak256
      (system.hashed start ++ rootPreimages prevState batch)) :
    prevState = ledger ∧ ∃ advanced, ledger.applyAll batch.txs = .ok advanced ∧
      LedgerRoot rollup advanced :=
  aligned.tracks.settle free (List.mem_append_left _ aligned.ledgerHashed)
    (List.mem_append_right _ (by simp [rootPreimages])) proved accepted

/-- The ledger advances by a settled batch. What is left to say is which
requests now wait for their commit. -/
theorem Aligned.settle (aligned : system.Aligned start ledger) {advanced : State} {batch : Batch}
    {rollup : Rollup} {requests : List BatchRequest}
    (replayed : ledger.applyAll batch.txs = .ok advanced) (tracks : LedgerRoot rollup advanced)
    (room : ∀ tx ∈ batch.txs, tx.NonceRoom)
    (all : ∀ request ∈ requests,
      request.Aligned system.sequencer.canonicalState (system.settlements ++ [(ledger, batch)]))
    (waiting : ∀ request ∈ requests, request.outstanding = true →
      request.Waiting system.sequencer.canonicalState advanced)
    (unique : requests.countP BatchRequest.outstanding ≤ 1)
    (older : ∀ settlement ∈ system.settlements,
      System.Lagging { system with
        rollup, requests, settlements := system.settlements ++ [(ledger, batch)] } settlement →
      system.Lagging settlement) :
    System.Aligned start advanced { system with
      rollup, requests, settlements := system.settlements ++ [(ledger, batch)] } where
  tracks := tracks
  ledgerHashed := by
    simp only [System.hashed, List.flatMap_append, List.mem_cons, List.mem_append]
    refine Or.inr (Or.inr ?_)
    simpa using newRootPreimage_mem replayed
  settledOnce := aligned.settledOnce.settle aligned.tracks.sorted room replayed
  consistent := aligned.consistent
  sorted := aligned.sorted
  behind := aligned.behind.trans (aligned.tracks.sorted.behind room replayed)
  requests := all
  waiting := waiting
  unique := unique
  lagging := by
    intro settlement lagging
    rcases List.mem_append.mp lagging.1 with old | isNew
    · exact aligned.lagging settlement (older settlement old lagging)
    · -- The snapshot of the settled batch was the ledger, so nothing lay in between.
      rcases lagging.2.1 with ⟨request, member, same⟩
      have snapshot := (all request member).behind
      have samePrev : request.prevState = settlement.1 := congrArg Prod.fst same
      rw [List.mem_singleton.mp isNew] at samePrev ⊢
      rw [samePrev] at snapshot
      exact State.Behind.antisymm snapshot aligned.behind

/-- While the ledger is the canonical state, nothing waits for its commit. -/
theorem Aligned.none_outstanding (aligned : system.Aligned start ledger)
    (sane : system.Sane start) (level : system.sequencer.canonicalState = ledger) :
    system.requests.countP BatchRequest.outstanding = 0 := by
  apply List.countP_eq_zero.mpr
  intro request member outstanding
  have old := aligned.requests request member
  rcases aligned.waiting request member outstanding with ⟨-, result, replayed, resultBehind⟩
  have settled : request.l1 = .settled := by
    simp only [BatchRequest.outstanding, Bool.and_eq_true, decide_eq_true_eq] at outstanding
    exact outstanding.1
  have room := sane.room request.settlement (old.recorded settled)
  have grown := aligned.sorted.nonceSum_lt room old.nonempty replayed
  have passed := resultBehind.le
  rw [level] at grown
  omega

/-- The L1 settles a call of this sequencer. -/
theorem Aligned.settled (aligned : system.Aligned start ledger) {index : Nat}
    {verifyProof : VerifyProof} {request : BatchRequest} {submission : Submission}
    {rollup : Rollup} {event : BatchSettled} (found : system.requests[index]? = some request)
    (standing : request.l1 = .pending submission)
    (accepted : system.rollup.submitBatch verifyProof submission.publicValues submission.proof =
      .ok (rollup, event))
    (sane : System.Sane start { system with
      rollup
      requests := system.requests.set index { request with l1 := .settled }
      settlements := system.settlements ++ [(request.prevState, request.batch)] })
    (before : system.Sane start) :
    ∃ advanced, System.Aligned start advanced { system with
      rollup
      requests := system.requests.set index { request with l1 := .settled }
      settlements := system.settlements ++ [(request.prevState, request.batch)] } := by
  have member := List.mem_of_getElem? found
  have old := aligned.requests request member
  have honest := old.pending submission standing
  have free := sane.free
  rw [hashed_concat] at free
  rcases aligned.settles honest.programMain accepted free with
    ⟨rfl, advanced, replayed, tracks⟩
  have room : ∀ tx ∈ request.batch.txs, tx.NonceRoom :=
    sane.room (request.prevState, request.batch) (by simp)
  -- The canonical state lies between the snapshot and the ledger, which are one.
  have level := State.Behind.antisymm aligned.behind old.behind
  have nothing := aligned.none_outstanding before level
  refine ⟨advanced, aligned.settle replayed tracks room ?_ ?_ ?_ ?_⟩
  · exact forall_mem_set (fun other otherMember =>
      (aligned.requests other otherMember).mono (List.subset_append_left _ _)) old.settle
  · apply forall_mem_set
    · intro other otherMember outstanding
      exact absurd outstanding (List.countP_eq_zero.mp nothing other otherMember)
    · intro
      exact ⟨level.symm, advanced, level ▸ replayed, Or.inl rfl⟩
  · exact (countP_set_le_succ found _).trans (Nat.succ_le_succ (Nat.le_of_eq nothing))
  · intro settlement settled lagging
    refine Lagging.of_set found ?_ ?_ lagging rfl settled
    · rfl
    · exact id

/-- The L1 settles a call of anybody else. -/
theorem Aligned.foreignSettled (aligned : system.Aligned start ledger) {call : SettleCall}
    {rollup : Rollup} (accepted : call.submit system.rollup = .ok rollup)
    (honest : call.Sound system.rollup.programVKey)
    (sane : System.Sane start { system with
      rollup, settlements := system.settlements ++ [(call.prevState, call.batch)] }) :
    ∃ advanced, System.Aligned start advanced { system with
      rollup, settlements := system.settlements ++ [(call.prevState, call.batch)] } := by
  rcases SettleCall.submit_ok.mp accepted with ⟨event, accepted⟩
  have proved := honest (Rollup.submitBatch_ok.mp accepted).1
  have free := sane.free
  rw [hashed_concat start system rollup system.requests] at free
  rcases aligned.settles proved accepted free with ⟨samePrev, advanced, replayed, tracks⟩
  have room : ∀ tx ∈ call.batch.txs, tx.NonceRoom :=
    sane.room (call.prevState, call.batch) (by simp)
  refine ⟨advanced, ?_⟩
  rw [samePrev]
  refine aligned.settle replayed tracks room ?_ ?_ aligned.unique ?_
  · intro request member
    exact (aligned.requests request member).mono (List.subset_append_left _ _)
  · intro request member outstanding
    exact (aligned.waiting request member outstanding).later
      (aligned.tracks.sorted.behind room replayed)
  · intro settlement settled lagging
    exact ⟨settled, lagging.2⟩

/-! ### Commits -/

/-- Of the batches built on the canonical state only one has settled, and only
that one lags. -/
theorem Aligned.lagging_eq (aligned : system.Aligned start ledger) {request : BatchRequest}
    (member : request ∈ system.requests) (recorded : request.settlement ∈ system.settlements)
    (level : system.sequencer.canonicalState = request.prevState) {settlement : State × Batch}
    (lagging : system.Lagging settlement) : settlement = request.settlement := by
  rcases lagging.2.1 with ⟨other, otherMember, same⟩
  have nonempty : settlement.2.txs ≠ [] := by
    rw [← same]
    exact (aligned.requests other otherMember).nonempty
  exact aligned.settledOnce.once settlement lagging.1 request.settlement recorded nonempty
    (aligned.requests request member).nonempty ((aligned.lagging settlement lagging).trans level)

theorem Aligned.lagging_unique (aligned : system.Aligned start ledger)
    {first second : State × Batch} (firstLagging : system.Lagging first)
    (secondLagging : system.Lagging second) : first = second := by
  rcases secondLagging.2.1 with ⟨request, member, rfl⟩
  exact aligned.lagging_eq member secondLagging.1
    (aligned.lagging request.settlement secondLagging).symm firstLagging

/-- A confirmed request waits for its commit, and the commit returns `Ok`. -/
theorem Aligned.confirmed_commits (aligned : system.Aligned start ledger) {request : BatchRequest}
    (member : request ∈ system.requests) {prove : ProveResponse} {submission : Submission}
    {outcome : SettleOutcome} (standing : request.phase = .confirmed prove submission outcome) :
    request.outstanding = true ∧ system.sequencer.canonicalState = request.prevState ∧
      ∃ advanced, system.sequencer.canonicalState.applyAll request.batch.txs = .ok advanced ∧
        advanced.Behind ledger ∧
        (SequencerState.commitBatch request.batch submission.newRoot).run system.sequencer =
          .ok () (system.sequencer.committed advanced) := by
  have old := aligned.requests request member
  have settled := old.confirmed (by rw [standing]; rfl)
  have outstanding : request.outstanding = true := by
    simp [BatchRequest.outstanding, settled, standing, Phase.isCommitted]
  rcases aligned.waiting request member outstanding with
    ⟨samePrev, advanced, replayed, resultBehind⟩
  rcases old.carried submission (by rw [standing]; rfl) with ⟨result, proved, -, newRoot⟩
  rw [samePrev, replayed] at proved
  cases proved
  exact ⟨outstanding, samePrev.symm, advanced, replayed, resultBehind,
    SequencerState.commitBatch_ok.mpr ⟨advanced, replayed, newRoot.symm, rfl⟩⟩

theorem Aligned.commit_not_failing (aligned : system.Aligned start ledger)
    {request : BatchRequest} (member : request ∈ system.requests) {prove : ProveResponse}
    {submission : Submission} {outcome : SettleOutcome}
    (standing : request.phase = .confirmed prove submission outcome) {cause : CommitError}
    {after : SequencerState} :
    (SequencerState.commitBatch request.batch submission.newRoot).run system.sequencer ≠
      .error cause after := by
  rcases aligned.confirmed_commits member standing with ⟨-, -, advanced, -, -, succeeds⟩
  rw [succeeds]
  nofun

theorem Aligned.committed (aligned : system.Aligned start ledger) (sane : system.Sane start)
    {index : Nat} {request : BatchRequest} {prove : ProveResponse} {submission : Submission}
    {outcome : SettleOutcome} {after : SequencerState}
    (found : system.requests[index]? = some request)
    (standing : request.phase = .confirmed prove submission outcome)
    (commits : (SequencerState.commitBatch request.batch submission.newRoot).run system.sequencer =
      .ok () after) (log : List Commit) :
    System.Aligned start ledger { system with
      sequencer := after
      requests := system.requests.set index
        { request with phase := .committed prove submission outcome }
      commits := log } := by
  have member := List.mem_of_getElem? found
  have old := aligned.requests request member
  have consistent := SequencerState.commitBatch_consistent commits
  rcases aligned.confirmed_commits member standing with
    ⟨outstanding, level, advanced, replayed, resultBehind, succeeds⟩
  rw [succeeds] at commits
  cases commits
  have settled := old.confirmed (by rw [standing]; rfl)
  have room := sane.room request.settlement (old.recorded settled)
  have grown : system.sequencer.canonicalState.Behind advanced :=
    aligned.sorted.behind room replayed
  have nothing : (system.requests.set index
      { request with phase := .committed prove submission outcome }).countP
        BatchRequest.outstanding = 0 := by
    have fewer := countP_set_add_one found outstanding
      (BatchRequest.outstanding_committed request prove submission outcome)
    have unique := aligned.unique
    omega
  exact {
    tracks := aligned.tracks
    ledgerHashed := aligned.ledgerHashed
    settledOnce := aligned.settledOnce
    consistent := consistent
    sorted := aligned.sorted.applyAll replayed
    behind := resultBehind
    requests := by
      refine forall_mem_set
        (fun other otherMember => (aligned.requests other otherMember).later grown)
        ((old.enter _ ?_ fun _ => settled).later grown)
      intro carried same
      cases same
      exact old.carried submission (by rw [standing]; rfl)
    waiting := fun other otherMember outstanding =>
      absurd outstanding (List.countP_eq_zero.mp nothing other otherMember)
    unique := nothing ▸ Nat.zero_le 1
    lagging := by
      -- What lagged before was this batch, which is committed now.
      intro settlement lagging
      have before : system.Lagging settlement := by
        refine Lagging.of_set found ?_ ?_ lagging rfl lagging.1
        · rfl
        · exact fun _ => rfl
      have sameBatch := aligned.lagging_eq member (old.recorded settled) level before
      have uncommitted := lagging.2.2
        { request with phase := .committed prove submission outcome }
        (List.mem_set (List.getElem?_eq_some_iff.mp found).1 _) sameBatch.symm
      cases uncommitted }

theorem Aligned.locked (aligned : system.Aligned start ledger) (sane : system.Sane start)
    {index : Nat} {request moved : BatchRequest} {sequencer : SequencerState}
    (found : system.requests[index]? = some request)
    (writes : request.WriteLocks system.sequencer moved sequencer) (log : List Commit) :
    System.Aligned start ledger { system with
      sequencer, requests := system.requests.set index moved, commits := log } := by
  have member := List.mem_of_getElem? found
  have old := aligned.requests request member
  cases writes with
  | restored message standing =>
      have uncommitted : request.phase.isCommitted = false := by
        rcases standing with ⟨cause, standing⟩ | ⟨cause, standing⟩ <;> rw [standing] <;> rfl
      have kept : BatchRequest.Aligned { request with phase := .restored (.internal message) }
          system.sequencer.canonicalState system.settlements :=
        old.enter _ (fun submission carries => by cases carries) fun confirmed => by cases confirmed
      exact aligned.replace found _ (aligned.consistent.restoreMempool request.batch)
        (SequencerState.restoreMempool_canonicalState _ _) kept
        (BatchRequest.movesTo_enter uncommitted _) log
  | committed prove submission outcome next standing commits =>
      exact aligned.committed sane found standing commits log
  | commitFailed prove submission outcome next cause standing fails =>
      exact absurd fails (aligned.commit_not_failing member standing)

/-! ## Runs -/

theorem Aligned.initial (sorted : start.Sorted) {rollup : Rollup}
    (sameRoot : rollup.stateRoot = start.merkleRoot) :
    (System.initial start rollup).Aligned start start where
  tracks := ⟨sorted, sameRoot⟩
  ledgerHashed := by simp [hashed]
  settledOnce := {
    passed := fun settlement member => by cases member
    once := fun first member => by cases member }
  consistent := .fromGenesis start
  sorted := sorted
  behind := Or.inl rfl
  requests := fun request member => by cases member
  waiting := fun request member => by cases member
  unique := Nat.zero_le 1
  lagging := fun settlement lagging => by cases lagging.1

theorem Aligned.step (aligned : system.Aligned start ledger) {event : Event}
    (honest : system.Honest event) (stepped : system.step event = some next)
    (sane : next.Sane start) : ∃ ledger, next.Aligned start ledger := by
  have before := Sane.inherited system event next stepped sane
  cases transition_of_step stepped with
  | unchanged => exact ⟨ledger, aligned⟩
  | admitted request tx sequencer parsed accepted => exact ⟨ledger, aligned.admitted accepted⟩
  | drained nonempty => exact ⟨ledger, aligned.drained nonempty⟩
  | arrived index arrival request moved found arrives =>
      exact ⟨ledger, aligned.arrived found arrives honest⟩
  | locked index request moved sequencer found writes =>
      exact ⟨ledger, aligned.locked before found writes _⟩
  | settled index verifyProof request submission rollup event found standing accepted =>
      exact aligned.settled found standing accepted sane before
  | reverted index verifyProof request submission found standing =>
      exact ⟨ledger, aligned.reverted found standing⟩
  | foreignSettled call rollup accepted => exact aligned.foreignSettled accepted honest sane

theorem aligned_of_run (sorted : start.Sorted) {rollup : Rollup}
    (sameRoot : rollup.stateRoot = start.merkleRoot)
    (run : Run System.step System.Honest (System.initial start rollup) system)
    (sane : system.Sane start) : ∃ ledger, system.Aligned start ledger := by
  refine run.invariant (motive := fun reached => ∃ ledger, reached.Aligned start ledger)
    Sane.inherited ⟨start, .initial sorted sameRoot⟩ ?_ sane
  intro state event after aligned honest stepped sane
  rcases aligned with ⟨ledger, aligned⟩
  exact aligned.step honest stepped sane

end System

/-- However `/tx` and `/batch` requests, failures and foreign settlements
interleave: at most one batch of the sequencer is settled and not committed,
whether one counts the requests whose own call settled or the batches that
anybody settled, and a confirmed request can commit at any moment, on top of its
snapshot. `sane` speaks of the nonces and the strings of this run only. -/
theorem commit_never_diverges (genesis : Genesis) (start : State)
    (loaded : genesis.intoState = .ok start) (rollup : Rollup)
    (sameRoot : rollup.stateRoot = start.merkleRoot) (system : System)
    (run : Run System.step System.Honest (System.initial start rollup) system)
    (sane : system.Sane start) :
    system.requests.countP BatchRequest.outstanding ≤ 1 ∧
    (∀ first second, system.Lagging first → system.Lagging second → first = second) ∧
    ∀ request ∈ system.requests, ∀ prove submission outcome,
      request.phase = .confirmed prove submission outcome →
      system.sequencer.canonicalState = request.prevState ∧
      ∃ next, (SequencerState.commitBatch request.batch submission.newRoot).run system.sequencer =
          .ok () next ∧
        next.canonicalRoot = submission.newRoot := by
  rcases System.aligned_of_run (Genesis.intoState_sorted loaded) sameRoot run sane with
    ⟨ledger, aligned⟩
  refine ⟨aligned.unique, fun first second => aligned.lagging_unique, ?_⟩
  intro request member prove submission outcome standing
  rcases aligned.confirmed_commits member standing with ⟨-, level, advanced, -, -, succeeds⟩
  rcases SequencerState.commitBatch_ok.mp succeeds with ⟨result, -, newRoot, same⟩
  refine ⟨level, _, succeeds, ?_⟩
  rw [same]
  exact newRoot

end

namespace HappyPath

def transferRequest : TxRequest where
  «from» := hex0x alice.bytes
  «to» := hex0x bob.bytes
  amount := 250
  nonce := 0
  signature := hex0x transfer.signature

def submission : Submission where
  publicValues := (PublicValues.ofTransition genesis ⟨[transfer]⟩ settled).abiEncode
  proof := []
  newRoot := settled.merkleRoot

def receipt : Receipt where
  txHash := .ofNat 32 1
  status := true
  gasUsed := 84000
  blockNumber := some 2

def outcome : SettleOutcome where
  txHash := .ofNat 32 1
  gasUsed := 84000
  blockNumber := 2

/-- The transfer is admitted. -/
def submitted : System :=
  { System.initial genesis deployed with sequencer := pending, admitted := [transfer] }

/-- The transfer is drained and its proof is under way. -/
def proving : System :=
  { submitted with
    sequencer := .fromGenesis genesis
    requests := [{
      prevState := genesis, batch := ⟨[transfer]⟩, phase := .proving, l1 := .unsent }] }

/-- The decoded proof is about to be sent. -/
def submitting : System :=
  { proving with requests := [{
      prevState := genesis
      batch := ⟨[transfer]⟩
      phase := .submitting reply submission
      l1 := .unsent }] }

/-- The call is sent and waits for its receipt. -/
def awaiting : System :=
  { proving with requests := [{
      prevState := genesis
      batch := ⟨[transfer]⟩
      phase := .awaiting reply submission
      l1 := .pending submission }] }

/-- The L1 has settled the call and the receipt is still to come. -/
def executed : System :=
  { proving with
    rollup := deployedAfter
    requests := [{
      prevState := genesis
      batch := ⟨[transfer]⟩
      phase := .awaiting reply submission
      l1 := .settled }]
    settlements := [(genesis, ⟨[transfer]⟩)] }

/-- The receipt has arrived and the commit is next. -/
def confirmed : System :=
  { executed with requests := [{
      prevState := genesis
      batch := ⟨[transfer]⟩
      phase := .confirmed reply submission outcome
      l1 := .settled }] }

/-- The run up to the settlement, in any environment that allows its events. -/
theorem run_executed {allowed : System → Event → Prop}
    (submits : allowed (System.initial genesis deployed) (.submitTx transferRequest))
    (drains : allowed submitted .startBatch)
    (proves : allowed proving (.arrive 0 (.proverAnswer (.ok reply))))
    (sends : allowed submitting (.arrive 0 .sent))
    (executes : allowed awaiting (.execute 0 fun _ _ _ => true)) :
    Run System.step allowed (System.initial genesis deployed) executed := by
  have atSubmitted : Run System.step allowed (System.initial genesis deployed) submitted :=
    .single ⟨_, submits, by decide +kernel⟩
  have atProving := atSubmitted.tail (c := proving) ⟨_, drains, by decide +kernel⟩
  have atSubmitting := atProving.tail (c := submitting) ⟨_, proves, by decide +kernel⟩
  have atAwaiting := atSubmitting.tail (c := awaiting) ⟨_, sends, by decide +kernel⟩
  exact atAwaiting.tail ⟨_, executes, by decide +kernel⟩

theorem confirmed_of_executed :
    executed.step (.arrive 0 (.receipt (.mined receipt))) = some confirmed := by
  decide +kernel

theorem honest_reply : proving.Honest (.arrive 0 (.proverAnswer (.ok reply))) := by
  intro request found
  cases found
  exact ⟨submission.publicValues, by decide +kernel, hexToBytes_hex0x _⟩

theorem run_confirmed :
    Run System.step System.Honest (System.initial genesis deployed) confirmed :=
  (run_executed trivial trivial honest_reply trivial trivial).tail
    ⟨.arrive 0 (.receipt (.mined receipt)), trivial, confirmed_of_executed⟩

theorem sane_confirmed : confirmed.Sane genesis where
  free := by decide +kernel
  room := by decide +kernel

end HappyPath

open HappyPath in
theorem commit_never_diverges_happyPath :
    confirmed.requests.countP BatchRequest.outstanding ≤ 1 ∧
    confirmed.sequencer.canonicalState = genesis ∧
    ∃ next, (SequencerState.commitBatch ⟨[transfer]⟩ submission.newRoot).run confirmed.sequencer =
      .ok () next ∧ next.canonicalRoot = settled.merkleRoot := by
  have never := commit_never_diverges genesisFile genesis (by decide +kernel) deployed rfl confirmed
    run_confirmed sane_confirmed
  exact ⟨never.1, never.2.2 _ (List.mem_singleton.mpr rfl) reply submission outcome rfl⟩

end ZkRollup
