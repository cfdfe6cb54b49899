import ZkRollup.System.Settlement

/-!
Contract: the canonical state is the genesis with the committed batches applied.

A commit goes on top of the snapshot that its batch was proved from, so the
commits form one chain and their log alone determines the canonical state and
its root. This needs honest proofs and nothing of the L1's answers: a batch
whose receipt is lost is missing from the log, not out of order in it.
-/

set_option autoImplicit false

namespace ZkRollup

open Foundation

/-- The transfers of the commits, in order. -/
def committedTxs (commits : List Commit) : List Tx :=
  commits.flatMap fun commit => commit.batch.txs

/-- What a request has committed. -/
def Phase.committedAs : Phase → Option Submission
  | .committed _ submission _ | .answered submission _ => some submission
  | _ => none

section

variable [Primitives]

/-- The request's batch was committed on its snapshot, with this root. -/
def BatchRequest.CommittedIn (request : BatchRequest) (start : State) (commits : List Commit)
    (newRoot : Hash) : Prop :=
  ∃ before after, commits = before ++ { batch := request.batch, newRoot } :: after ∧
    start.applyAll (committedTxs before) = .ok request.prevState

/-- A request that says it has committed is in the log, and no commit fails. -/
structure BatchRequest.Logged (request : BatchRequest) (start : State) (commits : List Commit) :
    Prop where
  intact : ∀ failure, request.phase ≠ .commitFailed failure
  committed : ∀ submission, request.phase.committedAs = some submission →
    request.CommittedIn start commits submission.newRoot

structure System.Logged (start : State) (system : System) : Prop where
  chain : start.applyAll (committedTxs system.commits) = .ok system.sequencer.canonicalState
  last : ∀ before commit, system.commits = before ++ [commit] →
    system.sequencer.canonicalRoot = commit.newRoot
  requests : ∀ request ∈ system.requests, request.Logged start system.commits

variable {start ledger : State} {system next : System}

/-! ## Requests -/

theorem BatchRequest.Logged.later {request : BatchRequest} {commits : List Commit}
    (logged : request.Logged start commits) (more : List Commit) :
    request.Logged start (commits ++ more) where
  intact := logged.intact
  committed := by
    intro submission committed
    rcases logged.committed submission committed with ⟨before, after, split, snapshot⟩
    exact ⟨before, after ++ more, by rw [split]; simp, snapshot⟩

/-- A phase that has committed nothing and has not failed to. -/
theorem BatchRequest.Logged.uncommitted {request : BatchRequest} {commits : List Commit}
    (nothing : request.phase.committedAs = none)
    (intact : ∀ failure, request.phase ≠ .commitFailed failure) :
    request.Logged start commits where
  intact := intact
  committed := fun submission committed => by
    rw [nothing] at committed
    cases committed

theorem BatchRequest.Arrives.logged {request moved : BatchRequest} {sequencer : SequencerState}
    {arrival : Arrival} {commits : List Commit}
    (arrives : request.Arrives sequencer arrival moved)
    (logged : request.Logged start commits) : moved.Logged start commits := by
  cases arrives with
  | answered prove submission outcome response standing read =>
      exact {
        intact := fun failure same => by cases same
        committed := fun carried same => by
          cases same
          exact logged.committed submission (by rw [standing]; rfl) }
  | _ => exact .uncommitted rfl fun failure same => by cases same

namespace System

/-! ## Steps -/

/-- A step that commits nothing. -/
theorem Logged.advance (logged : system.Logged start)
    (sameState : next.sequencer.canonicalState = system.sequencer.canonicalState)
    (sameRoot : next.sequencer.canonicalRoot = system.sequencer.canonicalRoot)
    (sameCommits : next.commits = system.commits)
    (requests : ∀ request ∈ next.requests, request.Logged start system.commits) :
    next.Logged start where
  chain := by rw [sameCommits, sameState, logged.chain]
  last := by
    rw [sameCommits, sameRoot]
    exact logged.last
  requests := by
    rw [sameCommits]
    exact requests

theorem Logged.committed (logged : system.Logged start) (aligned : system.Aligned start ledger)
    {index : Nat} {request : BatchRequest} {prove : ProveResponse} {submission : Submission}
    {outcome : SettleOutcome} {after : SequencerState}
    (found : system.requests[index]? = some request)
    (standing : request.phase = .confirmed prove submission outcome)
    (commits : (SequencerState.commitBatch request.batch submission.newRoot).run system.sequencer =
      .ok () after) :
    System.Logged start { system with
      sequencer := after
      requests := system.requests.set index
        { request with phase := .committed prove submission outcome }
      commits := system.commits ++
        [{ batch := request.batch, newRoot := submission.newRoot }] } := by
  have member := List.mem_of_getElem? found
  have level := (aligned.confirmed_commits member standing).2.1
  rcases SequencerState.commitBatch_ok.mp commits with ⟨advanced, replayed, newRoot, rfl⟩
  exact {
    chain := by
      show start.applyAll (committedTxs (system.commits ++ _)) = .ok advanced
      unfold committedTxs
      rw [List.flatMap_append, List.flatMap_singleton]
      exact replay_append_ok.mpr ⟨_, logged.chain, replayed⟩
    last := by
      intro before commit split
      rcases List.append_inj' split rfl with ⟨-, same⟩
      cases same
      exact newRoot
    requests := by
      refine forall_mem_set
        (fun other otherMember => (logged.requests other otherMember).later _) {
          intact := fun failure same => by cases same
          committed := ?_ }
      intro carried same
      cases same
      refine ⟨system.commits, [], rfl, ?_⟩
      rw [logged.chain, level] }

theorem Logged.locked (logged : system.Logged start) (aligned : system.Aligned start ledger)
    {index : Nat} {request moved : BatchRequest} {sequencer : SequencerState}
    (found : system.requests[index]? = some request)
    (writes : request.WriteLocks system.sequencer moved sequencer) :
    System.Logged start { system with
      sequencer
      requests := system.requests.set index moved
      commits := system.commits ++ moved.newCommit } := by
  cases writes with
  | restored message standing =>
      refine logged.advance (SequencerState.restoreMempool_canonicalState _ _)
        (SequencerState.restoreMempool_canonicalRoot _ _) (List.append_nil _)
        (forall_mem_set logged.requests ?_)
      exact .uncommitted rfl fun failure same => by cases same
  | committed prove submission outcome after standing commits =>
      exact logged.committed aligned found standing commits
  | commitFailed prove submission outcome after cause standing fails =>
      exact absurd fails (aligned.commit_not_failing (List.mem_of_getElem? found) standing)

theorem Logged.step (logged : system.Logged start) (aligned : system.Aligned start ledger)
    {event : Event} (stepped : system.step event = some next) : next.Logged start := by
  cases transition_of_step stepped with
  | unchanged => exact logged
  | admitted request tx sequencer parsed accepted =>
      rcases SequencerState.admission_ok.mp accepted with ⟨extended, -, rfl⟩
      exact logged.advance rfl rfl rfl logged.requests
  | drained nonempty =>
      refine logged.advance rfl rfl rfl (forall_mem_concat logged.requests ?_)
      exact .uncommitted rfl fun failure same => by cases same
  | arrived index arrival request moved found arrives =>
      have old := logged.requests request (List.mem_of_getElem? found)
      exact logged.advance rfl rfl rfl (forall_mem_set logged.requests (arrives.logged old))
  | locked index request moved sequencer found writes => exact logged.locked aligned found writes
  | settled index verifyProof request submission rollup event found standing accepted =>
      have old := logged.requests request (List.mem_of_getElem? found)
      exact logged.advance rfl rfl rfl
        (forall_mem_set logged.requests { intact := old.intact, committed := old.committed })
  | reverted index verifyProof request submission found standing =>
      have old := logged.requests request (List.mem_of_getElem? found)
      exact logged.advance rfl rfl rfl
        (forall_mem_set logged.requests { intact := old.intact, committed := old.committed })
  | foreignSettled call rollup accepted => exact logged.advance rfl rfl rfl logged.requests

/-! ## Runs -/

theorem Logged.initial (rollup : Rollup) : (System.initial start rollup).Logged start where
  chain := rfl
  last := fun before commit split => by simp [System.initial] at split
  requests := fun request member => by cases member

end System

end

end ZkRollup
