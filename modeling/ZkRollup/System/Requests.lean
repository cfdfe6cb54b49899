import ZkRollup.Sequencer.Failures
import ZkRollup.System.Transitions

/-!
Contract: one `/batch` request against the L1.

An honest reply is the public values of the batch on its snapshot, and that is
what the request carries, sends and commits. The snapshot is at or behind the
canonical state, and a request that has seen its receipt is settled.

Owns: the environment, the order of states by how many transfers have reached
them, and what an arrival keeps of one request. The locks and the L1 concern all
requests at once and are the subject of the next module.
-/

set_option autoImplicit false

namespace ZkRollup

open Foundation

section

variable [Primitives]

/-! ## The environment -/

/-- The prover answers with the public values the zkVM program commits on the
pair it was sent, and the verifier accepts nothing else from anybody. -/
def System.Honest (system : System) : Event → Prop
  | .arrive index (.proverAnswer (.ok prove)) =>
      ∀ request, system.requests[index]? = some request →
        ∃ publicValues, programMain request.prevState request.batch = .committed publicValues ∧
          hexToBytes prove.publicValues = .ok publicValues
  | .foreignCall call => call.Sound system.rollup.programVKey
  | _ => True

/-- The preimages of all roots of a run: that of the genesis, and those of the
previous and the new state of every settled proof. -/
def System.hashed (start : State) (system : System) : List Bytes :=
  start.rootPreimage ::
    system.settlements.flatMap fun settlement => rootPreimages settlement.1 settlement.2

/-- What is assumed of a run up to this state: no two of its root preimages
collide, and no settled transfer pushes a nonce past `u64::MAX`. -/
structure System.Sane (start : State) (system : System) : Prop where
  free : CollisionFree keccak256 (system.hashed start)
  room : ∀ settlement ∈ system.settlements, ∀ tx ∈ settlement.2.txs, tx.NonceRoom

theorem System.hashed_concat (start : State) (system : System) (rollup : Rollup)
    (requests : List BatchRequest) (prevState : State) (batch : Batch) :
    System.hashed start { system with
      rollup, requests, settlements := system.settlements ++ [(prevState, batch)] } =
      system.hashed start ++ rootPreimages prevState batch := by
  simp [System.hashed]

theorem System.settlements_grow {system next : System} {event : Event}
    (stepped : system.step event = some next) :
    ∃ more, next.settlements = system.settlements ++ more := by
  cases System.transition_of_step stepped with
  | settled => exact ⟨_, rfl⟩
  | foreignSettled => exact ⟨_, rfl⟩
  | _ => exact ⟨[], (List.append_nil _).symm⟩

theorem System.Sane.inherited {start : State} (system : System) (event : Event) (next : System)
    (stepped : system.step event = some next) (sane : next.Sane start) : system.Sane start := by
  rcases System.settlements_grow stepped with ⟨more, grown⟩
  constructor
  · apply sane.free.mono
    intro input member
    simp only [System.hashed, grown, List.flatMap_append, List.mem_cons, List.mem_append]
      at member ⊢
    tauto
  · intro settlement member
    exact sane.room settlement (by rw [grown]; exact List.mem_append_left more member)

/-! ## States left behind -/

/-- The same state, or one that fewer transfers have reached. -/
def State.Behind (older newer : State) : Prop :=
  older = newer ∨ older.nonceSum < newer.nonceSum

omit [Primitives] in
theorem State.Behind.trans {first second third : State} (left : first.Behind second)
    (right : second.Behind third) : first.Behind third := by
  rcases left with rfl | less
  · exact right
  · rcases right with rfl | alsoLess
    · exact Or.inr less
    · exact Or.inr (less.trans alsoLess)

omit [Primitives] in
/-- Two states cannot be strictly ahead of each other. -/
theorem State.Behind.antisymm {older newer : State} (behind : older.Behind newer)
    (ahead : newer.Behind older) : older = newer := by
  rcases behind with same | less
  · exact same
  · rcases ahead with same | alsoLess
    · exact same.symm
    · exact absurd alsoLess (Nat.lt_asymm less)

omit [Primitives] in
theorem State.Behind.le {older newer : State} (behind : older.Behind newer) :
    older.nonceSum ≤ newer.nonceSum := by
  rcases behind with rfl | less
  · exact Nat.le_refl _
  · exact Nat.le_of_lt less

theorem State.Sorted.nonceSum_lt {state next : State} {txs : List Tx} (sorted : state.Sorted)
    (room : ∀ tx ∈ txs, tx.NonceRoom) (nonempty : txs ≠ [])
    (replayed : state.applyAll txs = .ok next) : state.nonceSum < next.nonceSum := by
  have grown := sorted.applyAll_nonceSum room replayed
  have positive := List.length_pos_of_ne_nil nonempty
  omega

theorem State.Sorted.behind {state next : State} {txs : List Tx} (sorted : state.Sorted)
    (room : ∀ tx ∈ txs, tx.NonceRoom) (replayed : state.applyAll txs = .ok next) :
    state.Behind next := by
  by_cases empty : txs = []
  · subst empty
    exact Or.inl (Except.ok.inj replayed)
  · exact Or.inr (sorted.nonceSum_lt room empty replayed)

/-! ## Requests -/

/-- The calldata a request carries. -/
def Phase.submission : Phase → Option Submission
  | .submitting _ submission | .awaiting _ submission | .confirmed _ submission _
  | .committed _ submission _ | .answered submission _ => some submission
  | _ => none

def Phase.isCommitted : Phase → Bool
  | .committed _ _ _ | .answered _ _ => true
  | _ => false

omit [Primitives] in
theorem Phase.not_committed_of_isOpen {phase : Phase} (standing : phase.isOpen = true) :
    phase.isCommitted = false := by
  cases phase with
  | committed | answered => cases standing
  | _ => rfl

/-- `submit_batch` has returned `Ok`. -/
def Phase.isConfirmed : Phase → Bool
  | .confirmed _ _ _ => true
  | phase => phase.isCommitted

/-- Settled on the L1 by its own call and not committed locally. -/
def BatchRequest.outstanding (request : BatchRequest) : Bool :=
  request.l1 = .settled && !request.phase.isCommitted

omit [Primitives] in
theorem BatchRequest.outstanding_committed (request : BatchRequest) (prove : ProveResponse)
    (submission : Submission) (outcome : SettleOutcome) :
    ({ request with phase := .committed prove submission outcome } : BatchRequest).outstanding =
      false := by
  simp [outstanding, Phase.isCommitted]

/-- What a settled proof of the request's batch records. -/
def BatchRequest.settlement (request : BatchRequest) : State × Batch :=
  (request.prevState, request.batch)

/-- The calldata are the public values of the batch on its snapshot. -/
def Submission.Honest (submission : Submission) (prevState : State) (batch : Batch) : Prop :=
  ∃ next, prevState.applyAll batch.txs = .ok next ∧
    submission.publicValues = (PublicValues.ofTransition prevState batch next).abiEncode ∧
    submission.newRoot = next.merkleRoot

omit [Primitives] in
theorem newRootPv_abiEncode (values : PublicValues) (sized : values.abiEncode.length = 96) :
    newRootPv values.abiEncode sized = values.newRoot := by
  have decoded := values.abiDecode_abiEncode
  unfold PublicValues.abiDecode at decoded
  rw [dif_pos (Nat.le_of_eq sized.symm)] at decoded
  exact congrArg PublicValues.newRoot (Option.some.inj decoded)

theorem Submission.honest_of_decoded {prevState : State} {batch : Batch} {prove : ProveResponse}
    {publicValues : Bytes} {submission : Submission}
    (proved : programMain prevState batch = .committed publicValues)
    (sent : hexToBytes prove.publicValues = .ok publicValues)
    (decoded : decodeProof prove = .ok submission) : submission.Honest prevState batch := by
  rcases programMain_eq_committed proved with ⟨next, replayed, rfl⟩
  rcases decodeProof_ok.mp decoded with ⟨received, proof, sized, pvDecoded, -, rfl⟩
  rw [sent] at pvDecoded
  cases pvDecoded
  exact ⟨next, replayed, rfl, newRootPv_abiEncode _ sized⟩

theorem Submission.Honest.programMain {submission : Submission} {prevState : State} {batch : Batch}
    (honest : submission.Honest prevState batch) :
    programMain prevState batch = .committed submission.publicValues := by
  rcases honest with ⟨next, replayed, encoded, -⟩
  rw [programMain_committed (applyBatch_of_applyAll replayed), encoded]

/-- What holds of every request at all times. -/
structure BatchRequest.Aligned (request : BatchRequest) (canonical : State)
    (settlements : List (State × Batch)) : Prop where
  nonempty : request.batch.txs ≠ []
  sorted : request.prevState.Sorted
  behind : request.prevState.Behind canonical
  carried : ∀ submission, request.phase.submission = some submission →
    submission.Honest request.prevState request.batch
  pending : ∀ submission, request.l1 = .pending submission →
    submission.Honest request.prevState request.batch
  recorded : request.l1 = .settled → request.settlement ∈ settlements
  confirmed : request.phase.isConfirmed = true → request.l1 = .settled

/-- What holds of a batch that is settled and not committed: the canonical state
still is its snapshot, and the ledger is at or past its result. -/
def BatchRequest.Waiting (request : BatchRequest) (canonical ledger : State) : Prop :=
  request.prevState = canonical ∧
    ∃ advanced, canonical.applyAll request.batch.txs = .ok advanced ∧ advanced.Behind ledger

theorem BatchRequest.Aligned.mono {request : BatchRequest} {canonical : State}
    {settlements more : List (State × Batch)} (aligned : request.Aligned canonical settlements)
    (subset : settlements ⊆ more) : request.Aligned canonical more :=
  { aligned with recorded := fun settled => subset (aligned.recorded settled) }

theorem BatchRequest.Aligned.later {request : BatchRequest} {canonical advanced : State}
    {settlements : List (State × Batch)} (aligned : request.Aligned canonical settlements)
    (behind : canonical.Behind advanced) : request.Aligned advanced settlements :=
  { aligned with behind := aligned.behind.trans behind }

theorem BatchRequest.Waiting.later {request : BatchRequest} {canonical ledger advanced : State}
    (waits : request.Waiting canonical ledger) (behind : ledger.Behind advanced) :
    request.Waiting canonical advanced := by
  rcases waits with ⟨snapshot, result, replayed, resultBehind⟩
  exact ⟨snapshot, result, replayed, resultBehind.trans behind⟩

/-! ## Arrivals -/

/-- A request enters another phase with honest calldata, and a confirmed one
only when its call has settled. -/
theorem BatchRequest.Aligned.enter {request : BatchRequest} {canonical : State}
    {settlements : List (State × Batch)} (aligned : request.Aligned canonical settlements)
    (phase : Phase)
    (carried : ∀ submission, phase.submission = some submission →
      submission.Honest request.prevState request.batch)
    (confirmed : phase.isConfirmed = true → request.l1 = .settled) :
    BatchRequest.Aligned { request with phase } canonical settlements where
  nonempty := aligned.nonempty
  sorted := aligned.sorted
  behind := aligned.behind
  carried := carried
  pending := aligned.pending
  recorded := aligned.recorded
  confirmed := confirmed

/-- Sending hands the carried calldata to the L1. -/
theorem BatchRequest.Aligned.sent {request : BatchRequest} {canonical : State}
    {settlements : List (State × Batch)} (aligned : request.Aligned canonical settlements)
    {prove : ProveResponse} {submission : Submission}
    (standing : request.phase = .submitting prove submission) :
    BatchRequest.Aligned { request with l1 := .pending submission } canonical settlements where
  nonempty := aligned.nonempty
  sorted := aligned.sorted
  behind := aligned.behind
  carried := aligned.carried
  pending := by
    intro sent same
    cases same
    exact aligned.carried submission (by rw [standing]; rfl)
  recorded := fun settled => by cases settled
  confirmed := fun confirmed => by
    rw [standing] at confirmed
    cases confirmed

theorem BatchRequest.Aligned.unsent {request : BatchRequest} {canonical : State}
    {settlements : List (State × Batch)} (aligned : request.Aligned canonical settlements)
    {prove : ProveResponse} {submission : Submission}
    (standing : request.phase = .submitting prove submission) :
    BatchRequest.Aligned { request with l1 := .unsent } canonical settlements where
  nonempty := aligned.nonempty
  sorted := aligned.sorted
  behind := aligned.behind
  carried := aligned.carried
  pending := fun sent same => by cases same
  recorded := fun settled => by cases settled
  confirmed := fun confirmed => by
    rw [standing] at confirmed
    cases confirmed

/-- The L1 settles the pending call. -/
theorem BatchRequest.Aligned.settle {request : BatchRequest} {canonical : State}
    {settlements : List (State × Batch)} (aligned : request.Aligned canonical settlements) :
    BatchRequest.Aligned { request with l1 := .settled } canonical
      (settlements ++ [(request.prevState, request.batch)]) where
  nonempty := aligned.nonempty
  sorted := aligned.sorted
  behind := aligned.behind
  carried := aligned.carried
  pending := fun sent same => by cases same
  recorded := fun _ => List.mem_append_right settlements (List.mem_singleton.mpr rfl)
  confirmed := fun _ => rfl

/-- The L1 gives up on the pending call. -/
theorem BatchRequest.Aligned.revert {request : BatchRequest} {canonical : State}
    {settlements : List (State × Batch)} (aligned : request.Aligned canonical settlements)
    {submission : Submission} (standing : request.l1 = .pending submission) :
    BatchRequest.Aligned { request with l1 := .reverted } canonical settlements where
  nonempty := aligned.nonempty
  sorted := aligned.sorted
  behind := aligned.behind
  carried := aligned.carried
  pending := fun sent same => by cases same
  recorded := fun settled => by cases settled
  confirmed := fun confirmed => by
    have settled := aligned.confirmed confirmed
    rw [standing] at settled
    cases settled

omit [Primitives] in
/-- A receipt that makes `submit_batch` return `Ok` is one of a settled call. -/
theorem L1Status.settled_of_answers {status : L1Status} {answer : RoundTrip}
    {outcome : SettleOutcome} (answers : status.Answers answer)
    (succeeded : L1Client.submitBatch answer = .ok outcome) : status = .settled := by
  cases answer with
  | sendFailed cause => cases succeeded
  | receiptFailed cause => cases succeeded
  | mined receipt =>
      change if receipt.status = true then status = .settled else status = .reverted at answers
      by_cases positive : receipt.status = true
      · rw [if_pos positive] at answers
        exact answers
      · simp [L1Client.submitBatch, positive] at succeeded

theorem BatchRequest.Arrives.aligned {request moved : BatchRequest} {sequencer : SequencerState}
    {arrival : Arrival} (arrives : request.Arrives sequencer arrival moved) {canonical : State}
    {settlements : List (State × Batch)} (aligned : request.Aligned canonical settlements)
    (honest : ∀ prove, arrival = .proverAnswer (.ok prove) →
      ∃ publicValues, programMain request.prevState request.batch = .committed publicValues ∧
        hexToBytes prove.publicValues = .ok publicValues) :
    moved.Aligned canonical settlements := by
  have nothing : ∀ {phase : Phase}, phase.submission = none → ∀ submission,
      phase.submission = some submission → submission.Honest request.prevState request.batch := by
    intro phase none submission carries
    rw [none] at carries
    cases carries
  cases arrives with
  | proveFailed cause standing =>
      exact aligned.enter _ (nothing rfl) fun confirmed => by cases confirmed
  | dropped prove failure standing malformed =>
      exact aligned.enter _ (nothing rfl) fun confirmed => by cases confirmed
  | submitting prove submission standing decoded =>
      rcases honest prove rfl with ⟨publicValues, proved, sent⟩
      refine aligned.enter _ ?_ fun confirmed => by cases confirmed
      intro carried same
      cases same
      exact Submission.honest_of_decoded proved sent decoded
  | awaiting prove submission standing =>
      refine (aligned.sent standing).enter _ ?_ fun confirmed => by cases confirmed
      intro carried same
      cases same
      exact aligned.carried submission (by rw [standing]; rfl)
  | sendFailed prove submission cause broadcast standing =>
      cases broadcast with
      | true => exact (aligned.sent standing).enter _ (nothing rfl) fun confirmed => by cases confirmed
      | false =>
          exact (aligned.unsent standing).enter _ (nothing rfl) fun confirmed => by cases confirmed
  | submitFailed prove submission answer cause standing answers failed =>
      exact aligned.enter _ (nothing rfl) fun confirmed => by cases confirmed
  | confirmed prove submission answer outcome standing answers succeeded =>
      refine aligned.enter _ ?_ fun _ => L1Status.settled_of_answers answers succeeded
      intro carried same
      cases same
      exact aligned.carried submission (by rw [standing]; rfl)
  | answered prove submission outcome response standing read =>
      refine aligned.enter _ ?_ fun _ => aligned.confirmed (by rw [standing]; rfl)
      intro carried same
      cases same
      exact aligned.carried submission (by rw [standing]; rfl)
  | disconnected prove submission broadcast standing =>
      cases broadcast with
      | true => exact (aligned.sent standing).enter _ (nothing rfl) fun confirmed => by cases confirmed
      | false =>
          exact (aligned.unsent standing).enter _ (nothing rfl) fun confirmed => by cases confirmed
  | cancelled broadcast standing =>
      exact aligned.enter _ (nothing rfl) fun confirmed => by cases confirmed

/-- A request moves on without being settled: its snapshot and batch stay, and a
commit stays a commit. -/
structure BatchRequest.MovesTo (request moved : BatchRequest) : Prop where
  settlement : moved.settlement = request.settlement
  outstanding : moved.outstanding = true → request.outstanding = true
  committed : request.phase.isCommitted = true → moved.phase.isCommitted = true

omit [Primitives] in
/-- Entering a phase that is no commit, from one that is none. -/
theorem BatchRequest.movesTo_enter {request : BatchRequest}
    (uncommitted : request.phase.isCommitted = false) (phase : Phase) :
    request.MovesTo { request with phase } where
  settlement := rfl
  outstanding := by
    simp only [BatchRequest.outstanding, Bool.and_eq_true]
    intro outstanding
    exact ⟨outstanding.1, by rw [uncommitted]; rfl⟩
  committed := fun committed => by
    rw [uncommitted] at committed
    cases committed

omit [Primitives] in
/-- Sending, or failing to, leaves the call unsettled. -/
theorem BatchRequest.movesTo_send {request : BatchRequest}
    (uncommitted : request.phase.isCommitted = false) (phase : Phase) {l1 : L1Status}
    (unsettled : l1 ≠ .settled) : request.MovesTo { request with phase, l1 } where
  settlement := rfl
  outstanding := fun outstanding => by simp [BatchRequest.outstanding, unsettled] at outstanding
  committed := fun committed => by
    rw [uncommitted] at committed
    cases committed

omit [Primitives] in
theorem BatchRequest.Arrives.movesTo {request moved : BatchRequest} {sequencer : SequencerState}
    {arrival : Arrival} (arrives : request.Arrives sequencer arrival moved) :
    request.MovesTo moved := by
  cases arrives with
  | proveFailed cause standing => exact movesTo_enter (by rw [standing]; rfl) _
  | dropped prove failure standing malformed => exact movesTo_enter (by rw [standing]; rfl) _
  | submitting prove submission standing decoded => exact movesTo_enter (by rw [standing]; rfl) _
  | awaiting prove submission standing =>
      exact movesTo_send (by rw [standing]; rfl) _ fun settled => by cases settled
  | sendFailed prove submission cause broadcast standing =>
      refine movesTo_send (by rw [standing]; rfl) _ fun settled => ?_
      cases broadcast <;> cases settled
  | submitFailed prove submission answer cause standing answers failed =>
      exact movesTo_enter (by rw [standing]; rfl) _
  | confirmed prove submission answer outcome standing answers succeeded =>
      exact movesTo_enter (by rw [standing]; rfl) _
  | answered prove submission outcome response standing read =>
      exact {
        settlement := rfl
        outstanding := fun outstanding => by
          simp [BatchRequest.outstanding, Phase.isCommitted] at outstanding
        committed := fun _ => rfl }
  | disconnected prove submission broadcast standing =>
      refine movesTo_send (by rw [standing]; rfl) _ fun settled => ?_
      cases broadcast <;> cases settled
  | cancelled broadcast standing => exact movesTo_enter (Phase.not_committed_of_isOpen standing) _

end

end ZkRollup
