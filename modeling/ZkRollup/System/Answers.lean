import ZkRollup.System.Acceptance
import ZkRollup.System.Receipts

/-!
Contract: what a successful `/batch` answer says about the batch of its request.

The commit is made under the write lock. The answer is put together afterwards:
`batch_number` is read under a lock of its own, and the roots are the strings of
the prover's reply, not the words of the public values that were submitted. So
it describes the request's own batch if nobody commits in between and the
strings happen to be right, and not otherwise.

Nothing is assumed of the prover, the L1 or the other requests.
-/

set_option autoImplicit false

namespace ZkRollup

open Foundation

/-- The request in this slot stands in this phase. -/
def System.PhaseAt (system : System) (index : Nat) (phase : Phase) : Prop :=
  ∃ request, system.requests[index]? = some request ∧ request.phase = phase

/-- The reply that a request carries, with what was decoded from it. -/
def Phase.carried : Phase → Option (ProveResponse × Submission)
  | .submitting prove submission | .awaiting prove submission | .confirmed prove submission _
  | .committed prove submission _ => some (prove, submission)
  | _ => none

/-- What a request submits and commits is what its prover's reply decodes to. -/
def System.Decoded (system : System) : Prop :=
  ∀ request ∈ system.requests, ∀ prove submission,
    request.phase.carried = some (prove, submission) → decodeProof prove = .ok submission

/-- The counter is the length of the log, in the `u64` it is kept in. -/
def System.Counted (system : System) : Prop :=
  system.sequencer.batchCount.toNat = system.commits.length % 2 ^ 64

section

variable [Primitives] {start : State} {system next : System}

/-! ## Single steps -/

omit [Primitives] in
theorem System.PhaseAt.of_set {index other : Nat} {request moved : BatchRequest} {phase : Phase}
    (found : system.requests[other]? = some request)
    (sameRequests : next.requests = system.requests.set other moved)
    (standing : next.PhaseAt index phase) :
    (other = index ∧ moved.phase = phase) ∨ system.PhaseAt index phase := by
  obtain ⟨own, ownFound, same⟩ := standing
  rw [sameRequests] at ownFound
  by_cases here : other = index
  · subst here
    rw [List.getElem?_set_self (List.getElem?_eq_some_iff.mp found).1] at ownFound
    cases ownFound
    exact Or.inl ⟨rfl, same⟩
  · rw [List.getElem?_set_ne here] at ownFound
    exact Or.inr ⟨own, ownFound, same⟩

omit [Primitives] in
theorem System.PhaseAt.of_concat {index : Nat} {fresh : BatchRequest} {phase : Phase}
    (other : fresh.phase ≠ phase) (sameRequests : next.requests = system.requests ++ [fresh])
    (standing : next.PhaseAt index phase) : system.PhaseAt index phase := by
  obtain ⟨own, ownFound, same⟩ := standing
  rw [sameRequests, List.getElem?_append] at ownFound
  by_cases old : index < system.requests.length
  · rw [if_pos old] at ownFound
    exact ⟨own, ownFound, same⟩
  · rw [if_neg old] at ownFound
    have isFresh := List.mem_of_getElem? ownFound
    rw [List.mem_singleton.mp isFresh] at same
    exact absurd same other

/-! ## What a phase tells about the move into it -/

omit [Primitives] in
theorem BatchRequest.Arrives.of_answered {request moved : BatchRequest}
    {sequencer : SequencerState} {arrival : Arrival} {submission : Submission}
    {response : BatchResponse} (arrives : request.Arrives sequencer arrival moved)
    (entered : moved.phase = .answered submission response) :
    arrival = .readLock ∧ ∃ prove outcome,
      request.phase = .committed prove submission outcome ∧
      response = batchResponse request.batch.txs.length prove outcome sequencer := by
  cases arrives with
  | answered prove sent outcome answer standing read =>
      cases entered
      exact ⟨rfl, prove, outcome, standing, read⟩
  | _ => cases entered

omit [Primitives] in
theorem BatchRequest.Arrives.ne_committed {request moved : BatchRequest}
    {sequencer : SequencerState} {arrival : Arrival}
    (arrives : request.Arrives sequencer arrival moved) (prove : ProveResponse)
    (submission : Submission) (outcome : SettleOutcome) :
    moved.phase ≠ .committed prove submission outcome := by
  intro entered
  cases arrives <;> cases entered

theorem BatchRequest.WriteLocks.of_committed {request moved : BatchRequest}
    {sequencer after : SequencerState} {prove : ProveResponse} {submission : Submission}
    {outcome : SettleOutcome} (writes : request.WriteLocks sequencer moved after)
    (entered : moved.phase = .committed prove submission outcome) :
    request.phase = .confirmed prove submission outcome ∧
      (SequencerState.commitBatch request.batch submission.newRoot).run sequencer =
        .ok () after := by
  cases writes with
  | committed carried sent settled next standing commits =>
      cases entered
      exact ⟨standing, commits⟩
  | restored message standing => cases entered
  | commitFailed carried sent settled next cause standing fails => cases entered

theorem BatchRequest.WriteLocks.ne_answered {request moved : BatchRequest}
    {sequencer after : SequencerState} (writes : request.WriteLocks sequencer moved after)
    (submission : Submission) (response : BatchResponse) :
    moved.phase ≠ .answered submission response := by
  intro entered
  cases writes <;> cases entered

namespace System

/-- A request enters a later phase by an arrival of its own or under the lock. -/
theorem moves_of_turn {event : Event} {index : Nat} {phase : Phase}
    (started : phase ≠ .proving) (stepped : system.step event = some next)
    (before : ¬ system.PhaseAt index phase) (after : next.PhaseAt index phase) :
    (∃ arrival request moved, event = .arrive index arrival ∧
      system.requests[index]? = some request ∧
      request.Arrives system.sequencer arrival moved ∧ moved.phase = phase) ∨
    ∃ request moved sequencer, event = .writeLock index ∧
      system.requests[index]? = some request ∧
      request.WriteLocks system.sequencer moved sequencer ∧ moved.phase = phase := by
  cases transition_of_step stepped with
  | unchanged => exact absurd after before
  | admitted request tx sequencer parsed accepted => exact absurd after before
  | drained nonempty => exact absurd (after.of_concat started.symm rfl) before
  | arrived other arrival request moved found arrives =>
      rcases after.of_set found rfl with ⟨rfl, entered⟩ | standing
      · exact Or.inl ⟨arrival, request, moved, rfl, found, arrives, entered⟩
      · exact absurd standing before
  | locked other request moved sequencer found writes =>
      rcases after.of_set found rfl with ⟨rfl, entered⟩ | standing
      · exact Or.inr ⟨request, moved, sequencer, rfl, found, writes, entered⟩
      · exact absurd standing before
  | settled other verifyProof request submission rollup event found standing accepted =>
      rcases after.of_set found rfl with ⟨rfl, same⟩ | standing
      · exact absurd ⟨request, found, same⟩ before
      · exact absurd standing before
  | reverted other verifyProof request submission found standing =>
      rcases after.of_set found rfl with ⟨rfl, same⟩ | standing
      · exact absurd ⟨request, found, same⟩ before
      · exact absurd standing before
  | foreignSettled call rollup accepted => exact absurd after before

/-- An answer is given by the read lock of a request that has committed. -/
theorem reads_of_turn {event : Event} {index : Nat} {submission : Submission}
    {response : BatchResponse} (stepped : system.step event = some next)
    (before : ¬ system.PhaseAt index (.answered submission response))
    (after : next.PhaseAt index (.answered submission response)) :
    event = .arrive index .readLock ∧ ∃ prove outcome,
      system.PhaseAt index (.committed prove submission outcome) ∧
      response.batchNumber = system.sequencer.batchCount ∧
      response.prevRoot = prove.prevRoot ∧ response.newRoot = prove.newRoot := by
  rcases moves_of_turn (by simp) stepped before after with
    ⟨arrival, request, moved, rfl, found, arrives, entered⟩ |
    ⟨request, moved, sequencer, rfl, found, writes, entered⟩
  · obtain ⟨rfl, prove, outcome, standing, read⟩ := arrives.of_answered entered
    rw [read]
    exact ⟨rfl, prove, outcome, ⟨request, found, standing⟩, rfl, rfl, rfl⟩
  · exact absurd entered (writes.ne_answered submission response)

/-- A commit is made by the write lock of a request whose call is confirmed. -/
theorem commits_of_turn {event : Event} {index : Nat} {prove : ProveResponse}
    {submission : Submission} {outcome : SettleOutcome} (stepped : system.step event = some next)
    (before : ¬ system.PhaseAt index (.committed prove submission outcome))
    (after : next.PhaseAt index (.committed prove submission outcome)) :
    event = .writeLock index ∧ system.PhaseAt index (.confirmed prove submission outcome) := by
  rcases moves_of_turn (by simp) stepped before after with
    ⟨arrival, request, moved, rfl, found, arrives, entered⟩ |
    ⟨request, moved, sequencer, rfl, found, writes, entered⟩
  · exact absurd entered (arrives.ne_committed prove submission outcome)
  · exact ⟨rfl, request, found, (writes.of_committed entered).1⟩

omit [Primitives] in
theorem PhaseAt.unique {index : Nat} {phase other : Phase} (standing : system.PhaseAt index phase)
    (also : system.PhaseAt index other) : phase = other := by
  obtain ⟨request, found, rfl⟩ := standing
  obtain ⟨same, sameFound, rfl⟩ := also
  rw [found] at sameFound
  cases sameFound
  rfl

/-- What the read lock answers. -/
theorem response_of_readLock {index : Nat} {prove : ProveResponse} {submission : Submission}
    {outcome : SettleOutcome} {response : BatchResponse}
    (standing : system.PhaseAt index (.committed prove submission outcome))
    (stepped : system.step (.arrive index .readLock) = some next)
    (answered : next.PhaseAt index (.answered submission response)) :
    response.batchNumber = system.sequencer.batchCount ∧ response.prevRoot = prove.prevRoot ∧
      response.newRoot = prove.newRoot := by
  have notYet : ¬ system.PhaseAt index (.answered submission response) := by
    intro already
    cases standing.unique already
  obtain ⟨-, carried, settled, own, read⟩ := reads_of_turn stepped notYet answered
  cases standing.unique own
  exact read

/-- What the write lock has done when the request has committed behind it. -/
theorem commit_of_writeLock {index : Nat} {prove : ProveResponse} {submission : Submission}
    {outcome : SettleOutcome} (stepped : system.step (.writeLock index) = some next)
    (confirmed : system.PhaseAt index (.confirmed prove submission outcome))
    (standing : next.PhaseAt index (.committed prove submission outcome)) :
    next.commits.length = system.commits.length + 1 ∧
      next.sequencer.canonicalRoot = submission.newRoot := by
  have notYet : ¬ system.PhaseAt index (.committed prove submission outcome) := by
    intro already
    cases confirmed.unique already
  cases transition_of_step stepped with
  | unchanged => exact absurd standing notYet
  | locked _ request moved sequencer found writes =>
      rcases standing.of_set found rfl with ⟨-, entered⟩ | already
      · obtain ⟨-, commits⟩ := writes.of_committed entered
        obtain ⟨advanced, -, sameRoot, rfl⟩ := SequencerState.commitBatch_ok.mp commits
        refine ⟨?_, sameRoot⟩
        simp only [BatchRequest.newCommit, entered, List.length_append, List.length_singleton]
      · exact absurd already notYet

/-! ## Invariants of all runs -/

theorem Decoded.step (decoded : system.Decoded) {event : Event}
    (stepped : system.step event = some next) : next.Decoded := by
  cases transition_of_step stepped with
  | unchanged => exact decoded
  | admitted request tx sequencer parsed accepted => exact decoded
  | drained nonempty =>
      refine forall_mem_concat decoded ?_
      intro prove submission carried
      cases carried
  | arrived index arrival request moved found arrives =>
      have old := decoded request (List.mem_of_getElem? found)
      refine forall_mem_set decoded ?_
      intro prove submission carried
      cases arrives with
      | submitting reply sent standing valid =>
          cases carried
          exact valid
      | awaiting reply sent standing =>
          cases carried
          exact old _ _ (by rw [standing]; rfl)
      | confirmed reply sent answer outcome standing =>
          cases carried
          exact old _ _ (by rw [standing]; rfl)
      | _ => cases carried
  | locked index request moved sequencer found writes =>
      have old := decoded request (List.mem_of_getElem? found)
      refine forall_mem_set decoded ?_
      intro prove submission carried
      cases writes with
      | committed reply sent outcome after standing commits =>
          cases carried
          exact old _ _ (by rw [standing]; rfl)
      | restored message failed => cases carried
      | commitFailed => cases carried
  | settled index verifyProof request submission rollup event found standing accepted =>
      exact forall_mem_set decoded (decoded request (List.mem_of_getElem? found))
  | reverted index verifyProof request submission found standing =>
      exact forall_mem_set decoded (decoded request (List.mem_of_getElem? found))
  | foreignSettled call rollup accepted => exact decoded

theorem Counted.step (counted : system.Counted) {event : Event}
    (stepped : system.step event = some next) : next.Counted := by
  cases transition_of_step stepped with
  | admitted request tx sequencer parsed accepted =>
      obtain ⟨extended, -, rfl⟩ := SequencerState.admission_ok.mp accepted
      exact counted
  | locked index request moved sequencer found writes =>
      unfold Counted at counted ⊢
      cases writes with
      | restored message failed =>
          rw [SequencerState.restoreMempool_eq]
          simpa only [BatchRequest.newCommit, List.append_nil] using counted
      | commitFailed prove submission outcome after cause standing fails =>
          rw [SequencerState.commitBatch_error fails]
          simpa only [BatchRequest.newCommit, List.append_nil] using counted
      | committed prove submission outcome after standing commits =>
          obtain ⟨advanced, -, -, rfl⟩ := SequencerState.commitBatch_ok.mp commits
          simp only [BatchRequest.newCommit, List.length_append, List.length_singleton,
            SequencerState.committed, UInt64.toNat_add, UInt64.toNat_one, counted]
          omega
  | _ => exact counted

theorem commits_grow {event : Event} (stepped : system.step event = some next) :
    ∃ more, next.commits = system.commits ++ more := by
  cases transition_of_step stepped with
  | locked => exact ⟨_, rfl⟩
  | _ => exact ⟨[], (List.append_nil _).symm⟩

theorem commits_length_le {events : List Event}
    (stepped : events.foldlM System.step system = some next) :
    system.commits.length ≤ next.commits.length := by
  have run : Run System.step (fun _ _ => True) system next :=
    Run.of_events events (fun _ _ _ => trivial) stepped
  refine run.always (motive := fun reached => system.commits.length ≤ reached.commits.length)
    (Nat.le_refl _) ?_
  intro state event after atLeast _ taken
  obtain ⟨more, grown⟩ := commits_grow taken
  rw [grown, List.length_append]
  omega

theorem decoded_counted_of_events {rollup : Rollup} {events : List Event}
    (stepped : events.foldlM System.step (System.initial start rollup) = some system) :
    system.Decoded ∧ system.Counted := by
  have run : Run System.step (fun _ _ => True) (System.initial start rollup) system :=
    Run.of_events events (fun _ _ _ => trivial) stepped
  refine run.always (motive := fun reached => reached.Decoded ∧ reached.Counted)
    ⟨fun request member => (by cases member), rfl⟩ ?_
  intro state event after both _ taken
  exact ⟨both.1.step taken, both.2.step taken⟩

end System

/-! ## Answers -/

/-- A request of this run that has committed and then read its answer: the events
around both moments, the states there, and what the request held. -/
structure Answer (first : System) (events : List Event) where
  index : Nat
  upTo : List Event
  between : List Event
  later : List Event
  before : System
  committed : System
  reading : System
  answered : System
  prove : ProveResponse
  submission : Submission
  outcome : SettleOutcome
  response : BatchResponse
  split : events = upTo ++ .writeLock index :: (between ++ .arrive index .readLock :: later)
  reached : upTo.foldlM System.step first = some before
  commits : before.step (.writeLock index) = some committed
  waits : between.foldlM System.step committed = some reading
  reads : reading.step (.arrive index .readLock) = some answered
  confirmedBefore : before.PhaseAt index (.confirmed prove submission outcome)
  committedBehind : committed.PhaseAt index (.committed prove submission outcome)
  committedReading : reading.PhaseAt index (.committed prove submission outcome)
  answeredBehind : answered.PhaseAt index (.answered submission response)

namespace Answer

variable {rollup : Rollup} {events : List Event}

/-- How many batches have been committed up to and including its own. -/
def number (answer : Answer (System.initial start rollup) events) : Nat :=
  answer.committed.commits.length

/-- The answer is about the request's own batch. -/
structure Describes (answer : Answer (System.initial start rollup) events) : Prop where
  number : answer.response.batchNumber.toNat = answer.number
  prevRoot : answer.response.prevRoot = hex0x (answer.submission.publicValues.take 32)
  newRoot : answer.response.newRoot = hex0x ((answer.submission.publicValues.drop 32).take 32)

/-- Nobody has committed between the commit and the read, up to a full turn of
the counter, which has not turned before, and the reply's root fields repeat the
words of its own public values. -/
structure Undisturbed (answer : Answer (System.initial start rollup) events) : Prop where
  quiet : 2 ^ 64 ∣ answer.reading.commits.length - answer.number
  early : answer.number < 2 ^ 64
  prevRoot : answer.prove.prevRoot = hex0x (answer.submission.publicValues.take 32)
  newRoot : answer.prove.newRoot = hex0x ((answer.submission.publicValues.drop 32).take 32)

/-- Every answered request has its answer. -/
theorem exists_of_answered {final : System} {index : Nat} {submission : Submission}
    {response : BatchResponse}
    (stepped : events.foldlM System.step (System.initial start rollup) = some final)
    (standing : final.PhaseAt index (.answered submission response)) :
    ∃ answer : Answer (System.initial start rollup) events, answer.index = index ∧
      answer.submission = submission ∧ answer.response = response := by
  have empty : ∀ phase, ¬ (System.initial start rollup).PhaseAt index phase := by
    rintro phase ⟨request, found, -⟩
    cases found
  rcases exists_turn
    (motive := fun system => system.PhaseAt index (.answered submission response))
    stepped (empty _) standing with
    ⟨upToRead, event, later, reading, answered, split, reachedRead, reads, -, off, on⟩
  obtain ⟨rfl, prove, outcome, committedReading, -⟩ := System.reads_of_turn reads off on
  rcases exists_turn
    (motive := fun system => system.PhaseAt index (.committed prove submission outcome))
    reachedRead (empty _) committedReading with
    ⟨upTo, event, between, before, committed, splitRead, reached, commits, waits, offCommit,
      onCommit⟩
  obtain ⟨rfl, confirmedBefore⟩ := System.commits_of_turn commits offCommit onCommit
  exact ⟨{
    index, upTo, between, later, before, committed, reading, answered, prove, submission
    outcome, response, reached, commits, waits, reads, confirmedBefore, committedReading
    split := by rw [split, splitRead, List.append_assoc, List.cons_append]
    committedBehind := onCommit
    answeredBehind := on }, rfl, rfl, rfl⟩

variable (answer : Answer (System.initial start rollup) events)

theorem foldlM_reading :
    (answer.upTo ++ .writeLock answer.index :: answer.between).foldlM System.step
      (System.initial start rollup) = some answer.reading := by
  rw [List.foldlM_append, answer.reached]
  show (Event.writeLock answer.index :: answer.between).foldlM System.step answer.before = _
  rw [foldlM_cons_of_step answer.commits, answer.waits]

/-- The public values are those of the reply, their second word is the root that
the commit has made canonical. -/
theorem committed_root :
    hexToBytes answer.prove.publicValues = .ok answer.submission.publicValues ∧
      answer.committed.sequencer.canonicalRoot.bytes =
        (answer.submission.publicValues.drop 32).take 32 := by
  have decoded := (System.decoded_counted_of_events answer.foldlM_reading).1
  obtain ⟨request, found, standing⟩ := answer.committedReading
  have valid := decoded request (List.mem_of_getElem? found) answer.prove answer.submission
    (by rw [standing]; rfl)
  obtain ⟨publicValues, proof, sized, pvDecoded, -, same⟩ := decodeProof_ok.mp valid
  rw [(System.commit_of_writeLock answer.commits answer.confirmedBefore
    answer.committedBehind).2, same]
  exact ⟨pvDecoded, rfl⟩

theorem describes_iff : answer.Describes ↔ answer.Undisturbed := by
  have counted := (System.decoded_counted_of_events answer.foldlM_reading).2
  have later := System.commits_length_le answer.waits
  rcases System.response_of_readLock answer.committedReading answer.reads answer.answeredBehind with
    ⟨batchNumber, prevRoot, newRoot⟩
  unfold System.Counted at counted
  rw [← batchNumber] at counted
  constructor
  · intro describes
    have same := describes.number
    have small := answer.response.batchNumber.toNat_lt
    rw [counted] at same
    exact {
      quiet := by
        unfold Answer.number at same ⊢
        omega
      early := by omega
      prevRoot := prevRoot ▸ describes.prevRoot
      newRoot := newRoot ▸ describes.newRoot }
  · intro undisturbed
    have quiet := undisturbed.quiet
    have early := undisturbed.early
    exact {
      number := by
        rw [counted]
        unfold Answer.number at quiet early ⊢
        omega
      prevRoot := prevRoot.trans undisturbed.prevRoot
      newRoot := newRoot.trans undisturbed.newRoot }

variable {answer}

/-- A later commit has a higher number. -/
theorem number_lt {other : Answer (System.initial start rollup) events}
    {more : List Event} (later : other.upTo = answer.upTo ++ .writeLock answer.index :: more) :
    answer.number < other.number := by
  have reached := other.reached
  rw [later, List.foldlM_append, answer.reached] at reached
  change (Event.writeLock answer.index :: more).foldlM System.step answer.before = _ at reached
  rw [foldlM_cons_of_step answer.commits] at reached
  have atLeast := System.commits_length_le reached
  have added := (System.commit_of_writeLock other.commits other.confirmedBefore
    other.committedBehind).1
  unfold number
  omega

theorem number_ne {other : Answer (System.initial start rollup) events}
    (different : answer.index ≠ other.index) : answer.number ≠ other.number := by
  have apart : Event.writeLock answer.index ≠ Event.writeLock other.index :=
    fun same => different (Event.writeLock.inj same)
  rcases cut_order apart (answer.split.symm.trans other.split) with
    ⟨more, later⟩ | ⟨more, later⟩
  · exact (number_lt later).ne
  · exact (number_lt later).ne'

end Answer

/-- In every run, whatever the prover, the L1 and the other requests do: every
successful `/batch` answer is about the batch of its request exactly if nobody
commits between the commit and the read and the reply repeats the words of its
public values, and two such answers never carry the same number. -/
theorem answers_describe_iff (start : State) (rollup : Rollup) (events : List Event)
    (final : System)
    (stepped : events.foldlM System.step (System.initial start rollup) = some final) :
    (∀ index submission response, final.PhaseAt index (.answered submission response) →
      ∃ answer : Answer (System.initial start rollup) events, answer.index = index ∧
        answer.submission = submission ∧ answer.response = response) ∧
    (∀ answer : Answer (System.initial start rollup) events,
      hexToBytes answer.prove.publicValues = .ok answer.submission.publicValues ∧
      answer.committed.sequencer.canonicalRoot.bytes =
        (answer.submission.publicValues.drop 32).take 32 ∧
      (answer.Describes ↔ answer.Undisturbed)) ∧
    ∀ answer other : Answer (System.initial start rollup) events, answer.index ≠ other.index →
      answer.Undisturbed → other.Undisturbed →
      answer.response.batchNumber ≠ other.response.batchNumber := by
  refine ⟨fun _ _ _ standing => Answer.exists_of_answered stepped standing, ?_, ?_⟩
  · intro answer
    exact ⟨answer.committed_root.1, answer.committed_root.2, answer.describes_iff⟩
  · intro answer other different undisturbed otherUndisturbed sameNumber
    apply Answer.number_ne different
    rw [← (answer.describes_iff.mpr undisturbed).number,
      ← (other.describes_iff.mpr otherUndisturbed).number, sameNumber]

end

namespace LateRead

open HappyPath (genesis settled deployed transferRequest receipt outcome)
open Resubmission

def firstValues : PublicValues where
  prevRoot := genesis.merkleRoot
  newRoot := settled.merkleRoot
  batchHash := .ofNat 32 0xc21d64f370c9bccad12c97fa556db864691fa7274148ded83f0f89d3fc4abc2e

def secondValues : PublicValues where
  prevRoot := settled.merkleRoot
  newRoot := settledTwice.merkleRoot
  batchHash := .ofNat 32 0xf728ef74045825699c23cc998b7560686c3306c81192c196f18744bc96de186b

/-- The right public values, in a reply that leaves its `prev_root` empty. -/
def firstReply : ProveResponse where
  proof := hex0x []
  publicValues := hex0x firstValues.abiEncode
  vkey := hex0x (FixedBytes.ofNat 32 1).bytes
  prevRoot := []
  newRoot := hex0x firstValues.newRoot.bytes
  batchHash := hex0x firstValues.batchHash.bytes

def secondReply : ProveResponse where
  proof := hex0x []
  publicValues := hex0x secondValues.abiEncode
  vkey := hex0x (FixedBytes.ofNat 32 1).bytes
  prevRoot := hex0x secondValues.prevRoot.bytes
  newRoot := hex0x secondValues.newRoot.bytes
  batchHash := hex0x secondValues.batchHash.bytes

/-- Up to the commit of the request in this slot. -/
def commitEvents (index : Nat) (request : TxRequest) (reply : ProveResponse) : List Event :=
  [.submitTx request, .startBatch, .arrive index (.proverAnswer (.ok reply)), .arrive index .sent,
    .execute index fun _ _ _ => true, .arrive index (.receipt (.mined receipt)), .writeLock index]

/-- The second request commits before the first one reads its answer. -/
def events : List Event :=
  commitEvents 0 transferRequest firstReply ++ commitEvents 1 secondRequest secondReply ++
    [.arrive 0 .readLock, .arrive 1 .readLock]

def submissionOf (values : PublicValues) : Submission where
  publicValues := values.abiEncode
  proof := []
  newRoot := values.newRoot

def responseOf (reply : ProveResponse) : BatchResponse where
  batchNumber := 2
  txs := 1
  prevRoot := reply.prevRoot
  newRoot := reply.newRoot
  batchHash := reply.batchHash
  l1TxHash := hex0x outcome.txHash.bytes
  l1Block := 2
  gasUsed := 84000

end LateRead

open HappyPath in
/-- The one request of the test run, from its commit straight to its answer. -/
theorem answers_describe_iff_happyPath :
    ∃ answer : Answer (System.initial genesis deployed)
        (LateRead.commitEvents 0 transferRequest reply ++ [.arrive 0 .readLock]),
      answer.response.batchNumber = 1 ∧ answer.response.prevRoot = hex0x genesis.merkleRoot.bytes ∧
        (answer.Describes ↔ answer.Undisturbed) := by
  have describes := answers_describe_iff genesis deployed
    (LateRead.commitEvents 0 transferRequest reply ++ [.arrive 0 .readLock]) answered
    (by decide +kernel)
  obtain ⟨answer, -, -, response⟩ := describes.1 0 submission _ ⟨_, rfl, rfl⟩
  exact ⟨answer, by rw [response], by rw [response]; rfl, (describes.2.1 answer).2.2⟩

open LateRead Resubmission in
/-- Two batches settle, both answers say they were the second, and the first one
has no previous root. -/
theorem answers_share_a_number :
    ((commitEvents 0 HappyPath.transferRequest firstReply).foldlM System.step
      (System.initial HappyPath.genesis HappyPath.deployed)).map
        (fun system => system.commits.length) = some 1 ∧
    (LateRead.events.foldlM System.step
      (System.initial HappyPath.genesis HappyPath.deployed)).map
        (fun system => system.requests.map BatchRequest.phase) =
      some [.answered (submissionOf firstValues) (responseOf firstReply),
        .answered (submissionOf secondValues) (responseOf secondReply)] ∧
    (responseOf firstReply).batchNumber = 2 ∧ (responseOf secondReply).batchNumber = 2 ∧
    (responseOf firstReply).prevRoot ≠ hex0x ((submissionOf firstValues).publicValues.take 32) := by
  decide +kernel

end ZkRollup
