import ZkRollup.Sequencer.Conservation
import ZkRollup.System.Acceptance

/-!
Contract: what can become of an acknowledged transfer, under any prover, any L1
and any clients.

A batch is held by its request from the drain until it is restored or committed,
and for good if its proof is malformed, its commit fails or its handler is dropped
with the connection of its client. The two loops that drop silently,
`restore_mempool` and the `retain` of `commit_batch`, are the only other way out.
What they refuse is recorded here as a run goes, with the error that the code
discards.

Does not own: whether a loss is justified. A transfer acknowledged twice is
counted twice, and the loop that meets the second one refuses it.
-/

set_option autoImplicit false

namespace ZkRollup

open Foundation

/-! ## Batches held by a request -/

/-- The request still has the batch, or never gives it back. -/
def Phase.holds : Phase → Bool
  | .committed _ _ _ | .answered _ _ | .restored _ => false
  | _ => true

/-- Answered with an error, or not at all, and neither committed nor restored. -/
def Phase.stranded : Phase → Bool
  | .dropped _ | .commitFailed _ | .cancelled => true
  | _ => false

theorem Phase.holds_eq (phase : Phase) : phase.holds = (phase.inFlight || phase.stranded) := by
  cases phase <;> rfl

theorem Phase.holds_of_isOpen {phase : Phase} (standing : phase.isOpen = true) :
    phase.holds = true := by
  cases phase <;> first | rfl | cases standing

theorem Phase.stranded_of_inFlight {phase : Phase} (standing : phase.inFlight = true) :
    phase.stranded = false := by
  cases phase <;> first | rfl | cases standing

/-- The transfers of the batches that nobody gives back. -/
def stranded (requests : List BatchRequest) : List (List Tx) :=
  (requests.filter fun request => request.phase.stranded).map fun request => request.batch.txs

def BatchRequest.held (request : BatchRequest) : List Tx :=
  if request.phase.holds then request.batch.txs else []

def held (requests : List BatchRequest) : List Tx :=
  requests.flatMap BatchRequest.held

theorem held_perm (requests : List BatchRequest) :
    (held requests).Perm ((inFlight requests).flatten ++ (stranded requests).flatten) := by
  induction requests with
  | nil => exact List.Perm.refl _
  | cons request rest inductionHypothesis =>
      have split := inductionHypothesis.append_left request.held
      have unfolded : held (request :: rest) = request.held ++ held rest := List.flatMap_cons
      rw [unfolded]
      refine split.trans ?_
      unfold BatchRequest.held stranded
      rw [Phase.holds_eq, inFlight_cons, List.filter_cons]
      cases standing : request.phase.inFlight with
      | true =>
          simp only [Phase.stranded_of_inFlight standing, Bool.or_false, if_true, List.flatten_cons,
            Bool.false_eq_true, if_false, List.append_assoc]
          exact List.Perm.refl _
      | false =>
          cases request.phase.stranded with
          | true =>
              simp only [Bool.or_true, if_true, Bool.false_eq_true, if_false, List.map_cons,
                List.flatten_cons]
              exact List.perm_append_comm_assoc _ _ _
          | false => exact List.Perm.refl _

theorem mem_held {requests : List BatchRequest} {request : BatchRequest} {tx : Tx}
    (member : request ∈ requests) (holds : request.phase.holds = true) (own : tx ∈ request.batch.txs) :
    tx ∈ held requests := by
  refine List.mem_flatMap.mpr ⟨request, member, ?_⟩
  unfold BatchRequest.held
  rw [if_pos holds]
  exact own

/-- A request that moves gives back what it no longer holds. -/
theorem held_set {requests : List BatchRequest} {index : Nat} {request moved : BatchRequest}
    (found : requests[index]? = some request) {returned : List Tx}
    (gives : request.held = returned ++ moved.held) :
    (held requests).Perm (returned ++ held (requests.set index moved)) := by
  rcases perm_of_set found moved with ⟨others, before, after⟩
  have unmoved : (held requests).Perm (request.held ++ held others) := before.flatMap_right _
  have behind : (held (requests.set index moved)).Perm (moved.held ++ held others) :=
    after.flatMap_right _
  rw [gives, List.append_assoc] at unmoved
  exact unmoved.trans (behind.symm.append_left returned)

section

variable [Primitives]

/-! ## What the loops refuse -/

/-- The transfers that the write lock of a request drops, with the errors that
`restore_mempool` and `retain` discard. -/
def BatchRequest.refusals (request : BatchRequest) (sequencer : SequencerState) :
    List (Tx × StfError) :=
  match request.phase with
  | .proveFailed _ | .submitFailed _ =>
      refused State.apply sequencer.speculativeState request.batch.txs
  | .confirmed _ submission _ =>
      match sequencer.canonicalState.applyAll request.batch.txs with
      | .error _ => []
      | .ok advanced =>
          if advanced.merkleRoot = submission.newRoot then
            refused State.apply advanced sequencer.mempool
          else
            []
  | _ => []

omit [Primitives] in
theorem BatchRequest.Arrives.held_eq {request moved : BatchRequest}
    {sequencer : SequencerState} {arrival : Arrival}
    (arrives : request.Arrives sequencer arrival moved) : request.held = moved.held := by
  unfold BatchRequest.held
  cases arrives with
  | cancelled broadcast standing => rw [Phase.holds_of_isOpen standing]; rfl
  | _ => simp_all [Phase.holds]

namespace System

def refusals (system : System) : Event → List (Tx × StfError)
  | .writeLock index =>
      match system.requests[index]? with
      | some request => request.refusals system.sequencer
      | none => []
  | _ => []

/-- Everything refused on the way, from the first event to the last. -/
def refusalsOf (system : System) (events : List Event) : List (Tx × StfError) :=
  emitted System.step refusals system events

/-- Every admission is accounted for: pending, held, committed or lost. -/
def Balanced (lost : List Tx) (system : System) : Prop :=
  (system.sequencer.mempool ++ (held system.requests ++ (committedTxs system.commits ++ lost))).Perm
    system.admitted

variable {lost : List Tx} {system next : System}

omit [Primitives] in
/-- A request moves on. What it gives back is in the mempool, committed or lost
with whatever the mempool has lost. -/
theorem Balanced.moved (balanced : system.Balanced lost) {index : Nat}
    {request moved : BatchRequest} (found : system.requests[index]? = some request)
    {returned more : List Tx} {fresh : List Commit} (gives : request.held = returned ++ moved.held)
    (sameRequests : next.requests = system.requests.set index moved)
    (nextCommits : next.commits = system.commits ++ fresh)
    (places : (next.sequencer.mempool ++ (committedTxs fresh ++ more)).Perm
      (system.sequencer.mempool ++ returned))
    (sameAdmitted : next.admitted = system.admitted) : next.Balanced (lost ++ more) := by
  have slots := held_set found gives
  have commits : committedTxs next.commits = committedTxs system.commits ++ committedTxs fresh := by
    rw [nextCommits]
    exact List.flatMap_append
  unfold Balanced at balanced ⊢
  rw [sameRequests, commits, sameAdmitted]
  refine List.Perm.trans ?_ balanced
  rw [List.perm_iff_count] at slots places ⊢
  intro tx
  have atSlots := slots tx
  have atPlaces := places tx
  simp only [List.count_append] at atSlots atPlaces ⊢
  omega

omit [Primitives] in
/-- A request that keeps its batch changes no place. -/
theorem Balanced.kept (balanced : system.Balanced lost) {index : Nat}
    {request moved : BatchRequest} (found : system.requests[index]? = some request)
    (same : request.held = moved.held)
    (sameRequests : next.requests = system.requests.set index moved)
    (sameMempool : next.sequencer.mempool = system.sequencer.mempool)
    (sameCommits : next.commits = system.commits) (sameAdmitted : next.admitted = system.admitted) :
    next.Balanced lost := by
  have gives : request.held = [] ++ moved.held := same
  have commits : next.commits = system.commits ++ [] := by
    rw [sameCommits, List.append_nil]
  have places : (next.sequencer.mempool ++ ([] ++ [])).Perm (system.sequencer.mempool ++ []) := by
    rw [sameMempool]
    exact List.Perm.refl _
  have behind := balanced.moved found gives sameRequests commits places sameAdmitted
  rw [List.append_nil] at behind
  exact behind

omit [Primitives] in
theorem Balanced.admitted (balanced : system.Balanced lost) {tx : Tx}
    (mempool : next.sequencer.mempool = system.sequencer.mempool ++ [tx])
    (sameRequests : next.requests = system.requests) (sameCommits : next.commits = system.commits)
    (admitted : next.admitted = system.admitted ++ [tx]) : next.Balanced lost := by
  unfold Balanced
  rw [mempool, sameRequests, sameCommits, admitted, List.append_assoc]
  have last := List.Perm.append_right [tx] balanced
  rw [List.append_assoc] at last
  exact (List.perm_append_comm.append_left _).trans last

omit [Primitives] in
theorem Balanced.drained (balanced : system.Balanced lost) :
    System.Balanced lost { system with
      sequencer := system.sequencer.drainForBatch.2
      requests := system.requests ++ [{
        prevState := system.sequencer.canonicalState
        batch := ⟨system.sequencer.mempool⟩
        phase := .proving
        l1 := .unsent }] } := by
  have taken (requests : List BatchRequest) (request : BatchRequest) :
      held (requests ++ [request]) = held requests ++ request.held := by
    unfold held
    rw [List.flatMap_append, List.flatMap_singleton]
  show (held (system.requests ++ [_]) ++ _).Perm _
  rw [taken]
  refine List.Perm.trans ?_ balanced
  show (held system.requests ++ system.sequencer.mempool ++ _).Perm _
  rw [← List.append_assoc system.sequencer.mempool]
  exact List.perm_append_comm.append_right _

/-- Restoring and committing keep or refuse each transfer they go through. -/
theorem Balanced.locked (balanced : system.Balanced lost) {index : Nat}
    {request moved : BatchRequest} {sequencer : SequencerState}
    (found : system.requests[index]? = some request)
    (writes : request.WriteLocks system.sequencer moved sequencer) :
    System.Balanced (lost ++ (request.refusals system.sequencer).map Prod.fst) { system with
      sequencer
      requests := system.requests.set index moved
      commits := system.commits ++ moved.newCommit } := by
  cases writes with
  | restored message standing =>
      have refuses : request.refusals system.sequencer =
          refused State.apply system.sequencer.speculativeState request.batch.txs := by
        unfold BatchRequest.refusals
        rcases standing with ⟨cause, standing⟩ | ⟨cause, standing⟩ <;> rw [standing]
      have holds : request.held = request.batch.txs ++ [] := by
        unfold BatchRequest.held
        rcases standing with ⟨cause, standing⟩ | ⟨cause, standing⟩ <;>
          rw [standing, List.append_nil] <;> rfl
      refine balanced.moved found holds rfl rfl ?_ rfl
      rw [SequencerState.restoreMempool_eq, refuses]
      show (system.sequencer.mempool ++ _ ++ _).Perm _
      rw [List.append_assoc]
      exact (sift_refused_perm _ _).append_left _
  | committed prove submission outcome after standing commits =>
      obtain ⟨advanced, replayed, sameRoot, rfl⟩ := SequencerState.commitBatch_ok.mp commits
      have refuses : request.refusals system.sequencer =
          refused State.apply advanced system.sequencer.mempool := by
        unfold BatchRequest.refusals
        simp only [standing, replayed, if_pos sameRoot]
      have holds : request.held = request.batch.txs ++ [] := by
        unfold BatchRequest.held
        rw [standing, List.append_nil]
        rfl
      refine balanced.moved found holds rfl rfl ?_ rfl
      rw [refuses]
      have sifted : ((sift State.apply advanced system.sequencer.mempool).1 ++
          (refused State.apply advanced system.sequencer.mempool).map Prod.fst).Perm
            system.sequencer.mempool := sift_refused_perm advanced _
      show ((sift State.apply advanced system.sequencer.mempool).1 ++
        (request.batch.txs ++ [] ++ _)).Perm _
      rw [List.append_nil]
      refine List.Perm.trans ?_ (sifted.append_right _)
      rw [List.append_assoc]
      exact List.perm_append_comm.append_left _
  | commitFailed prove submission outcome after cause standing fails =>
      have refuses : request.refusals system.sequencer = [] := by
        unfold BatchRequest.refusals
        rw [standing]
        cases replayed : system.sequencer.canonicalState.applyAll request.batch.txs with
        | error failure => rfl
        | ok advanced =>
            refine if_neg fun sameRoot => ?_
            have commits := SequencerState.commitBatch_ok.mpr ⟨advanced, replayed, sameRoot, rfl⟩
            rw [fails] at commits
            cases commits
      rw [refuses, SequencerState.commitBatch_error fails, List.map_nil, List.append_nil]
      refine balanced.kept found ?_ rfl rfl (List.append_nil _) rfl
      unfold BatchRequest.held
      rw [standing]
      rfl

/-- No other event than a write lock refuses an admitted transfer. -/
theorem Balanced.elsewhere (balanced : system.Balanced lost) {event : Event}
    (transition : system.Transition event next) (unlocked : ∀ index, event ≠ .writeLock index) :
    next.Balanced lost := by
  cases transition with
  | unchanged => exact balanced
  | admitted request tx sequencer parsed accepted =>
      obtain ⟨extended, applied, rfl⟩ := SequencerState.admission_ok.mp accepted
      exact balanced.admitted rfl rfl rfl rfl
  | drained nonempty => exact balanced.drained
  | arrived index arrival request moved found arrives =>
      exact balanced.kept found arrives.held_eq rfl rfl rfl rfl
  | locked index request moved sequencer found writes => exact absurd rfl (unlocked index)
  | settled index verifyProof request submission rollup event found standing accepted =>
      have same : request.held = BatchRequest.held { request with l1 := .settled } := rfl
      exact balanced.kept found same rfl rfl rfl rfl
  | reverted index verifyProof request submission found standing =>
      have same : request.held = BatchRequest.held { request with l1 := .reverted } := rfl
      exact balanced.kept found same rfl rfl rfl rfl
  | foreignSettled call rollup accepted => exact balanced

theorem Balanced.step (balanced : system.Balanced lost) {event : Event}
    (stepped : system.step event = some next) :
    next.Balanced (lost ++ (system.refusals event).map Prod.fst) := by
  by_cases lock : ∃ index, event = .writeLock index
  · obtain ⟨index, rfl⟩ := lock
    simp only [System.step, bind, Option.bind_eq_some_iff] at stepped
    obtain ⟨request, found, ⟨moved, sequencer⟩, locked, same⟩ := stepped
    cases same
    have refuses : system.refusals (.writeLock index) = request.refusals system.sequencer := by
      simp only [refusals, found]
    rw [refuses]
    exact balanced.locked found (BatchRequest.writeLocks_of_writeLock locked)
  · have unlocked : ∀ index, event ≠ .writeLock index := fun index same => lock ⟨index, same⟩
    have none : system.refusals event = [] := by
      unfold refusals
      split
      · exact absurd rfl (unlocked _)
      · rfl
    rw [none, List.map_nil, List.append_nil]
    exact balanced.elsewhere (transition_of_step stepped) unlocked

theorem Balanced.run (balanced : system.Balanced lost) {events : List Event}
    (stepped : events.foldlM System.step system = some next) :
    next.Balanced (lost ++ (system.refusalsOf events).map Prod.fst) := by
  have initial : system.Balanced (lost ++ ([] : List (Tx × StfError)).map Prod.fst) := by
    rw [List.map_nil, List.append_nil]
    exact balanced
  have kept : ∀ (collected : List (Tx × StfError)) (state : System) (event : Event) (after : System),
      state.Balanced (lost ++ collected.map Prod.fst) → state.step event = some after →
        after.Balanced (lost ++ (collected ++ state.refusals event).map Prod.fst) := by
    intro collected state event after balanced stepped
    rw [List.map_append, ← List.append_assoc]
    exact balanced.step stepped
  exact emitted_balance kept initial stepped

theorem balanced_of_run {start : State} {rollup : Rollup} {allowed : System → Event → Prop}
    (run : Run System.step allowed (System.initial start rollup) system) :
    ∃ lost, system.Balanced lost := by
  refine run.always (motive := fun reached => ∃ lost, reached.Balanced lost)
    ⟨[], List.Perm.refl _⟩ ?_
  rintro state event after ⟨lost, balanced⟩ - stepped
  exact ⟨_, balanced.step stepped⟩

omit [Primitives] in
theorem Balanced.mempool_subset (balanced : system.Balanced lost) :
    ∀ tx ∈ system.sequencer.mempool, tx ∈ system.admitted :=
  fun _ member => balanced.subset (List.mem_append_left _ member)

omit [Primitives] in
theorem Balanced.held_subset (balanced : system.Balanced lost) :
    ∀ tx ∈ held system.requests, tx ∈ system.admitted :=
  fun _ member => balanced.subset (List.mem_append_right _ (List.mem_append_left _ member))

end System

/-! ## Why a transfer is refused -/

/-- The account is at another nonce, or cannot pay the amount. -/
def StfError.Outdates (tx : Tx) : StfError → Prop
  | .nonceMismatch expected got => got = tx.nonce ∧ expected ≠ tx.nonce
  | .insufficientBalance available need => need = tx.amount ∧ available < tx.amount
  | _ => False

/-- The two checks that depend on the transfer alone. -/
structure Tx.Presentable (tx : Tx) : Prop where
  distinct : tx.from ≠ tx.to
  signed : tx.Signed

theorem State.Holds.outdates {amount : Nat} {state : State} (holds : state.Holds amount)
    (bounded : amount < 2 ^ 64) {tx : Tx} (presentable : tx.Presentable) {failure : StfError}
    (failed : state.apply tx = .error failure) : failure.Outdates tx := by
  have fits := holds.ne_overflow bounded tx
  rw [failed] at fits
  have check := State.apply_error.mp failed
  unfold Ledger.failedCheck at check
  rw [if_neg presentable.distinct, if_neg (not_not.mpr presentable.signed)] at check
  split_ifs at check with nonce short outOfRange
  · cases check
    exact ⟨rfl, fun same => nonce (State.ledger_nonce_eq.mpr (by simpa [State.ledger] using same))⟩
  · cases check
    exact ⟨rfl, by simpa [State.ledger] using State.ledger_balance_lt.mp short⟩
  · cases check
    exact absurd rfl fits

theorem State.Holds.refused_outdated {amount : Nat} {state : State} (holds : state.Holds amount)
    (bounded : amount < 2 ^ 64) {txs : List Tx} (presentable : ∀ tx ∈ txs, tx.Presentable) :
    ∀ refusal ∈ refused State.apply state txs, refusal.2.Outdates refusal.1 := by
  intro refusal member
  obtain ⟨reached, called, failed⟩ := exists_call_of_refused member
  have own : refusal.1 ∈ txs := (sift_refused_perm state txs).subset
    (List.mem_append_right _ (List.mem_map_of_mem member))
  have there := siftCalls_invariant State.Holds.apply holds _ called
  exact there.outdates bounded (presentable _ own) failed

/-- A step of the system is at most one operation of the sequencer. -/
theorem System.Transition.operation {system next : System} {event : Event}
    (transition : system.Transition event next) :
    next.sequencer = system.sequencer ∨ ∃ operation : Operation,
      next.sequencer = (attempt operation.perform system.sequencer).2 := by
  cases transition with
  | admitted request tx sequencer parsed accepted =>
      refine .inr ⟨.admitTx tx, ?_⟩
      show sequencer = (attempt (SequencerState.admitTx tx) system.sequencer).2
      rw [SequencerState.admitTx_realizes.attempt, accepted]
  | drained nonempty => exact .inr ⟨.drainForBatch, rfl⟩
  | locked index request moved sequencer found writes =>
      cases writes with
      | restored message standing => exact .inr ⟨.restoreMempool request.batch, rfl⟩
      | committed prove submission outcome next standing commits =>
          refine .inr ⟨.commitBatch request.batch submission.newRoot, ?_⟩
          unfold attempt Operation.perform
          rw [commits]
      | commitFailed prove submission outcome next cause standing fails =>
          refine .inr ⟨.commitBatch request.batch submission.newRoot, ?_⟩
          unfold attempt Operation.perform
          rw [fails]
  | unchanged | arrived | settled | reverted | foreignSettled => exact .inl rfl

namespace System

variable {amount : Nat} {lost : List Tx} {system next : System}

/-- Both layers are worth the genesis, and whatever was admitted can only become
outdated. -/
structure Solid (amount : Nat) (system : System) : Prop where
  holds : system.sequencer.Layers (State.Holds amount)
  presentable : ∀ tx ∈ system.admitted, tx.Presentable

theorem Solid.step (solid : system.Solid amount) {event : Event}
    (stepped : system.step event = some next) : next.Solid amount := by
  have transition := transition_of_step stepped
  constructor
  · rcases transition.operation with same | ⟨operation, performed⟩
    · rw [same]
      exact solid.holds
    · rw [performed]
      exact solid.holds.perform State.Holds.apply operation
  · cases transition with
    | admitted request tx sequencer parsed accepted =>
        obtain ⟨extended, applied, rfl⟩ := SequencerState.admission_ok.mp accepted
        have accepts := (State.apply_ok.mp applied).1
        exact forall_mem_concat solid.presentable
          { distinct := accepts.distinct, signed := accepts.signed }
    | unchanged | drained | arrived | locked | settled | reverted | foreignSettled =>
        exact solid.presentable

/-- What a step refuses was admitted, and has become outdated. -/
theorem Solid.refusals (solid : system.Solid amount) (bounded : amount < 2 ^ 64)
    (balanced : system.Balanced lost) (event : Event) :
    ∀ refusal ∈ system.refusals event, refusal.2.Outdates refusal.1 := by
  intro refusal member
  unfold System.refusals at member
  split at member
  next index =>
    cases found : system.requests[index]? with
    | none =>
        rw [found] at member
        cases member
    | some request =>
        simp only [found] at member
        have present := List.mem_of_getElem? found
        have restorable (holds : request.phase.holds = true)
            (restores : refusal ∈ refused State.apply system.sequencer.speculativeState
              request.batch.txs) : refusal.2.Outdates refusal.1 := by
          have presentable : ∀ tx ∈ request.batch.txs, tx.Presentable := fun tx own =>
            solid.presentable tx (balanced.held_subset tx (mem_held present holds own))
          exact solid.holds.speculative.refused_outdated bounded presentable refusal restores
        unfold BatchRequest.refusals at member
        split at member
        next cause standing => exact restorable (by rw [standing]; rfl) member
        next cause standing => exact restorable (by rw [standing]; rfl) member
        next prove submission outcome standing =>
          split at member
          next => cases member
          next advanced replayed =>
            split_ifs at member with sameRoot
            · have worth : advanced.Holds amount :=
                replay_invariant State.Holds.apply solid.holds.canonical replayed
              have presentable : ∀ tx ∈ system.sequencer.mempool, tx.Presentable := fun tx own =>
                solid.presentable tx (balanced.mempool_subset tx own)
              exact worth.refused_outdated bounded presentable refusal member
            · cases member
        next => cases member
  next => cases member

/-- Whatever a run refuses has become outdated. -/
theorem Solid.refusalsOf (solid : system.Solid amount) (bounded : amount < 2 ^ 64)
    (balanced : system.Balanced lost) (events : List Event) :
    ∀ refusal ∈ system.refusalsOf events, refusal.2.Outdates refusal.1 := by
  refine forall_emitted (motive := fun state => state.Solid amount ∧ ∃ lost, state.Balanced lost)
    ?_ ?_ ⟨solid, lost, balanced⟩
  · intro state event after ⟨solid, lost, balanced⟩ stepped
    exact ⟨solid.step stepped, _, balanced.step stepped⟩
  · intro state event ⟨solid, lost, balanced⟩
    exact solid.refusals bounded balanced event

end System

/-- Whatever the prover, the L1 and the clients do: every transfer that `/tx` has
acknowledged is, as often as it was acknowledged, in the mempool, in a batch in
flight, in the commits, in a batch left behind by a malformed proof, a failed
commit or a dropped handler, or refused by one of the two silent loops. They refuse
it for its nonce or for its sender's balance, and for nothing else. -/
theorem acknowledged_transfers_accounted (genesis : Genesis) (start : State)
    (loaded : genesis.intoState = .ok start) (rollup : Rollup) (events : List Event)
    (system : System)
    (run : events.foldlM System.step (System.initial start rollup) = some system) :
    (system.sequencer.mempool ++ (inFlight system.requests).flatten ++
      committedTxs system.commits ++ (stranded system.requests).flatten ++
      ((System.initial start rollup).refusalsOf events).map Prod.fst).Perm system.admitted ∧
    (start.total ≤ 2 ^ 64 - 1 → ∀ refusal ∈ (System.initial start rollup).refusalsOf events,
      refusal.2.Outdates refusal.1) := by
  have balanced : (System.initial start rollup).Balanced [] := List.Perm.refl _
  constructor
  · refine List.Perm.trans ?_ (balanced.run run)
    have places := held_perm system.requests
    rw [List.perm_iff_count] at places ⊢
    intro tx
    have atTx := places tx
    simp only [List.count_append, List.count_nil] at atTx ⊢
    omega
  · intro bounded
    have sorted := Genesis.intoState_sorted loaded
    have solid : (System.initial start rollup).Solid start.total := {
      holds := (SequencerState.Holds.fromGenesis sorted).layers
      presentable := fun tx member => by cases member }
    exact solid.refusalsOf (by omega) balanced events

end

namespace HappyPath

/-- Acknowledged three times: the second batch is lost with its handler, the proof
of the first one has failed. -/
def handedBack : System :=
  { proving with
    sequencer := pending
    requests := [{
      prevState := genesis
      batch := ⟨[transfer]⟩
      phase := .restored (.internal (.proveFailed "timeout"))
      l1 := .unsent }, {
      prevState := genesis
      batch := ⟨[transfer]⟩
      phase := .cancelled
      l1 := .unsent }]
    admitted := [transfer, transfer, transfer] }

end HappyPath

open HappyPath in
/-- One of three acknowledgements of a transfer is pending, one is stranded and one
is lost to the nonce check. -/
theorem acknowledged_transfers_accounted_resubmitted :
    (([transfer] ++ [] ++ [] ++ [transfer] ++ [transfer] : List Tx).Perm
      [transfer, transfer, transfer]) ∧
      StfError.Outdates transfer (.nonceMismatch 1 0) := by
  have accounted := acknowledged_transfers_accounted genesisFile genesis (by decide +kernel) deployed
    [.submitTx transferRequest, .startBatch, .submitTx transferRequest, .startBatch,
      .submitTx transferRequest, .arrive 1 (.disconnected false),
      .arrive 0 (.proverAnswer (.error "timeout")), .writeLock 0] handedBack (by decide +kernel)
  have refuses : (System.initial genesis deployed).refusalsOf
      [.submitTx transferRequest, .startBatch, .submitTx transferRequest, .startBatch,
        .submitTx transferRequest, .arrive 1 (.disconnected false),
        .arrive 0 (.proverAnswer (.error "timeout")), .writeLock 0] =
      [(transfer, .nonceMismatch 1 0)] := by
    decide +kernel
  rw [refuses] at accounted
  exact ⟨accounted.1, accounted.2 (by decide +kernel) _ (List.mem_singleton.mpr rfl)⟩

end ZkRollup
