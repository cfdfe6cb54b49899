import ZkRollup.Stf.Authorization
import ZkRollup.Stf.Disjoint
import ZkRollup.System.Commits

/-!
Contract: no admitted transfer is lost or duplicated while the senders in flight
stay quiet.

The mempool and the batches in flight are groups of transfers with disjoint
senders, each of which replays from the canonical state. Such groups replay in
any order, so a restore finds all its transfers still applicable on top of
newer ones, and a commit finds the whole mempool applicable on the state it
moved to: neither loop drops anything. The places are those of the sequencer:
a batch that settles although `submit_batch` reported an error is restored like
any other, and this module does not need to exclude it.

Does not own: senders who submit again while a batch of theirs is in flight. The
speculative state does not know what is in flight, and two transfers with one
nonce can then be admitted.
-/

set_option autoImplicit false

namespace ZkRollup

open Foundation

/-- Drained, and neither committed nor restored. -/
def Phase.inFlight : Phase → Bool
  | .proving | .proveFailed _ | .submitting _ _ | .awaiting _ _ | .submitFailed _
  | .confirmed _ _ _ => true
  | _ => false

/-- The transfers of the batches in flight, batch by batch. -/
def inFlight (requests : List BatchRequest) : List (List Tx) :=
  (requests.filter fun request => request.phase.inFlight).map fun request => request.batch.txs

theorem mem_inFlight {requests : List BatchRequest} {request : BatchRequest}
    (member : request ∈ requests) (standing : request.phase.inFlight = true) :
    request.batch.txs ∈ inFlight requests :=
  List.mem_map.mpr ⟨request, List.mem_filter.mpr ⟨member, standing⟩, rfl⟩

theorem inFlight_cons (request : BatchRequest) (requests : List BatchRequest) :
    inFlight (request :: requests) =
      if request.phase.inFlight then request.batch.txs :: inFlight requests
      else inFlight requests := by
  unfold inFlight
  rw [List.filter_cons]
  split_ifs <;> rfl

theorem inFlight_concat (requests : List BatchRequest) (request : BatchRequest)
    (standing : request.phase.inFlight = true) :
    inFlight (requests ++ [request]) = inFlight requests ++ [request.batch.txs] := by
  unfold inFlight
  rw [List.filter_append, List.map_append, List.filter_singleton, standing]
  rfl

theorem inFlight_perm {requests others : List BatchRequest} (reordered : requests.Perm others) :
    (inFlight requests).Perm (inFlight others) :=
  (reordered.filter _).map _

/-- A request that stays in flight, or stays out, with its batch. -/
theorem inFlight_set_same {requests : List BatchRequest} {index : Nat}
    {request moved : BatchRequest} (found : requests[index]? = some request)
    (sameBatch : moved.batch = request.batch)
    (sameStanding : moved.phase.inFlight = request.phase.inFlight) :
    (inFlight (requests.set index moved)).Perm (inFlight requests) := by
  rcases perm_of_set found moved with ⟨others, before, after⟩
  have sameCons : inFlight (moved :: others) = inFlight (request :: others) := by
    rw [inFlight_cons, inFlight_cons, sameBatch, sameStanding]
  exact (inFlight_perm after).trans (sameCons ▸ (inFlight_perm before).symm)

/-- A request lands: its batch was one of those in flight, the others are left. -/
theorem inFlight_set_landed {requests : List BatchRequest} {index : Nat}
    {request moved : BatchRequest} (found : requests[index]? = some request)
    (standing : request.phase.inFlight = true) (landed : moved.phase.inFlight = false) :
    (inFlight requests).Perm (request.batch.txs :: inFlight (requests.set index moved)) := by
  rcases perm_of_set found moved with ⟨others, before, after⟩
  have left : (inFlight (requests.set index moved)).Perm (inFlight others) := by
    have landedPerm := inFlight_perm after
    rw [inFlight_cons, if_neg (by rw [landed]; exact Bool.false_ne_true)] at landedPerm
    exact landedPerm
  have split := inFlight_perm before
  rw [inFlight_cons, if_pos standing] at split
  exact split.trans (left.symm.cons _)

section

variable [Primitives]

/-! ## The environment -/

/-- Nobody submits while a batch of theirs is in flight, the prover's replies are
hexadecimal, as `prover-svc` builds them, and no `/batch` handler is dropped. -/
def System.Quiet (system : System) : Event → Prop
  | .submitTx request =>
      ∀ tx, request.intoTx = .ok tx → ∀ group ∈ inFlight system.requests, ∀ other ∈ group,
        tx.from ≠ other.from
  | .arrive _ (.proverAnswer (.ok prove)) => prove.WellFormed
  | .arrive _ (.disconnected _) => False
  | _ => True

/-- Honest and well-formed proofs, quiet senders and patient clients. -/
def System.Orderly (system : System) (event : Event) : Prop :=
  system.Honest event ∧ system.Quiet event

/-! ## The invariant -/

/-- The mempool, and the batches in flight. -/
def System.groups (system : System) : List (List Tx) :=
  system.sequencer.mempool :: inFlight system.requests

structure System.Accounted (system : System) : Prop where
  pending : Pending system.sequencer.canonicalState system.groups
  everything : (system.groups.flatten ++ committedTxs system.commits).Perm system.admitted

variable {start ledger : State} {system next : System}

omit [Primitives] in
/-- An arrival leaves a request in flight, or out of it, unless the reply is
malformed or the handler is dropped. -/
theorem BatchRequest.Arrives.keepsStanding {request moved : BatchRequest} {sequencer : SequencerState}
    {arrival : Arrival} (arrives : request.Arrives sequencer arrival moved)
    (wellFormed : ∀ prove, arrival = .proverAnswer (.ok prove) → prove.WellFormed)
    (stays : ∀ broadcast, arrival ≠ .disconnected broadcast) :
    moved.batch = request.batch ∧ moved.phase.inFlight = request.phase.inFlight := by
  cases arrives with
  | dropped prove failure standing malformed =>
      rcases ProveResponse.wellFormed_iff.mp (wellFormed prove rfl) with ⟨submission, decoded⟩
      rw [malformed] at decoded
      cases decoded
  | proveFailed cause standing => exact ⟨rfl, by rw [standing]; rfl⟩
  | submitting prove submission standing decoded => exact ⟨rfl, by rw [standing]; rfl⟩
  | awaiting prove submission standing => exact ⟨rfl, by rw [standing]; rfl⟩
  | sendFailed prove submission cause broadcast standing => exact ⟨rfl, by rw [standing]; rfl⟩
  | submitFailed prove submission answer cause standing => exact ⟨rfl, by rw [standing]; rfl⟩
  | confirmed prove submission answer outcome standing => exact ⟨rfl, by rw [standing]; rfl⟩
  | answered prove submission outcome response standing => exact ⟨rfl, by rw [standing]; rfl⟩
  | disconnected prove submission broadcast standing => exact absurd rfl (stays broadcast)
  | cancelled broadcast standing => exact absurd rfl (stays broadcast)

namespace System

/-- What the other invariants say about the canonical state. -/
structure Grounded (system : System) : Prop where
  sorted : system.sequencer.canonicalState.Sorted
  bounded : system.sequencer.canonicalState.total < 2 ^ 64
  consistent : system.sequencer.Consistent

theorem Aligned.grounded (aligned : system.Aligned start ledger) (logged : system.Logged start)
    (sorted : start.Sorted) (bounded : start.total < 2 ^ 64) : system.Grounded where
  sorted := aligned.sorted
  bounded := by
    rw [sorted.applyAll_total logged.chain]
    exact bounded
  consistent := aligned.consistent

/-- The groups with one batch in flight put next to the mempool. -/
theorem Accounted.split (accounted : system.Accounted) {index : Nat}
    {request : BatchRequest} (found : system.requests[index]? = some request)
    (standing : request.phase.inFlight = true) (phase : Phase)
    (landed : phase.inFlight = false) :
    system.groups.Perm (system.sequencer.mempool :: request.batch.txs ::
        inFlight (system.requests.set index { request with phase })) ∧
      Pending system.sequencer.canonicalState (system.sequencer.mempool :: request.batch.txs ::
        inFlight (system.requests.set index { request with phase })) := by
  have reordered : system.groups.Perm (system.sequencer.mempool :: request.batch.txs ::
      inFlight (system.requests.set index { request with phase })) :=
    (inFlight_set_landed found standing landed).cons _
  exact ⟨reordered, accounted.pending.perm reordered⟩

/-- The restore loop keeps every transfer of a batch in flight. -/
theorem Accounted.restores (accounted : system.Accounted) (grounded : system.Grounded)
    {request : BatchRequest} (member : request ∈ system.requests)
    (standing : request.phase.inFlight = true) :
    (SequencerState.restoreMempool request.batch system.sequencer).mempool =
      system.sequencer.mempool ++ request.batch.txs := by
  have onTop := accounted.pending.advance grounded.sorted grounded.bounded
    grounded.consistent.pending
  rcases onTop.replays _ (mem_inFlight member standing) with ⟨final, replayed⟩
  rw [SequencerState.restoreMempool_eq]
  show system.sequencer.mempool ++ (sift State.apply _ _).1 = _
  rw [sift_of_replay replayed]

/-- The retain loop keeps the whole mempool when a batch in flight commits. -/
theorem Accounted.retains (accounted : system.Accounted) (grounded : system.Grounded)
    {request : BatchRequest} (member : request ∈ system.requests)
    (standing : request.phase.inFlight = true) {advanced : State}
    (replayed : system.sequencer.canonicalState.applyAll request.batch.txs = .ok advanced) :
    (system.sequencer.committed advanced).mempool = system.sequencer.mempool := by
  have apart := (List.pairwise_cons.mp accounted.pending.apart).1 _ (mem_inFlight member standing)
  rcases grounded.sorted.applyAll_of_apart grounded.bounded apart.symm replayed
    grounded.consistent.pending with ⟨final, follows⟩
  show (sift State.apply advanced system.sequencer.mempool).1 = _
  rw [sift_of_replay follows]

/-! ## Steps -/

/-- Nothing changes its place. -/
theorem Accounted.keep (accounted : system.Accounted)
    (sameState : next.sequencer.canonicalState = system.sequencer.canonicalState)
    (sameMempool : next.sequencer.mempool = system.sequencer.mempool)
    (reordered : (inFlight next.requests).Perm (inFlight system.requests))
    (sameCommits : next.commits = system.commits) (sameAdmitted : next.admitted = system.admitted) :
    next.Accounted := by
  have sameGroups : next.groups.Perm system.groups := by
    unfold groups
    rw [sameMempool]
    exact reordered.cons _
  constructor
  · rw [sameState]
    exact accounted.pending.perm sameGroups.symm
  · rw [sameCommits, sameAdmitted]
    exact (sameGroups.flatten.append_right _).trans accounted.everything

theorem Accounted.submitted (accounted : system.Accounted) (grounded : system.Grounded) {tx : Tx}
    {sequencer : SequencerState} (accepted : system.sequencer.admission tx = .ok sequencer)
    (quiet : ∀ group ∈ inFlight system.requests, ∀ other ∈ group, tx.from ≠ other.from) :
    System.Accounted { system with sequencer, admitted := system.admitted ++ [tx] } := by
  have consistent := grounded.consistent.admission accepted
  rcases SequencerState.admission_ok.mp accepted with ⟨extended, -, rfl⟩
  constructor
  · refine accounted.pending.extend ?_ ⟨extended, consistent.pending⟩
    intro group member own ownMember
    rw [List.mem_singleton.mp ownMember]
    exact quiet group member
  · show ((system.sequencer.mempool ++ [tx]) ++ (inFlight system.requests).flatten ++
      committedTxs system.commits).Perm (system.admitted ++ [tx])
    have everything : (system.sequencer.mempool ++ (inFlight system.requests).flatten ++
        committedTxs system.commits).Perm system.admitted := accounted.everything
    refine List.Perm.trans ?_ (everything.append_right [tx])
    simp only [List.append_assoc]
    refine List.Perm.append_left _ ?_
    rw [← List.append_assoc (inFlight system.requests).flatten]
    exact List.perm_append_comm

theorem Accounted.drained (accounted : system.Accounted) :
    System.Accounted { system with
      sequencer := system.sequencer.drainForBatch.2
      requests := system.requests ++ [{
        prevState := system.sequencer.canonicalState
        batch := ⟨system.sequencer.mempool⟩
        phase := .proving
        l1 := .unsent }] } := by
  have reordered : system.groups.Perm (inFlight system.requests ++ [system.sequencer.mempool]) :=
    (List.perm_append_singleton _ _).symm
  have sameFlight := inFlight_concat system.requests {
    prevState := system.sequencer.canonicalState
    batch := ⟨system.sequencer.mempool⟩
    phase := .proving
    l1 := .unsent } rfl
  constructor
  · show Pending system.sequencer.canonicalState ([] :: inFlight (system.requests ++ [_]))
    rw [sameFlight]
    exact (accounted.pending.perm reordered).nil_cons
  · show (([] :: inFlight (system.requests ++ [_])).flatten ++ _).Perm _
    rw [sameFlight]
    exact (reordered.symm.flatten.append_right _).trans accounted.everything

theorem Accounted.restored (accounted : system.Accounted) (grounded : system.Grounded)
    {index : Nat} {request : BatchRequest} (found : system.requests[index]? = some request)
    (standing : request.phase.inFlight = true) (phase : Phase)
    (landed : phase.inFlight = false) :
    System.Accounted { system with
      sequencer := SequencerState.restoreMempool request.batch system.sequencer
      requests := system.requests.set index { request with phase } } := by
  have restores := accounted.restores grounded (List.mem_of_getElem? found) standing
  rcases accounted.split found standing phase landed with ⟨reordered, pending⟩
  constructor
  · show Pending (SequencerState.restoreMempool request.batch system.sequencer).canonicalState
      ((SequencerState.restoreMempool request.batch system.sequencer).mempool :: _)
    rw [SequencerState.restoreMempool_canonicalState, restores]
    exact pending.merge grounded.sorted grounded.bounded
  · show (((SequencerState.restoreMempool request.batch system.sequencer).mempool :: _).flatten ++
      _).Perm _
    rw [restores]
    refine List.Perm.trans ?_ accounted.everything
    refine List.Perm.append_right _ (List.Perm.trans ?_ reordered.symm.flatten)
    simp only [List.flatten_cons, List.append_assoc]
    exact List.Perm.refl _

theorem Accounted.committed (accounted : system.Accounted) (grounded : system.Grounded)
    {index : Nat} {request : BatchRequest} {advanced : State}
    (found : system.requests[index]? = some request)
    (standing : request.phase.inFlight = true) (phase : Phase)
    (landed : phase.inFlight = false) (newRoot : Hash)
    (replayed : system.sequencer.canonicalState.applyAll request.batch.txs = .ok advanced) :
    System.Accounted { system with
      sequencer := system.sequencer.committed advanced
      requests := system.requests.set index { request with phase }
      commits := system.commits ++ [{ batch := request.batch, newRoot }] } := by
  have retains := accounted.retains grounded (List.mem_of_getElem? found) standing replayed
  rcases accounted.split found standing phase landed with ⟨reordered, pending⟩
  constructor
  · show Pending advanced ((system.sequencer.committed advanced).mempool :: _)
    rw [retains]
    exact (pending.perm (List.Perm.swap _ _ _)).advance grounded.sorted grounded.bounded replayed
  · show (((system.sequencer.committed advanced).mempool :: _).flatten ++
      committedTxs (system.commits ++ _)).Perm _
    rw [retains]
    refine List.Perm.trans ?_ ((reordered.symm.flatten.append_right _).trans accounted.everything)
    simp only [committedTxs, List.flatten_cons, List.flatMap_append, List.flatMap_singleton,
      List.append_assoc]
    refine List.Perm.append_left _ ?_
    rw [← List.append_assoc]
    exact List.perm_append_comm

theorem Accounted.locked (accounted : system.Accounted) (grounded : system.Grounded)
    (aligned : system.Aligned start ledger) {index : Nat} {request moved : BatchRequest}
    {sequencer : SequencerState} (found : system.requests[index]? = some request)
    (writes : request.WriteLocks system.sequencer moved sequencer) :
    System.Accounted { system with
      sequencer
      requests := system.requests.set index moved
      commits := system.commits ++ moved.newCommit } := by
  have member := List.mem_of_getElem? found
  cases writes with
  | restored message standing =>
      have inFlight : request.phase.inFlight = true := by
        rcases standing with ⟨cause, standing⟩ | ⟨cause, standing⟩ <;> rw [standing] <;> rfl
      have restored := accounted.restored grounded found inFlight
        (.restored (.internal message)) rfl
      have noCommit : system.commits ++ [] = system.commits := List.append_nil _
      rw [← noCommit] at restored
      exact restored
  | committed prove submission outcome after standing commits =>
      rcases SequencerState.commitBatch_ok.mp commits with ⟨advanced, replayed, -, rfl⟩
      have inFlight : request.phase.inFlight = true := by
        rw [standing]
        rfl
      have committed := accounted.committed grounded found inFlight
        (.committed prove submission outcome) rfl submission.newRoot replayed
      exact committed
  | commitFailed prove submission outcome after cause standing fails =>
      exact absurd fails (aligned.commit_not_failing member standing)

theorem Accounted.step (accounted : system.Accounted) (grounded : system.Grounded)
    (aligned : system.Aligned start ledger) {event : Event} (quiet : system.Quiet event)
    (stepped : system.step event = some next) : next.Accounted := by
  cases transition_of_step stepped with
  | unchanged => exact accounted
  | admitted request tx sequencer parsed accepted =>
      exact accounted.submitted grounded accepted (quiet tx parsed)
  | drained nonempty => exact accounted.drained
  | arrived index arrival request moved found arrives =>
      have keeps : moved.batch = request.batch ∧ moved.phase.inFlight = request.phase.inFlight := by
        refine arrives.keepsStanding ?_ ?_
        · rintro prove rfl
          exact quiet
        · rintro broadcast rfl
          exact quiet
      exact accounted.keep rfl rfl (inFlight_set_same found keeps.1 keeps.2) rfl rfl
  | locked index request moved sequencer found writes =>
      exact accounted.locked grounded aligned found writes
  | settled index verifyProof request submission rollup event found standing accepted =>
      exact accounted.keep rfl rfl (inFlight_set_same found rfl rfl) rfl rfl
  | reverted index verifyProof request submission found standing =>
      exact accounted.keep rfl rfl (inFlight_set_same found rfl rfl) rfl rfl
  | foreignSettled call rollup accepted =>
      exact accounted.keep rfl rfl (List.Perm.refl _) rfl rfl

/-! ## Runs -/

theorem Accounted.initial (rollup : Rollup) : (System.initial start rollup).Accounted where
  pending := {
    apart := List.pairwise_singleton _ _
    replays := List.forall_mem_singleton.mpr ⟨start, rfl⟩ }
  everything := List.Perm.refl _

theorem accounted_of_run (sorted : start.Sorted) (bounded : start.total < 2 ^ 64)
    {rollup : Rollup} (sameRoot : rollup.stateRoot = start.merkleRoot)
    (run : Run System.step System.Orderly (System.initial start rollup) system)
    (sane : system.Sane start) :
    (∃ ledger, system.Aligned start ledger) ∧ system.Logged start ∧ system.Accounted := by
  refine run.invariant
    (motive := fun reached =>
      (∃ ledger, reached.Aligned start ledger) ∧ reached.Logged start ∧ reached.Accounted)
    Sane.inherited ⟨⟨start, .initial sorted sameRoot⟩, .initial rollup, .initial rollup⟩ ?_ sane
  intro state event after all orderly stepped sane
  rcases all with ⟨⟨ledger, aligned⟩, logged, accounted⟩
  have grounded := aligned.grounded logged sorted bounded
  exact ⟨aligned.step orderly.1 stepped sane, logged.step aligned stepped,
    accounted.step grounded aligned orderly.2 stepped⟩

/-- Whatever has been admitted replays from the start: the commits, then the
mempool, then one batch in flight after the other. So nothing occurs twice. -/
theorem Accounted.admitted_nodup (accounted : system.Accounted) (grounded : system.Grounded)
    (logged : system.Logged start) (sorted : start.Sorted)
    (room : ∀ tx ∈ system.admitted, tx.NonceRoom) : system.admitted.Nodup := by
  rcases accounted.pending.flatten grounded.sorted grounded.bounded with ⟨final, replayed⟩
  have whole : start.applyAll (committedTxs system.commits ++ system.groups.flatten) = .ok final :=
    replay_append_ok.mpr ⟨_, logged.chain, replayed⟩
  have reordered : (committedTxs system.commits ++ system.groups.flatten).Perm system.admitted :=
    List.perm_append_comm.trans accounted.everything
  have wholeRoom : ∀ tx ∈ committedTxs system.commits ++ system.groups.flatten, tx.NonceRoom :=
    fun tx member => room tx (reordered.mem_iff.mp member)
  exact reordered.nodup (sorted.applyAll_nodup wholeRoom whole)

end System

/-- Every transfer ever admitted is in exactly one place, once: the mempool, a
batch in flight, or the commits that make up the canonical state. Restoring any
batch in flight, or committing any confirmed one, would drop nothing. -/
theorem transfers_in_one_place (genesis : Genesis) (start : State)
    (loaded : genesis.intoState = .ok start) (bounded : start.total ≤ 2 ^ 64 - 1)
    (rollup : Rollup) (sameRoot : rollup.stateRoot = start.merkleRoot) (system : System)
    (run : Run System.step System.Orderly (System.initial start rollup) system)
    (sane : system.Sane start) (room : ∀ tx ∈ system.admitted, tx.NonceRoom) :
    (system.sequencer.mempool ++ (inFlight system.requests).flatten ++
      committedTxs system.commits).Perm system.admitted ∧
    system.admitted.Nodup ∧
    start.applyAll (committedTxs system.commits) = .ok system.sequencer.canonicalState ∧
    (∀ request ∈ system.requests, request.phase.inFlight = true →
      (SequencerState.restoreMempool request.batch system.sequencer).mempool =
        system.sequencer.mempool ++ request.batch.txs) ∧
    ∀ request ∈ system.requests, ∀ prove submission outcome,
      request.phase = .confirmed prove submission outcome → ∃ next,
        (SequencerState.commitBatch request.batch submission.newRoot).run system.sequencer =
          .ok () next ∧
        next.mempool = system.sequencer.mempool := by
  have sorted := Genesis.intoState_sorted loaded
  have small : start.total < 2 ^ 64 := by omega
  rcases System.accounted_of_run sorted small sameRoot run sane with
    ⟨⟨ledger, aligned⟩, logged, accounted⟩
  have grounded := aligned.grounded logged sorted small
  refine ⟨accounted.everything, accounted.admitted_nodup grounded logged sorted room,
    logged.chain, fun request => accounted.restores grounded, ?_⟩
  intro request member prove submission outcome standing
  rcases aligned.confirmed_commits member standing with ⟨-, -, advanced, replayed, -, succeeds⟩
  exact ⟨_, succeeds, accounted.retains grounded member (by rw [standing]; rfl) replayed⟩

end

namespace HappyPath

theorem wellFormed_reply : reply.WellFormed :=
  ⟨submission.publicValues, [], hexToBytes_hex0x _, hexToBytes_hex0x [],
    PublicValues.abiEncode_length _⟩

theorem orderly_run_confirmed :
    Run System.step System.Orderly (System.initial genesis deployed) confirmed := by
  have quiet : (System.initial genesis deployed).Quiet (.submitTx transferRequest) := by
    intro tx parsed group member
    cases member
  have settles : Run System.step System.Orderly (System.initial genesis deployed) executed :=
    run_executed ⟨trivial, quiet⟩ ⟨trivial, trivial⟩ ⟨honest_reply, wellFormed_reply⟩
      ⟨trivial, trivial⟩ ⟨trivial, trivial⟩
  exact settles.tail
    ⟨.arrive 0 (.receipt (.mined receipt)), ⟨trivial, trivial⟩, confirmed_of_executed⟩

end HappyPath

open HappyPath in
theorem transfers_in_one_place_happyPath :
    ((inFlight confirmed.requests).flatten ++ committedTxs confirmed.commits).Perm [transfer] ∧
    confirmed.admitted.Nodup ∧
    ∃ next, (SequencerState.commitBatch ⟨[transfer]⟩ submission.newRoot).run confirmed.sequencer =
      .ok () next ∧ next.mempool = [] := by
  have places := transfers_in_one_place genesisFile genesis (by decide +kernel) (by decide +kernel)
    deployed rfl confirmed orderly_run_confirmed sane_confirmed (by decide +kernel)
  exact ⟨places.1, places.2.1,
    places.2.2.2.2 _ (List.mem_singleton.mpr rfl) reply submission outcome rfl⟩

end ZkRollup
