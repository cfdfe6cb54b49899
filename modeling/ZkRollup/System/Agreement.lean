import ZkRollup.Foundation.Follower
import ZkRollup.Stf.Authorization
import ZkRollup.System.Commits

/-!
Contract: the settlements are a log and the sequencer follows it.

The contract's settlements form one chain of batches from the genesis on. The
sequencer commits the batches of this chain in their order, without a gap and
without one of its own in between, however requests, failures and foreign
settlements interleave. So its canonical state is always a state the L1 has
stood at, and it is the present one exactly when nothing is left to commit.

Empty batches move no root. Anybody can settle them, and they do not count here.

Owns: the chain behind the on-chain root, and the simulation of the system by a
log with a follower.
-/

set_option autoImplicit false

namespace ZkRollup

open Foundation

/-- The transfers of batches, one batch after the other. -/
def batchTxs (batches : List Batch) : List Tx :=
  batches.flatMap Batch.txs

/-- The batches that move the ledger. -/
def nonemptyBatches (settlements : List (State × Batch)) : List Batch :=
  (settlements.map Prod.snd).filter fun batch => batch.txs ≠ []

def System.settledBatches (system : System) : List Batch :=
  nonemptyBatches system.settlements

def System.committedBatches (system : System) : List Batch :=
  system.commits.map Commit.batch

theorem batchTxs_append (first second : List Batch) :
    batchTxs (first ++ second) = batchTxs first ++ batchTxs second :=
  List.flatMap_append

theorem batchTxs_singleton (batch : Batch) : batchTxs [batch] = batch.txs :=
  List.flatMap_singleton _ _

theorem batchTxs_length (batches : List Batch) :
    (batchTxs batches).length = (batches.map fun batch => batch.txs.length).sum :=
  List.length_flatMap

theorem batchTxs_committedBatches (system : System) :
    batchTxs system.committedBatches = committedTxs system.commits := by
  simp only [batchTxs, System.committedBatches, committedTxs, List.flatMap_map]

theorem nonemptyBatches_append (first second : List (State × Batch)) :
    nonemptyBatches (first ++ second) = nonemptyBatches first ++ nonemptyBatches second := by
  simp [nonemptyBatches]

theorem nonemptyBatches_singleton {settlement : State × Batch} (nonempty : settlement.2.txs ≠ []) :
    nonemptyBatches [settlement] = [settlement.2] := by
  simp [nonemptyBatches, nonempty]

/-- An empty batch leaves no trace in the log. -/
theorem nonemptyBatches_singleton_nil {settlement : State × Batch} (empty : settlement.2.txs = []) :
    nonemptyBatches [settlement] = [] := by
  simp [nonemptyBatches, empty]

theorem length_pos_of_mem_nonemptyBatches {settlements : List (State × Batch)} {batch : Batch}
    (member : batch ∈ nonemptyBatches settlements) : 0 < batch.txs.length := by
  have nonempty := (List.mem_filter.mp member).2
  exact List.length_pos_of_ne_nil (by simpa using nonempty)

section

variable [Primitives]

/-! ## The chain -/

/-- The ledger is the genesis with the settled batches, and each of them was
proved from the state the ones before it had led to. -/
structure System.Chained (start ledger : State) (system : System) : Prop where
  replayed : start.applyAll (batchTxs system.settledBatches) = .ok ledger
  snapshots : ∀ before settlement after, system.settlements = before ++ settlement :: after →
    start.applyAll (batchTxs (nonemptyBatches before)) = .ok settlement.1

variable {start ledger : State} {system next : System} {follower : Follower Batch}

theorem State.applyAll_nonemptyBatches {state advanced : State} {batch : Batch}
    (replayed : state.applyAll batch.txs = .ok advanced) :
    state.applyAll (batchTxs (nonemptyBatches [(state, batch)])) = .ok advanced := by
  by_cases empty : batch.txs = []
  · rw [nonemptyBatches_singleton_nil empty]
    rw [empty] at replayed
    exact replayed
  · rw [nonemptyBatches_singleton empty, batchTxs_singleton]
    exact replayed

namespace System

/-- The ledger is pinned by the on-chain root. -/
theorem Aligned.ledger_eq {other : State} (aligned : system.Aligned start ledger)
    (tracks : LedgerRoot system.rollup other) (hashed : other.rootPreimage ∈ system.hashed start)
    (sane : system.Sane start) : ledger = other :=
  State.eq_of_merkleRoot_eq sane.free aligned.ledgerHashed hashed
    (aligned.tracks.root.symm.trans tracks.root)

/-- What a step can do to the L1: nothing, or settle one proved batch. -/
theorem settlement_of_step {event : Event} (aligned : system.Aligned start ledger)
    (honest : system.Honest event) (stepped : system.step event = some next) :
    (next.rollup = system.rollup ∧ next.settlements = system.settlements) ∨
    ∃ prevState batch verifyProof publicValues proofBytes settled,
      programMain prevState batch = .committed publicValues ∧
      system.rollup.submitBatch verifyProof publicValues proofBytes = .ok (next.rollup, settled) ∧
      next.settlements = system.settlements ++ [(prevState, batch)] := by
  cases transition_of_step stepped with
  | settled index verifyProof request submission rollup event found standing accepted =>
      have old := aligned.requests request (List.mem_of_getElem? found)
      have proved := (old.pending submission standing).programMain
      exact Or.inr ⟨_, _, verifyProof, _, _, event, proved, accepted, rfl⟩
  | foreignSettled call rollup accepted =>
      obtain ⟨settled, accepted⟩ := SettleCall.submit_ok.mp accepted
      have proved := honest (Rollup.submitBatch_ok.mp accepted).1
      exact Or.inr ⟨_, _, call.verifyProof, _, _, settled, proved, accepted, rfl⟩
  | _ => exact Or.inl ⟨rfl, rfl⟩

theorem Chained.settle {advanced : State} {batch : Batch} (chained : system.Chained start ledger)
    (replayed : ledger.applyAll batch.txs = .ok advanced)
    (grown : next.settlements = system.settlements ++ [(ledger, batch)]) :
    next.Chained start advanced where
  replayed := by
    unfold settledBatches
    rw [grown, nonemptyBatches_append, batchTxs_append]
    exact replay_append_ok.mpr ⟨_, chained.replayed, State.applyAll_nonemptyBatches replayed⟩
  snapshots := by
    intro before settlement after split
    rw [grown] at split
    rcases List.eq_nil_or_concat after with rfl | ⟨rest, last, rfl⟩
    · obtain ⟨rfl, same⟩ := List.append_inj' split rfl
      cases same
      exact chained.replayed
    · rw [List.concat_eq_append, ← List.cons_append, ← List.append_assoc] at split
      obtain ⟨earlier, -⟩ := List.append_inj' split rfl
      exact chained.snapshots before settlement rest earlier

/-- The chain and the invariant of the requests speak of one ledger. -/
theorem Chained.step (chained : system.Chained start ledger)
    (aligned : system.Aligned start ledger) {event : Event} (honest : system.Honest event)
    (stepped : system.step event = some next) (sane : next.Sane start) :
    ∃ advanced, next.Chained start advanced ∧ next.Aligned start advanced := by
  obtain ⟨after, alignedAfter⟩ := aligned.step honest stepped sane
  rcases settlement_of_step aligned honest stepped with
    ⟨sameRollup, sameSettlements⟩ |
    ⟨prevState, batch, verifyProof, publicValues, proofBytes, settled, proved, accepted, grown⟩
  · have same : after = ledger := by
      refine alignedAfter.ledger_eq (sameRollup ▸ aligned.tracks) ?_ sane
      unfold hashed
      rw [sameSettlements]
      exact aligned.ledgerHashed
    rw [same] at alignedAfter
    refine ⟨ledger, ?_, alignedAfter⟩
    constructor
    · unfold settledBatches
      rw [sameSettlements]
      exact chained.replayed
    · rw [sameSettlements]
      exact chained.snapshots
  · have hashedAfter : next.hashed start =
        system.hashed start ++ rootPreimages prevState batch := by
      simp [hashed, grown]
    obtain ⟨rfl, advanced, replayed, tracks⟩ :=
      aligned.settles proved accepted (hashedAfter ▸ sane.free)
    have same : after = advanced := by
      refine alignedAfter.ledger_eq tracks ?_ sane
      rw [hashedAfter]
      exact List.mem_append_right _ (newRootPreimage_mem replayed)
    rw [same] at alignedAfter
    exact ⟨advanced, chained.settle replayed grown, alignedAfter⟩

/-! ## The follower -/

/-- The follower's log are the settlements, and what it has taken over are the
commits. -/
structure Follows (system : System) (follower : Follower Batch) : Prop where
  log : follower.log = system.settledBatches
  taken : follower.taken = system.committedBatches

theorem Sane.room_of_prefix (sane : system.Sane start) {batches : List Batch}
    (inLog : batches <+: system.settledBatches) : ∀ tx ∈ batchTxs batches, tx.NonceRoom := by
  intro tx member
  obtain ⟨batch, inBatches, inBatch⟩ := List.mem_flatMap.mp member
  obtain ⟨settlement, settled, rfl⟩ :=
    List.mem_map.mp (List.mem_filter.mp (inLog.subset inBatches)).1
  exact sane.room settlement settled tx inBatch

/-- Prefixes of the log that lead to one state are one: the nonces count their
transfers. -/
theorem Sane.prefix_unique (sane : system.Sane start) (sorted : start.Sorted)
    {first second : List Batch} {reached : State} (firstInLog : first <+: system.settledBatches)
    (secondInLog : second <+: system.settledBatches)
    (firstLeads : start.applyAll (batchTxs first) = .ok reached)
    (secondLeads : start.applyAll (batchTxs second) = .ok reached) : first = second := by
  have firstCount := sorted.applyAll_nonceSum (sane.room_of_prefix firstInLog) firstLeads
  have secondCount := sorted.applyAll_nonceSum (sane.room_of_prefix secondInLog) secondLeads
  refine prefix_eq_of_weight_eq (fun batch => batch.txs.length) firstInLog secondInLog
    (fun batch member => length_pos_of_mem_nonemptyBatches member) ?_
  rw [← batchTxs_length, ← batchTxs_length]
  omega

/-- A settled batch on top of the canonical state is the next one to commit. -/
theorem Follows.next_in_log (follows : system.Follows follower)
    (chained : system.Chained start ledger) (logged : system.Logged start)
    (sorted : start.Sorted) (sane : system.Sane start) {batch : Batch}
    (nonempty : batch.txs ≠ [])
    (settled : (system.sequencer.canonicalState, batch) ∈ system.settlements) :
    ∃ rest, follower.log = follower.taken ++ batch :: rest := by
  obtain ⟨before, after, split⟩ := List.append_of_mem settled
  have log : system.settledBatches =
      nonemptyBatches before ++ batch :: nonemptyBatches after := by
    rw [settledBatches, split, List.append_cons, nonemptyBatches_append,
      nonemptyBatches_append, nonemptyBatches_singleton nonempty, List.append_assoc]
    rfl
  have same : follower.taken = nonemptyBatches before := by
    refine sane.prefix_unique sorted (follows.log ▸ follower.taken_prefix)
      ⟨_, log.symm⟩ ?_ (chained.snapshots before _ after split)
    rw [follows.taken, batchTxs_committedBatches]
    exact logged.chain
  exact ⟨nonemptyBatches after, by rw [follows.log, log, same]⟩

omit [Primitives] in
/-- One more settlement is one more entry, unless it is empty. -/
theorem Follows.settle (follows : system.Follows follower) {settlement : State × Batch}
    (grown : next.settlements = system.settlements ++ [settlement])
    (sameCommits : next.commits = system.commits) :
    ∃ later, Relation.ReflTransGen Follower.Moves follower later ∧ next.Follows later := by
  have log : next.settledBatches = follower.log ++ nonemptyBatches [settlement] := by
    rw [follows.log, settledBatches, grown, nonemptyBatches_append]
    rfl
  have taken : next.committedBatches = follower.taken := by
    rw [follows.taken, committedBatches, sameCommits]
    rfl
  by_cases empty : settlement.2.txs = []
  · rw [nonemptyBatches_singleton_nil empty, List.append_nil] at log
    exact ⟨follower, .refl, log.symm, taken.symm⟩
  · rw [nonemptyBatches_singleton empty] at log
    exact ⟨follower.append settlement.2, .single (.append follower _), log.symm,
      (follower.taken_append _).trans taken.symm⟩

/-- The system is simulated by a log and its follower: a settlement appends, a
commit advances, and everything else is invisible. -/
theorem Follows.step (follows : system.Follows follower) (chained : system.Chained start ledger)
    (aligned : system.Aligned start ledger) (logged : system.Logged start)
    (sorted : start.Sorted) (sane : system.Sane start) {event : Event}
    (stepped : system.step event = some next) :
    ∃ later, Relation.ReflTransGen Follower.Moves follower later ∧ next.Follows later := by
  cases transition_of_step stepped with
  | settled => exact follows.settle rfl rfl
  | foreignSettled => exact follows.settle rfl rfl
  | locked index request moved sequencer found writes =>
      cases writes with
      | committed prove submission outcome after standing commits =>
          have member := List.mem_of_getElem? found
          have old := aligned.requests request member
          have recorded := old.recorded (old.confirmed (by rw [standing]; rfl))
          have level := (aligned.confirmed_commits member standing).2.1
          unfold BatchRequest.settlement at recorded
          rw [← level] at recorded
          obtain ⟨rest, split⟩ :=
            follows.next_in_log chained logged sorted sane old.nonempty recorded
          obtain ⟨behind, taken⟩ := follower.advance_of_split split
          refine ⟨follower.advance behind, .single (.advance follower behind), follows.log, ?_⟩
          rw [taken, follows.taken]
          simp [committedBatches, BatchRequest.newCommit]
      | restored message standing =>
          refine ⟨follower, .refl, follows.log, ?_⟩
          rw [follows.taken]
          simp [committedBatches, BatchRequest.newCommit]
      | commitFailed prove submission outcome after cause standing fails =>
          exact absurd fails (aligned.commit_not_failing (List.mem_of_getElem? found) standing)
  | _ => exact ⟨follower, .refl, follows.log, follows.taken⟩

/-! ## Runs -/

/-- What holds between the sequencer, the L1 and the genesis in every honest run. -/
structure Agrees (start ledger : State) (system : System) : Prop where
  aligned : system.Aligned start ledger
  chained : system.Chained start ledger
  logged : system.Logged start

theorem Agrees.initial (sorted : start.Sorted) {rollup : Rollup}
    (sameRoot : rollup.stateRoot = start.merkleRoot) :
    (System.initial start rollup).Agrees start start where
  aligned := .initial sorted sameRoot
  chained := {
    replayed := rfl
    snapshots := fun before settlement after split => by simp [System.initial] at split }
  logged := .initial rollup

theorem Agrees.step (agrees : system.Agrees start ledger) {event : Event}
    (honest : system.Honest event) (stepped : system.step event = some next)
    (sane : next.Sane start) : ∃ advanced, next.Agrees start advanced := by
  obtain ⟨advanced, chained, aligned⟩ :=
    agrees.chained.step agrees.aligned honest stepped sane
  exact ⟨advanced, aligned, chained, agrees.logged.step agrees.aligned stepped⟩

/-- An honest run keeps the agreement and is a run of the follower. -/
theorem Agrees.run (agrees : system.Agrees start ledger) (follows : system.Follows follower)
    (sorted : start.Sorted) (run : Run System.step System.Honest system next)
    (sane : next.Sane start) : ∃ advanced later, next.Agrees start advanced ∧
      Relation.ReflTransGen Follower.Moves follower later ∧ next.Follows later := by
  refine run.invariant (motive := fun reached => ∃ advanced later,
    reached.Agrees start advanced ∧ Relation.ReflTransGen Follower.Moves follower later ∧
      reached.Follows later) Sane.inherited ⟨ledger, follower, agrees, .refl, follows⟩ ?_ sane
  rintro state event after ⟨_, before, agrees, moved, follows⟩ honest stepped sane
  obtain ⟨advanced, agreesAfter⟩ := agrees.step honest stepped sane
  obtain ⟨later, moves, followsAfter⟩ := follows.step agrees.chained agrees.aligned agrees.logged
    sorted (Sane.inherited state event after stepped sane) stepped
  exact ⟨advanced, later, agreesAfter, moved.trans moves, followsAfter⟩

/-! ## Where the follower stands -/

omit [Primitives] in
theorem exists_settlement_of_split {settlements : List (State × Batch)} {taken rest : List Batch}
    {batch : Batch} (split : nonemptyBatches settlements = taken ++ batch :: rest) :
    ∃ before settlement after, settlements = before ++ settlement :: after ∧
      nonemptyBatches before = taken ∧ settlement.2 = batch := by
  unfold nonemptyBatches at split
  rw [List.filter_map] at split
  obtain ⟨first, second, inFilter, sameTaken, sameRest⟩ := List.map_eq_append_iff.mp split
  obtain ⟨settlement, more, rfl, rfl, -⟩ := List.map_eq_cons_iff.mp sameRest
  obtain ⟨upTo, later, rfl, kept, keptLater⟩ := List.filter_eq_append_iff.mp inFilter
  obtain ⟨between, after, rfl, dropped, -, -⟩ := List.filter_eq_cons_iff.mp keptLater
  refine ⟨upTo ++ between, settlement, after, by rw [List.append_assoc], ?_, rfl⟩
  have none : between.filter ((fun batch : Batch => decide (batch.txs ≠ [])) ∘ Prod.snd) = [] :=
    List.filter_eq_nil_iff.mpr fun entry member => by simpa using dropped entry member
  rw [nonemptyBatches, List.filter_map, List.filter_append, none, List.append_nil, kept, sameTaken]

/-- The canonical state is one whose root the L1 has hashed. -/
theorem Agrees.canonical_hashed (agrees : system.Agrees start ledger)
    (follows : system.Follows follower) :
    system.sequencer.canonicalState.rootPreimage ∈ system.hashed start := by
  have reached := agrees.logged.chain
  rw [← batchTxs_committedBatches, ← follows.taken] at reached
  have log := follower.taken_append_ahead
  rw [follows.log] at log
  cases ahead : follower.ahead with
  | nil =>
      rw [ahead, List.append_nil] at log
      rw [log, agrees.chained.replayed] at reached
      cases reached
      exact agrees.aligned.ledgerHashed
  | cons batch rest =>
      rw [ahead] at log
      obtain ⟨before, settlement, after, split, sameTaken, -⟩ := exists_settlement_of_split log.symm
      have snapshot := agrees.chained.snapshots before settlement after split
      rw [sameTaken, reached] at snapshot
      rw [Except.ok.inj snapshot]
      simp [hashed, split, rootPreimages]

theorem Agrees.canonical_eq_ledger_iff (agrees : system.Agrees start ledger)
    (follows : system.Follows follower) (sorted : start.Sorted) (sane : system.Sane start) :
    system.sequencer.canonicalState = ledger ↔ follower.ahead = [] := by
  have reached := agrees.logged.chain
  rw [← batchTxs_committedBatches, ← follows.taken] at reached
  have log := follower.taken_append_ahead
  rw [follows.log] at log
  constructor
  · intro level
    rw [level] at reached
    have whole : follower.taken = system.settledBatches :=
      sane.prefix_unique sorted ⟨_, log⟩ List.prefix_rfl reached agrees.chained.replayed
    rw [whole] at log
    exact List.append_right_eq_self.mp log
  · intro nothing
    rw [nothing, List.append_nil] at log
    rw [log] at reached
    exact Except.ok.inj (reached.symm.trans agrees.chained.replayed)

/-- The roots show where the sequencer stands. -/
theorem Agrees.canonicalRoot_eq_iff (agrees : system.Agrees start ledger)
    (follows : system.Follows follower) (sorted : start.Sorted) (sane : system.Sane start) :
    system.sequencer.canonicalRoot = system.rollup.stateRoot ↔ follower.ahead = [] := by
  rw [← agrees.canonical_eq_ledger_iff follows sorted sane, agrees.aligned.consistent.root,
    agrees.aligned.tracks.root]
  constructor
  · intro sameRoot
    exact State.eq_of_merkleRoot_eq sane.free (agrees.canonical_hashed follows)
      agrees.aligned.ledgerHashed sameRoot
  · intro level
    rw [level]

theorem agrees_of_run (sorted : start.Sorted) {rollup : Rollup}
    (sameRoot : rollup.stateRoot = start.merkleRoot)
    (run : Run System.step System.Honest (System.initial start rollup) system)
    (sane : system.Sane start) : ∃ ledger follower, system.Agrees start ledger ∧
      Relation.ReflTransGen Follower.Moves .fresh follower ∧ system.Follows follower :=
  (Agrees.initial sorted sameRoot).run ⟨rfl, rfl⟩ sorted run sane

end System

/-- In every honest run, the settlements are a log of which the commits are a
prefix, and neither ever loses an entry: the sequencer and the L1 are moves of a
log and its follower. The ledger is the genesis with the log, the canonical state
the genesis with what has been taken over, and the two roots are equal exactly
when nothing is left to take over. -/
theorem commits_follow_settlements (genesis : Genesis) (start : State)
    (loaded : genesis.intoState = .ok start) (rollup : Rollup)
    (sameRoot : rollup.stateRoot = start.merkleRoot) (system : System)
    (run : Run System.step System.Honest (System.initial start rollup) system)
    (sane : system.Sane start) :
    ∃ (follower : Follower Batch) (ledger : State),
      Relation.ReflTransGen Follower.Moves .fresh follower ∧
      follower.log = system.settledBatches ∧ follower.taken = system.committedBatches ∧
      start.applyAll (batchTxs follower.log) = .ok ledger ∧
      system.rollup.stateRoot = ledger.merkleRoot ∧
      start.applyAll (batchTxs follower.taken) = .ok system.sequencer.canonicalState ∧
      (system.sequencer.canonicalRoot = system.rollup.stateRoot ↔ follower.ahead = []) ∧
      ∀ later, Run System.step System.Honest system later → later.Sane start →
        system.settledBatches <+: later.settledBatches ∧
          system.committedBatches <+: later.committedBatches := by
  have sorted := Genesis.intoState_sorted loaded
  obtain ⟨ledger, follower, agrees, moves, follows⟩ :=
    System.agrees_of_run sorted sameRoot run sane
  refine ⟨follower, ledger, moves, follows.log, follows.taken, ?_, agrees.aligned.tracks.root, ?_,
    agrees.canonicalRoot_eq_iff follows sorted sane, ?_⟩
  · rw [follows.log]
    exact agrees.chained.replayed
  · rw [follows.taken, batchTxs_committedBatches]
    exact agrees.logged.chain
  · intro later run sane
    obtain ⟨-, advanced, -, moved, followsLater⟩ := agrees.run follows sorted run sane
    have grown := Follower.prefix_of_moves moved
    rwa [follows.log, follows.taken, followsLater.log, followsLater.taken] at grown

/-- Whoever has settled them, no two settled transfers share a sender and a nonce,
and each of them is signed. So of two conflicting transfers that `/tx` has both
acknowledged, at most one ever counts. Replayed on the genesis they lead to the
state that the contract stands at, with the same funds. -/
theorem settled_transfers_spend_once (genesis : Genesis) (start : State)
    (loaded : genesis.intoState = .ok start) (rollup : Rollup)
    (sameRoot : rollup.stateRoot = start.merkleRoot) (system : System)
    (run : Run System.step System.Honest (System.initial start rollup) system)
    (sane : system.Sane start) :
    ((batchTxs system.settledBatches).map fun tx => (tx.from, tx.nonce)).Nodup ∧
    (∀ tx ∈ batchTxs system.settledBatches, tx.AuthorisedBy tx.from) ∧
    (∀ first ∈ system.admitted, ∀ second ∈ system.admitted, first ≠ second →
      first.from = second.from → first.nonce = second.nonce →
      first ∉ batchTxs system.settledBatches ∨ second ∉ batchTxs system.settledBatches) ∧
    ∃ ledger : State, start.applyAll (batchTxs system.settledBatches) = .ok ledger ∧
      system.rollup.stateRoot = ledger.merkleRoot ∧ ledger.total = start.total := by
  have sorted := Genesis.intoState_sorted loaded
  obtain ⟨ledger, -, agrees, -, -⟩ := System.agrees_of_run sorted sameRoot run sane
  have replayed := agrees.chained.replayed
  have distinct := sorted.sender_nonces_nodup (sane.room_of_prefix List.prefix_rfl) replayed
  refine ⟨distinct, authorised_of_applyAll replayed, ?_, ledger, replayed,
    agrees.aligned.tracks.root, sorted.applyAll_total replayed⟩
  intro first _ second _ different sameSender sameNonce
  by_contra both
  rw [not_or, not_not, not_not] at both
  exact different
    (List.inj_on_of_nodup_map distinct both.1 both.2 (Prod.ext sameSender sameNonce))

end

open HappyPath in
/-- The batch is settled, its receipt has arrived, and the commit is next. -/
theorem commits_follow_settlements_happyPath :
    ∃ follower : Follower Batch, follower.log = [⟨[transfer]⟩] ∧ follower.taken = [] ∧
      (confirmed.sequencer.canonicalRoot = confirmed.rollup.stateRoot ↔ follower.ahead = []) := by
  obtain ⟨follower, -, -, log, taken, -, -, -, level, -⟩ :=
    commits_follow_settlements genesisFile genesis (by decide +kernel) deployed rfl confirmed
      run_confirmed sane_confirmed
  exact ⟨follower, log, taken, level⟩

open HappyPath in
theorem settled_transfers_spend_once_happyPath :
    transfer ∈ batchTxs confirmed.settledBatches ∧ transfer.AuthorisedBy alice ∧
      ∃ ledger, genesis.applyAll [transfer] = .ok ledger ∧
        confirmed.rollup.stateRoot = ledger.merkleRoot := by
  have once := settled_transfers_spend_once genesisFile genesis (by decide +kernel) deployed rfl
    confirmed run_confirmed sane_confirmed
  have settled : transfer ∈ batchTxs confirmed.settledBatches := by decide +kernel
  obtain ⟨-, authorised, -, ledger, replayed, level, -⟩ := once
  exact ⟨settled, authorised transfer settled, ledger, replayed, level⟩

end ZkRollup
