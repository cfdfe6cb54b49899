import ZkRollup.System.Losses
import ZkRollup.System.Served

/-!
Contract: the acknowledgements of `/tx` stand exactly as long as no two of them
have a sender and a nonce in common, and no `/batch` handler is dropped.

While a batch is in flight, the account of its sender is expected to send the
first transfer of that batch again. So what such a sender is acknowledged for next
has a nonce that it has been acknowledged for already: senders whose nonces are
distinct are quiet without knowing it, and the loops that drop silently find
nothing to drop. A dropped handler takes its batch with it.
-/

set_option autoImplicit false

namespace ZkRollup

open Foundation

/-- What the nonce check can tell transfers apart by. -/
def Tx.slot (tx : Tx) : Address × UInt64 :=
  (tx.from, tx.nonce)

section

variable [Primitives]

/-! ## The next nonce of an account -/

namespace State

variable {state final : State} {txs : List Tx}

/-- Transfers of others leave a nonce alone. -/
theorem Sorted.nonce_unsent (sorted : state.Sorted) (replayed : state.applyAll txs = .ok final)
    {addr : Address} (unsent : ∀ tx ∈ txs, tx.from ≠ addr) :
    (final.get addr).nonce = (state.get addr).nonce := by
  have none : sentBy addr txs = [] :=
    List.filter_eq_nil_iff.mpr fun tx member => by simpa using unsent tx member
  have moved := congrArg LedgerAccount.nonce (congrFun (sorted.applyAll_ledger replayed) addr)
  have small := (state.get addr).nonce.toNat_lt
  simp only [ledger, Ledger.after, none, List.length_nil, Nat.add_zero] at moved
  rw [Nat.mod_eq_of_lt small] at moved
  exact UInt64.toNat_inj.mp moved

/-- A sender of some transfers that replay has one among them at its own nonce. -/
theorem Sorted.exists_next (sorted : state.Sorted) (replayed : state.applyAll txs = .ok final)
    {other : Tx} (member : other ∈ txs) :
    ∃ first ∈ txs, first.slot = (other.from, (state.get other.from).nonce) := by
  induction txs generalizing state with
  | nil => cases member
  | cons tx rest inductionHypothesis =>
      obtain ⟨middle, atHead, later⟩ := replay_cons_ok.mp replayed
      by_cases sender : tx.from = other.from
      · have nonce : tx.nonce = (state.get tx.from).nonce :=
          UInt64.toNat_inj.mp (apply_ok.mp atHead).1.nonce
        refine ⟨tx, List.mem_cons_self, Prod.ext sender ?_⟩
        rw [← sender]
        exact nonce
      · have inRest : other ∈ rest := by
          rcases List.mem_cons.mp member with rfl | inRest
          · exact absurd rfl sender
          · exact inRest
        obtain ⟨first, own, slot⟩ := inductionHypothesis (sorted.apply atHead) later inRest
        have single : state.applyAll [tx] = .ok middle := (replay_singleton _ _).trans atHead
        have same := sorted.nonce_unsent single (List.forall_mem_singleton.mpr sender)
        rw [same] at slot
        exact ⟨first, List.mem_cons_of_mem _ own, slot⟩

end State

namespace System

variable {start ledger : State} {system next : System}

/-! ## Quiet without knowing it -/

/-- As long as the nonces are distinct, a sender in flight is acknowledged for
nothing: the nonce that is expected is one in flight. -/
theorem Accounted.quiet (accounted : system.Accounted) (grounded : system.Grounded) {tx : Tx}
    {sequencer : SequencerState} (accepted : system.sequencer.admission tx = .ok sequencer)
    (distinct : ((system.admitted ++ [tx]).map Tx.slot).Nodup) :
    ∀ group ∈ inFlight system.requests, ∀ other ∈ group, tx.from ≠ other.from := by
  intro group flying other own sameSender
  obtain ⟨extended, applied, -⟩ := SequencerState.admission_ok.mp accepted
  have expected : tx.nonce = (system.sequencer.speculativeState.get tx.from).nonce :=
    UInt64.toNat_inj.mp (State.apply_ok.mp applied).1.nonce
  have apart := (List.pairwise_cons.mp accounted.pending.apart).1 group flying
  have unsent : ∀ pending ∈ system.sequencer.mempool, pending.from ≠ tx.from := by
    intro pending member
    rw [sameSender]
    exact apart pending member other own
  rw [grounded.sorted.nonce_unsent grounded.consistent.pending unsent] at expected
  obtain ⟨final, replayed⟩ := accounted.pending.replays group (List.mem_cons_of_mem _ flying)
  obtain ⟨first, member, slot⟩ := grounded.sorted.exists_next replayed own
  have sameSlot : tx.slot = first.slot := by
    rw [slot, ← sameSender, ← expected]
    rfl
  have everywhere : first ∈ system.groups.flatten ++ committedTxs system.commits :=
    List.mem_append_left _ (List.mem_flatten.mpr ⟨group, List.mem_cons_of_mem _ flying, member⟩)
  have admitted := accounted.everything.subset everywhere
  rw [List.map_append] at distinct
  refine List.disjoint_of_nodup_append distinct (List.mem_map_of_mem admitted) ?_
  rw [← sameSlot]
  exact List.mem_singleton.mpr rfl

theorem admitted_grow {event : Event} (stepped : system.step event = some next) :
    ∃ more, next.admitted = system.admitted ++ more := by
  cases transition_of_step stepped with
  | admitted request tx sequencer parsed accepted => exact ⟨[tx], rfl⟩
  | unchanged | drained | arrived | locked | settled | reverted | foreignSettled =>
      exact ⟨[], (List.append_nil _).symm⟩

/-- No handler was dropped before it had committed or restored its batch. -/
def Attended (system : System) : Prop :=
  ∀ request ∈ system.requests, request.phase ≠ .cancelled

/-- What is assumed of the run: no collision, room for the nonces that settle,
nothing acknowledged twice and no handler dropped. -/
structure Distinct (start : State) (system : System) : Prop where
  sane : system.Sane start
  slots : (system.admitted.map Tx.slot).Nodup
  attended : system.Attended

omit [Primitives] in
/-- A request that has changed was not dropped before. -/
theorem Attended.of_set (attended : next.Attended) {index : Nat} {request moved : BatchRequest}
    (found : system.requests[index]? = some request)
    (sameRequests : next.requests = system.requests.set index moved)
    (running : request.phase ≠ .cancelled) : system.Attended := by
  intro other member dropped
  obtain ⟨place, foundOther⟩ := List.getElem?_of_mem member
  by_cases same : index = place
  · subst same
    rw [found] at foundOther
    cases foundOther
    exact running dropped
  · refine attended other (List.mem_of_getElem? (i := place) ?_) dropped
    rw [sameRequests, List.getElem?_set_ne same]
    exact foundOther

/-- A dropped handler stays dropped. -/
theorem Attended.inherited {event : Event} (attended : next.Attended)
    (stepped : system.step event = some next) : system.Attended := by
  cases transition_of_step stepped with
  | unchanged => exact attended
  | admitted request tx sequencer parsed accepted => exact attended
  | drained nonempty =>
      intro request member
      exact attended request (List.mem_append_left _ member)
  | arrived index arrival request moved found arrives =>
      refine attended.of_set found rfl fun dropped => ?_
      cases arrives <;> simp_all [Phase.isOpen]
  | locked index request moved sequencer found writes =>
      refine attended.of_set found rfl fun dropped => ?_
      cases writes <;> simp_all
  | settled index verifyProof request submission rollup event found standing accepted =>
      refine attended.of_set found rfl fun dropped => ?_
      have early := (List.getElem?_eq_some_iff.mp found).1
      exact attended _ (List.mem_of_getElem? (List.getElem?_set_self early)) dropped
  | reverted index verifyProof request submission found standing =>
      refine attended.of_set found rfl fun dropped => ?_
      have early := (List.getElem?_eq_some_iff.mp found).1
      exact attended _ (List.mem_of_getElem? (List.getElem?_set_self early)) dropped
  | foreignSettled call rollup accepted => exact attended

theorem Attended.not_disconnected {index : Nat} {broadcast : Bool} (attended : next.Attended)
    (stepped : system.step (.arrive index (.disconnected broadcast)) = some next) : False := by
  simp only [System.step, bind, Option.bind_eq_some_iff] at stepped
  obtain ⟨request, found, moved, arrived, same⟩ := stepped
  cases same
  have early := (List.getElem?_eq_some_iff.mp found).1
  have dropped := attended moved (List.mem_of_getElem? (List.getElem?_set_self early))
  cases BatchRequest.arrives_of_arrive arrived with
  | disconnected => exact dropped rfl
  | cancelled => exact dropped rfl

theorem Accounted.stepApart (accounted : system.Accounted) (grounded : system.Grounded)
    (aligned : system.Aligned start ledger) {event : Event} (served : system.Served event)
    (stepped : system.step event = some next) (distinct : next.Distinct start) :
    next.Accounted := by
  cases event with
  | submitTx request =>
      cases transition_of_step stepped with
      | unchanged => exact accounted
      | admitted request tx sequencer parsed accepted =>
          exact accounted.submitted grounded accepted
            (accounted.quiet grounded accepted distinct.slots)
  | arrive index arrival =>
      have wellFormed : ∀ prove, arrival = .proverAnswer (.ok prove) → prove.WellFormed := by
        rintro prove rfl
        simp only [System.step, bind, Option.bind_eq_some_iff] at stepped
        obtain ⟨request, found, -⟩ := stepped
        exact served.wellFormed found
      have quiet : system.Quiet (.arrive index arrival) := by
        unfold Quiet
        split
        next same => cases same
        next prove same =>
          cases same
          exact wellFormed _ rfl
        next same =>
          cases same
          exact distinct.attended.not_disconnected stepped
        next => trivial
      exact accounted.step grounded aligned quiet stepped
  | startBatch =>
      exact accounted.step grounded aligned (show system.Quiet .startBatch from trivial) stepped
  | writeLock index =>
      exact accounted.step grounded aligned (show system.Quiet (.writeLock index) from trivial)
        stepped
  | execute index verifyProof =>
      exact accounted.step grounded aligned
        (show system.Quiet (.execute index verifyProof) from trivial) stepped
  | foreignCall call =>
      exact accounted.step grounded aligned (show system.Quiet (.foreignCall call) from trivial)
        stepped

theorem Distinct.inherited (system : System) (event : Event) (next : System)
    (stepped : system.step event = some next) (distinct : next.Distinct start) :
    system.Distinct start := by
  obtain ⟨more, grown⟩ := admitted_grow stepped
  have slots := distinct.slots
  rw [grown, List.map_append] at slots
  exact {
    sane := Sane.inherited system event next stepped distinct.sane
    slots := slots.of_append_left
    attended := distinct.attended.inherited stepped }

theorem Distinct.accounted (distinct : system.Distinct start) (sorted : start.Sorted)
    (bounded : start.total < 2 ^ 64) {rollup : Rollup}
    (sameRoot : rollup.stateRoot = start.merkleRoot)
    (run : Run System.step System.Served (System.initial start rollup) system) :
    (∃ ledger, system.Aligned start ledger) ∧ system.Logged start ∧ system.Accounted := by
  refine run.invariant
    (motive := fun reached =>
      (∃ ledger, reached.Aligned start ledger) ∧ reached.Logged start ∧ reached.Accounted)
    Distinct.inherited ⟨⟨start, .initial sorted sameRoot⟩, .initial rollup, .initial rollup⟩ ?_
    distinct
  intro state event after all served stepped distinct
  obtain ⟨⟨ledger, aligned⟩, logged, accounted⟩ := all
  have grounded := aligned.grounded logged sorted bounded
  exact ⟨aligned.step served.honest stepped distinct.sane, logged.step aligned stepped,
    accounted.stepApart grounded aligned served stepped distinct⟩

/-- Where every acknowledgement has its place, no batch is stranded. -/
theorem Aligned.attended (aligned : system.Aligned start ledger) {lost : List Tx}
    (balanced : system.Balanced lost)
    (everything : (system.sequencer.mempool ++ (inFlight system.requests).flatten ++
      committedTxs system.commits).Perm system.admitted) : system.Attended := by
  intro request member dropped
  have slots := (held_perm system.requests).length_eq
  have counted := balanced.length_eq
  have placed := everything.length_eq
  simp only [List.length_append] at slots counted placed
  have none : (stranded system.requests).flatten = [] := List.length_eq_zero_iff.mp (by omega)
  have own : request.batch.txs ∈ stranded system.requests :=
    List.mem_map_of_mem (List.mem_filter.mpr ⟨member, by rw [dropped]; rfl⟩)
  exact (aligned.requests request member).nonempty (List.flatten_eq_nil_iff.mp none _ own)

end System

/-- Behind the prover service, whatever the interleaving: everything that `/tx`
has acknowledged is still pending, in flight or committed, and what is not yet
committed applies in one sequence, exactly if no two acknowledgements have a
sender and a nonce in common and no handler was dropped with its batch. -/
theorem acknowledgements_stand_iff (genesis : Genesis) (start : State)
    (loaded : genesis.intoState = .ok start) (bounded : start.total ≤ 2 ^ 64 - 1)
    (rollup : Rollup) (sameRoot : rollup.stateRoot = start.merkleRoot) (system : System)
    (run : Run System.step System.Served (System.initial start rollup) system)
    (sane : system.Sane start) (room : ∀ tx ∈ system.admitted, tx.NonceRoom) :
    ((system.sequencer.mempool ++ (inFlight system.requests).flatten ++
        committedTxs system.commits).Perm system.admitted ∧
      ∃ final, system.sequencer.canonicalState.applyAll
        (system.sequencer.mempool ++ (inFlight system.requests).flatten) = .ok final) ↔
    (system.admitted.map Tx.slot).Nodup ∧ system.Attended := by
  have sorted := Genesis.intoState_sorted loaded
  have small : start.total < 2 ^ 64 := by omega
  constructor
  · rintro ⟨everything, final, applies⟩
    obtain ⟨ledger, follower, agrees, -, -⟩ :=
      System.agrees_of_run sorted sameRoot (System.run_honest run) sane
    have whole : start.applyAll (committedTxs system.commits ++ (system.sequencer.mempool ++
        (inFlight system.requests).flatten)) = .ok final :=
      replay_append_ok.mpr ⟨_, agrees.logged.chain, applies⟩
    have reordered := List.perm_append_comm.trans everything
    have wholeRoom : ∀ tx ∈ committedTxs system.commits ++ (system.sequencer.mempool ++
        (inFlight system.requests).flatten), tx.NonceRoom :=
      fun tx member => room tx (reordered.subset member)
    obtain ⟨lost, balanced⟩ := System.balanced_of_run run
    exact ⟨(reordered.map Tx.slot).nodup (sorted.sender_nonces_nodup wholeRoom whole),
      agrees.aligned.attended balanced everything⟩
  · rintro ⟨slots, attended⟩
    have distinct : system.Distinct start := { sane, slots, attended }
    obtain ⟨⟨ledger, aligned⟩, logged, accounted⟩ := distinct.accounted sorted small sameRoot run
    have grounded := aligned.grounded logged sorted small
    exact ⟨accounted.everything, accounted.pending.flatten grounded.sorted grounded.bounded⟩

end

open HappyPath in
/-- The transfer is settled, and its receipt is on its way. -/
theorem acknowledgements_stand_iff_happyPath :
    (executed.sequencer.mempool ++ (inFlight executed.requests).flatten ++
      committedTxs executed.commits).Perm [transfer] := by
  have stands := acknowledgements_stand_iff genesisFile genesis (by decide +kernel)
    (by decide +kernel) deployed rfl executed served_run_executed
    { free := by decide +kernel, room := by decide +kernel } (by decide +kernel)
  have attended : executed.Attended := List.forall_mem_singleton.mpr (by decide +kernel)
  exact (stands.mpr ⟨by decide +kernel, attended⟩).1

end ZkRollup
