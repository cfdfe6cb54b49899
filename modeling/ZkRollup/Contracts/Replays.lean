import ZkRollup.Contracts.Chain

/-!
Contract: a settled proof cannot be used again.

The contract keeps no record of the proofs it has seen. What protects it is that
a root does not come back: all nonces together count the transfers applied, they
are part of what the root hashes, and a batch with a transfer in it raises them.
Balances may well return to where they were.
-/

set_option autoImplicit false

namespace ZkRollup

open Foundation

section

variable [Primitives]

/-- The state behind the settled calls is one whose root they hashed. -/
theorem SettledFrom.hashed {ledger advanced : State} {calls : List SettleCall} {final : Rollup}
    (outcome : SettledFrom ledger calls final)
    (replayed : ledger.applyAll (settledTxs calls) = .ok advanced) :
    advanced.rootPreimage ∈ ledger.rootPreimage :: calls.flatMap SettleCall.hashed := by
  rcases List.eq_nil_or_concat calls with rfl | ⟨before, call, rfl⟩
  · cases replayed
    exact List.mem_cons_self
  · rw [List.concat_eq_append] at outcome replayed ⊢
    have snapshot := outcome.snapshots before call [] rfl
    unfold settledTxs at replayed
    rw [List.flatMap_append, List.flatMap_singleton] at replayed
    obtain ⟨middle, toSnapshot, fromSnapshot⟩ := replay_append_ok.mp replayed
    have same : call.prevState = middle := Except.ok.inj (snapshot.symm.trans toSnapshot)
    have newHashed : advanced.rootPreimage ∈ call.hashed := by
      rw [← same] at fromSnapshot
      exact newRootPreimage_mem fromSnapshot
    simp [newHashed]

/-- Settled calls never lower the nonces taken together. -/
theorem SettledFrom.nonceSum_le {ledger : State} {calls : List SettleCall} {final : Rollup}
    (outcome : SettledFrom ledger calls final) (sorted : ledger.Sorted)
    (room : ∀ call ∈ calls, ∀ tx ∈ call.batch.txs, tx.NonceRoom) :
    ∃ advanced, ledger.applyAll (settledTxs calls) = .ok advanced ∧ LedgerRoot final advanced ∧
      ledger.nonceSum ≤ advanced.nonceSum := by
  obtain ⟨advanced, replayed, tracks⟩ := outcome.tracks
  have roomAll : ∀ tx ∈ settledTxs calls, tx.NonceRoom := by
    intro tx member
    obtain ⟨call, inCalls, inBatch⟩ := List.mem_flatMap.mp member
    exact room call inCalls tx inBatch
  have grown := sorted.applyAll_nonceSum roomAll replayed
  exact ⟨advanced, replayed, tracks, by omega⟩

omit [Primitives] in
theorem SettleCall.sift_programVKey {rollup final : Rollup} {calls settled : List SettleCall}
    (ran : sift (fun rollup call => SettleCall.submit rollup call) rollup calls =
      (settled, final)) : final.programVKey = rollup.programVKey := by
  have kept : (sift (fun rollup call => SettleCall.submit rollup call) rollup
      calls).2.programVKey = rollup.programVKey :=
    sift_invariant (motive := fun reached => reached.programVKey = rollup.programVKey)
      (fun start call next same accepted => (SettleCall.submit_programVKey accepted).trans same)
      calls rfl
  rw [ran] at kept
  exact kept

omit [Primitives] in
/-- A call for another root than the present one reverts. -/
theorem SubmitCall.stale {rollup : Rollup} {call : SubmitCall} {values : PublicValues}
    (decoded : PublicValues.abiDecode call.publicValues = some values)
    (stale : values.prevRoot ≠ rollup.stateRoot) : ∃ revert, call.execute rollup = .error revert := by
  cases answer : call.execute rollup with
  | error revert => exact ⟨revert, rfl⟩
  | ok outcome =>
      obtain ⟨-, others, decodedAgain, current, -⟩ := Rollup.submitBatch_ok.mp answer
      rw [decoded] at decodedAgain
      cases decodedAgain
      exact absurd current stale

/-- After a batch with a transfer in it, no settled call leads back. -/
theorem LedgerRoot.left_behind {reached next final : Rollup} {ledger : State} {call : SettleCall}
    {later settledLater : List SettleCall} {inputs : List Bytes}
    (tracks : LedgerRoot reached ledger) (ledgerHashed : ledger.rootPreimage ∈ inputs)
    (free : CollisionFree keccak256 inputs)
    (hashed : (call :: settledLater).flatMap SettleCall.hashed ⊆ inputs)
    (sound : ∀ other ∈ call :: later, other.Sound reached.programVKey)
    (settles : call.submit reached = .ok next) (nonempty : call.batch.txs ≠ [])
    (ranLater : sift (fun rollup call => SettleCall.submit rollup call) next later =
      (settledLater, final))
    (room : ∀ other ∈ call :: settledLater, ∀ tx ∈ other.batch.txs, tx.NonceRoom) :
    final.stateRoot ≠ reached.stateRoot := by
  rw [List.flatMap_cons] at hashed
  have callHashed : call.hashed ⊆ inputs := fun input member =>
    hashed (List.mem_append_left _ member)
  obtain ⟨event, accepted⟩ := SettleCall.submit_ok.mp settles
  have proved := sound call (by simp) (Rollup.submitBatch_ok.mp accepted).1
  rcases tracks.settle free ledgerHashed (callHashed (by simp [SettleCall.hashed, rootPreimages]))
    proved accepted with ⟨same, advanced, replayed, advancedTracks⟩
  have advancedHashed : advanced.rootPreimage ∈ call.hashed := by
    rw [← same] at replayed
    exact newRootPreimage_mem replayed
  have laterHashed : advanced.rootPreimage :: settledLater.flatMap SettleCall.hashed ⊆ inputs :=
    List.cons_subset.mpr
      ⟨callHashed advancedHashed, fun input member => hashed (List.mem_append_right _ member)⟩
  have laterSound : ∀ other ∈ later, other.Sound next.programVKey := by
    rw [SettleCall.submit_programVKey settles]
    exact fun other member => sound other (by simp [member])
  have outcome := advancedTracks.run laterSound (free.mono laterHashed) ranLater
  rcases outcome.nonceSum_le advancedTracks.sorted (fun other member => room other (by simp [member]))
    with ⟨last, lastReplayed, lastTracks, atLeast⟩
  have grown := tracks.sorted.applyAll_nonceSum (room call (by simp)) replayed
  have some := List.length_pos_of_ne_nil nonempty
  intro sameRoot
  have sameState : ledger = last := by
    apply State.eq_of_merkleRoot_eq free ledgerHashed (laterHashed (outcome.hashed lastReplayed))
    rw [← tracks.root, ← lastTracks.root, sameRoot]
  rw [← sameState] at atLeast
  omega

/-- Once a batch with a transfer has settled, the root it started from is gone:
calls that start from it revert and change nothing, the same call among them; or
two distinct strings hashed for the roots collide. -/
theorem settled_proof_not_replayed (genesis : Genesis) (start : State)
    (loaded : genesis.intoState = .ok start) (rollup : Rollup)
    (initial : rollup.stateRoot = start.merkleRoot) (earlier later : List SettleCall)
    (call : SettleCall)
    (sound : ∀ other ∈ earlier ++ call :: later, other.Sound rollup.programVKey)
    (settledEarlier settledLater : List SettleCall) (reached next final : Rollup)
    (ranEarlier : sift (fun rollup call => SettleCall.submit rollup call) rollup earlier =
      (settledEarlier, reached))
    (settles : call.submit reached = .ok next) (nonempty : call.batch.txs ≠ [])
    (ranLater : sift (fun rollup call => SettleCall.submit rollup call) next later =
      (settledLater, final))
    (room : ∀ other ∈ settledEarlier ++ call :: settledLater, ∀ tx ∈ other.batch.txs,
      tx.NonceRoom) :
    ((∃ values, PublicValues.abiDecode call.publicValues = some values ∧
        values.prevRoot = reached.stateRoot) ∧
      final.stateRoot ≠ reached.stateRoot ∧
      ∀ again : SubmitCall, ∀ values, PublicValues.abiDecode again.publicValues = some values →
        values.prevRoot = reached.stateRoot →
        (∃ revert, again.execute final = .error revert) ∧
          journal (fun rollup call => SubmitCall.execute rollup call) final [again] =
            (final, [])) ∨
    Collision keccak256 (start.rootPreimage ::
      (settledEarlier ++ call :: settledLater).flatMap SettleCall.hashed) := by
  apply or_collision
  intro free
  have soundEarlier : ∀ other ∈ earlier, other.Sound rollup.programVKey :=
    fun other member => sound other (by simp [member])
  have earlierHashed : start.rootPreimage :: settledEarlier.flatMap SettleCall.hashed ⊆
      start.rootPreimage ::
        (settledEarlier ++ call :: settledLater).flatMap SettleCall.hashed := by
    apply List.cons_subset_cons
    rw [List.flatMap_append]
    exact List.subset_append_left _ _
  have tracksStart : LedgerRoot rollup start := ⟨Genesis.intoState_sorted loaded, initial⟩
  have outcome := tracksStart.run soundEarlier (free.mono earlierHashed) ranEarlier
  obtain ⟨ledger, replayed, tracks⟩ := outcome.tracks
  have gone : final.stateRoot ≠ reached.stateRoot := by
    refine tracks.left_behind (earlierHashed (outcome.hashed replayed)) free ?_ ?_ settles nonempty
      ranLater ?_
    · intro input member
      rw [List.flatMap_append]
      exact List.mem_cons_of_mem _ (List.mem_append_right _ member)
    · rw [SettleCall.sift_programVKey ranEarlier]
      exact fun other member => sound other (List.mem_append_right _ member)
    · exact fun other member => room other (List.mem_append_right _ member)
  refine ⟨?_, gone, ?_⟩
  · obtain ⟨event, accepted⟩ := SettleCall.submit_ok.mp settles
    obtain ⟨-, values, decoded, current, -⟩ := Rollup.submitBatch_ok.mp accepted
    exact ⟨values, decoded, current⟩
  · intro again values decoded sameRoot
    obtain ⟨revert, reverts⟩ := SubmitCall.stale decoded (sameRoot ▸ gone.symm)
    exact ⟨⟨revert, reverts⟩, journal_cons_error reverts []⟩

end

open HappyPath in
theorem settled_proof_not_replayed_happyPath :
    (deployedAfter.stateRoot ≠ deployed.stateRoot ∧
      ∃ revert, submitTransfer.execute deployedAfter = .error revert) ∨
    Collision keccak256 (genesis.rootPreimage :: [settleTransfer].flatMap SettleCall.hashed) := by
  have stale : settleTransfer.submit deployedAfter =
      .error (.staleStateRoot settled.merkleRoot genesis.merkleRoot) := by decide +kernel
  have once := settled_proof_not_replayed genesisFile genesis (by decide +kernel) deployed rfl []
    [settleTransfer] settleTransfer ?_ [] [] deployed deployedAfter deployedAfter rfl
    (by decide +kernel) (by decide) (sift_cons_error stale []) (by decide +kernel)
  · rcases once with ⟨⟨values, decoded, stale⟩, gone, again⟩ | collision
    · exact Or.inl ⟨gone, (again submitTransfer values decoded stale).1⟩
    · exact Or.inr collision
  · intro call member
    have same : call = settleTransfer := by simpa using member
    rw [same]
    show _ → _
    intro
    decide +kernel

end ZkRollup
