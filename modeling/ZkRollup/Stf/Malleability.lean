import ZkRollup.Stf.Authorization
import ZkRollup.Stf.Binding

/-!
Contract: what the two conventions for the recovery byte leave open.

`recover_address` takes `0, 1` and `27, 28` for the same two keys. So each signed
transfer has a twin with the same effect on every state. The signed hash leaves
the signature out and `full_hash` takes it in: who batches a transfer can choose
its batch hash, and nothing else.
-/

set_option autoImplicit false

namespace ZkRollup

open Foundation

/-- The byte of the other convention; no other byte has one. -/
def otherV (v : UInt8) : UInt8 :=
  if v = 0 ∨ v = 1 then v + 27 else if v = 27 ∨ v = 28 then v - 27 else v

/-- The transfer with its signature in the other convention. -/
def Tx.twin (tx : Tx) : Tx :=
  { tx with signature := tx.signature.take 64 ++ (tx.signature.drop 64).map otherV }

/-- The same transfer up to the convention. -/
def Tx.Reencodes (left right : Tx) : Prop :=
  right = left ∨ right = left.twin

theorem normalizeV_otherV (v : UInt8) : normalizeV (otherV v) = normalizeV v := by
  unfold otherV normalizeV
  by_cases small : v = 0 ∨ v = 1
  · rcases small with rfl | rfl <;> rfl
  · by_cases large : v = 27 ∨ v = 28
    · rcases large with rfl | rfl <;> rfl
    · simp [small, large]

/-- A byte that stands for a key has another one that does. -/
theorem otherV_ne {v id : UInt8} (reads : normalizeV v = .ok id) : otherV v ≠ v := by
  unfold normalizeV at reads
  unfold otherV
  by_cases small : v = 0 ∨ v = 1
  · rcases small with rfl | rfl <;> decide
  · by_cases large : v = 27 ∨ v = 28
    · rcases large with rfl | rfl <;> decide
    · simp [small, large] at reads

section

variable [Primitives]

/-- Recovery from the two halves of a signature of the right length. -/
theorem recoverAddress_of_length {digest : Hash} {signature : Bytes}
    (sized : signature.length = 65) {rs : FixedBytes 64} {v : UInt8}
    (split : signature = rs.bytes ++ [v]) :
    recoverAddress digest signature = (do
      if signatureFromSlice rs = false then
        throw .badSignature
      let vNorm ← normalizeV v
      let recoveryId ← recoveryIdTryFrom vNorm
      match recoverFromPrehash digest rs recoveryId with
      | none => throw .recover
      | some key => return addressOfKey key) := by
  subst split
  unfold recoverAddress
  have first : (⟨(rs.bytes ++ [v]).take 64, by simp [rs.length_eq]⟩ : FixedBytes 64) = rs :=
    FixedBytes.bytes_injective (List.take_left' rs.length_eq)
  have last : (rs.bytes ++ [v])[64] = v := by
    simp [rs.length_eq]
  rewrite [dif_pos sized, first, last]
  rfl

omit [Primitives] in
/-- A signature of the right length and its twin. -/
theorem Tx.twin_split {tx : Tx} (sized : tx.signature.length = 65) :
    ∃ (rs : FixedBytes 64) (v : UInt8), tx.signature = rs.bytes ++ [v] ∧
      tx.twin.signature = rs.bytes ++ [otherV v] := by
  have tail : (tx.signature.drop 64).length = 1 := by
    rw [List.length_drop, sized]
  obtain ⟨v, last⟩ := List.length_eq_one_iff.mp tail
  refine ⟨⟨tx.signature.take 64, by rw [List.length_take, sized]; rfl⟩, v, ?_, ?_⟩
  · rw [← last, List.take_append_drop]
  · simp only [twin, last, List.map_cons, List.map_nil]

theorem Tx.recoverAddress_twin (tx : Tx) (digest : Hash) :
    recoverAddress digest tx.twin.signature = recoverAddress digest tx.signature := by
  have sameLength : tx.twin.signature.length = tx.signature.length := by
    rw [twin, List.length_append, List.length_map, ← List.length_append, List.take_append_drop]
  by_cases sized : tx.signature.length = 65
  · obtain ⟨rs, v, split, twinSplit⟩ := twin_split sized
    rw [recoverAddress_of_length sized split,
      recoverAddress_of_length (sameLength.trans sized) twinSplit, normalizeV_otherV]
  · unfold recoverAddress
    rw [dif_neg sized, dif_neg (by rwa [sameLength])]

/-- Every state takes both or rejects both, with one answer. -/
theorem State.apply_twin (state : State) (tx : Tx) : state.apply tx.twin = state.apply tx := by
  have recovers := tx.recoverAddress_twin tx.signingHash
  have sameHash : tx.twin.signingHash = tx.signingHash := rfl
  unfold State.apply applyTx
  rw [sameHash, recovers]
  rfl

theorem Tx.Reencodes.apply {left right : Tx} (same : left.Reencodes right) (state : State) :
    state.apply right = state.apply left := by
  rcases same with rfl | rfl
  · rfl
  · exact state.apply_twin left

theorem replay_reencoded {left right : List Tx} (same : List.Forall₂ Tx.Reencodes left right)
    (state : State) : state.applyAll right = state.applyAll left := by
  induction same generalizing state with
  | nil => rfl
  | cons head _ inductionHypothesis =>
      simp only [State.applyAll, replay_cons, head.apply]
      cases state.apply _ with
      | error failure => rfl
      | ok next => exact inductionHypothesis next

/-- A signed transfer is not its own twin. -/
theorem Tx.Signed.twin_ne {tx : Tx} (signed : tx.Signed) : tx.twin ≠ tx := by
  have sized := recoverAddress_length signed
  obtain ⟨rs, v, split, twinSplit⟩ := Tx.twin_split sized
  have reads : ∃ id, normalizeV v = .ok id := by
    unfold Tx.Signed at signed
    rw [recoverAddress_of_length sized split] at signed
    cases read : normalizeV v with
    | ok id => exact ⟨id, rfl⟩
    | error failure =>
        rw [read] at signed
        by_cases rejected : signatureFromSlice rs = false
        · simp [rejected, throw, throwThe, MonadExceptOf.throw, bind, Except.bind] at signed
        · simp [rejected, bind, Except.bind] at signed
  obtain ⟨id, read⟩ := reads
  intro same
  have sameBytes := congrArg Tx.signature same
  rw [split, twinSplit] at sameBytes
  exact otherV_ne read (List.singleton_inj.mp (List.append_cancel_left sameBytes))

/-- The same transition with another batch hash. -/
def ApplyOutput.withBatchHash (output : ApplyOutput) (batchHash : Hash) : ApplyOutput :=
  { output with publicValues := { output.publicValues with batchHash } }

theorem applyBatch_reencoded {left right : List Tx} (same : List.Forall₂ Tx.Reencodes left right)
    {prev : State} {output : ApplyOutput} (accepted : applyBatch prev ⟨left⟩ = .ok output) :
    applyBatch prev ⟨right⟩ = .ok (output.withBatchHash (Batch.hash ⟨right⟩)) := by
  obtain ⟨replayed, values⟩ := applyBatch_ok.mp accepted
  refine applyBatch_ok.mpr ⟨(replay_reencoded same prev).trans replayed, ?_⟩
  rw [ApplyOutput.withBatchHash, values]
  rfl

omit [Primitives] in
theorem reencodes_twins (txs : List Tx) : List.Forall₂ Tx.Reencodes txs (txs.map Tx.twin) := by
  induction txs with
  | nil => exact .nil
  | cons tx rest inductionHypothesis => exact .cons (Or.inr rfl) inductionHypothesis

/-- Batches that differ in the conventions of some signatures have one outcome on
every state, roots included, or fail with one error; but different batches have
different batch hashes, up to a collision. And to every accepted batch with a
transfer there is a different one with the same outcome. -/
theorem reencoding_changes_only_batchHash (prev : State) (left right : List Tx)
    (same : List.Forall₂ Tx.Reencodes left right) :
    (∀ failure, applyBatch prev ⟨left⟩ = .error failure ↔
      applyBatch prev ⟨right⟩ = .error failure) ∧
    (∀ output, applyBatch prev ⟨left⟩ = .ok output →
      applyBatch prev ⟨right⟩ = .ok (output.withBatchHash (Batch.hash ⟨right⟩))) ∧
    (left ≠ right → Batch.hash ⟨left⟩ ≠ Batch.hash ⟨right⟩ ∨
      Collision keccak256 (Batch.hashedStrings ⟨left⟩ ++ Batch.hashedStrings ⟨right⟩)) ∧
    ∀ output, applyBatch prev ⟨left⟩ = .ok output → left ≠ [] →
      ∃ twins, twins ≠ left ∧
        applyBatch prev ⟨twins⟩ = .ok (output.withBatchHash (Batch.hash ⟨twins⟩)) := by
  refine ⟨?_, fun output accepted => applyBatch_reencoded same accepted, ?_, ?_⟩
  · intro failure
    rw [applyBatch_error, applyBatch_error]
    show prev.applyAll left = _ ↔ prev.applyAll right = _
    rw [replay_reencoded same prev]
  · intro different
    refine or_collision fun free sameHash => ?_
    exact different (congrArg Batch.txs (Batch.eq_of_hash_eq free sameHash))
  · intro output accepted nonempty
    refine ⟨left.map Tx.twin, ?_, applyBatch_reencoded (reencodes_twins left) accepted⟩
    obtain ⟨tx, rest, rfl⟩ := List.exists_cons_of_ne_nil nonempty
    have signed : tx.Signed :=
      (authorised_of_applyAll (applyBatch_ok.mp accepted).1 tx (List.mem_cons_self ..)).2.2
    intro sameList
    exact signed.twin_ne (List.cons.inj sameList).1

end

open HappyPath in
/-- The test transfer as a wallet signs it for the web client. -/
theorem reencoding_changes_only_batchHash_happyPath :
    applyBatch genesis ⟨[{ transfer with signature := aliceRS.bytes ++ [27] }]⟩ =
      .ok ((ApplyOutput.mk settled (.ofTransition genesis ⟨[transfer]⟩ settled)).withBatchHash
        (Batch.hash ⟨[{ transfer with signature := aliceRS.bytes ++ [27] }]⟩)) :=
  (reencoding_changes_only_batchHash genesis [transfer]
    [{ transfer with signature := aliceRS.bytes ++ [27] }]
    (.cons (Or.inr (by decide +kernel)) .nil)).2.1 _ (by decide +kernel)

end ZkRollup
