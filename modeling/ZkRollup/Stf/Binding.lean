import ZkRollup.SharedTypes.Encoding
import ZkRollup.Stf.ApplyBatch

/-!
Contract: the public values bind their inputs.

A proof only shows digests. `prevRoot` pins the account list it started from and
`batchHash` pins the transfers, signatures included, so the transition behind a
pair of digests is unique up to a collision among the strings hashed for it.
-/

set_option autoImplicit false

namespace ZkRollup

open Foundation

section

variable [Primitives]

/-- What `merkle_root`, `full_hash` and `Batch::hash` hash of the inputs of
`apply_batch`. -/
def hashedInputs (prev : State) (batch : Batch) : List Bytes :=
  prev.rootPreimage :: batch.hashedStrings

theorem inputs_eq_of_publicValues {left right : State} {leftBatch rightBatch : Batch}
    (free : CollisionFree keccak256 (hashedInputs left leftBatch ++ hashedInputs right rightBatch))
    (sameRoot : left.merkleRoot = right.merkleRoot) (sameHash : leftBatch.hash = rightBatch.hash) :
    left = right ∧ leftBatch = rightBatch := by
  constructor
  · exact State.eq_of_merkleRoot_eq free (by simp [hashedInputs]) (by simp [hashedInputs]) sameRoot
  · refine Batch.eq_of_hash_eq (free.mono ?_) sameHash
    intro input member
    simp only [hashedInputs, List.mem_append, List.mem_cons] at member ⊢
    tauto

/-- Equal previous roots and equal batch hashes come from equal inputs, and so
from equal outputs, or from a collision. -/
theorem applyBatch_binding (left right : State) (leftBatch rightBatch : Batch)
    (leftOutput rightOutput : ApplyOutput)
    (leftSucceeds : applyBatch left leftBatch = .ok leftOutput)
    (rightSucceeds : applyBatch right rightBatch = .ok rightOutput)
    (sameRoot : leftOutput.publicValues.prevRoot = rightOutput.publicValues.prevRoot)
    (sameHash : leftOutput.publicValues.batchHash = rightOutput.publicValues.batchHash) :
    (left.accounts = right.accounts ∧ leftBatch.txs = rightBatch.txs ∧
      leftOutput.newState = rightOutput.newState ∧
      leftOutput.publicValues.newRoot = rightOutput.publicValues.newRoot) ∨
    Collision keccak256 (hashedInputs left leftBatch ++ hashedInputs right rightBatch) := by
  apply or_collision
  intro free
  rw [(applyBatch_ok.mp leftSucceeds).2, (applyBatch_ok.mp rightSucceeds).2] at sameRoot sameHash
  rcases inputs_eq_of_publicValues free sameRoot sameHash with ⟨rfl, rfl⟩
  have sameOutput : leftOutput = rightOutput :=
    Except.ok.inj (leftSucceeds.symm.trans rightSucceeds)
  rw [sameOutput]
  exact ⟨rfl, rfl, rfl, rfl⟩

end

/-! ## A hash that collides -/

namespace CoarseHash

open HappyPath (alice bob aliceKey aliceRS transfer signingDigest)

/-- Every input that the signature does not need has one digest. -/
scoped instance primitives : Primitives :=
  .ofTables
    [(transfer.signingPayload, signingDigest),
      (aliceKey.bytes.drop 1,
        .ofNat 32 0xb8a0722ae6cb48cde0b4ae1f1a642f0e3c3af545e7acbd38b07251b3990914f1)]
    [((signingDigest, aliceRS, 0), aliceKey)]

/-- Bob has funds of his own. -/
def funded : State :=
  ⟨[(alice, { balance := 1000, nonce := 0 }), (bob, { balance := 500, nonce := 0 })]⟩

def fundedAfter : State :=
  ⟨[(alice, { balance := 750, nonce := 1 }), (bob, { balance := 750, nonce := 0 })]⟩

end CoarseHash

open CoarseHash in
open HappyPath (genesis settled transfer) in
/-- Two states under one root, with the same batch: the results differ, so the
hash collides. -/
theorem applyBatch_binding_coarseHash :
    Collision keccak256 (hashedInputs genesis ⟨[transfer]⟩ ++ hashedInputs funded ⟨[transfer]⟩) := by
  have bound := applyBatch_binding genesis funded ⟨[transfer]⟩ ⟨[transfer]⟩
    ⟨settled, .ofTransition genesis ⟨[transfer]⟩ settled⟩
    ⟨fundedAfter, .ofTransition funded ⟨[transfer]⟩ fundedAfter⟩
    (by decide +kernel) (by decide +kernel) (by decide +kernel) (by decide +kernel)
  have different : genesis.accounts ≠ funded.accounts := by decide +kernel
  exact bound.resolve_left fun same => different same.1

end ZkRollup
