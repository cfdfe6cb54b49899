import ZkRollup.Foundation.Collision
import ZkRollup.SharedTypes.Types

/-!
Contract: unique decodability of every hashed byte string.

The three preimages are undelimited concatenations without length prefixes or
domain tags: 36 bytes for each account, 56 bytes and a signature of any length
for each transfer, 32 bytes for each transfer hash. Each of them still has one
reading.

Owns: injectivity of `rootPreimage`, `fullPayload` and `hashPreimage` (the last
up to collisions of the transfer hashes), and the ABI round trip.
-/

set_option autoImplicit false

namespace ZkRollup

open Foundation

/-! ## Accounts -/

private theorem account_view_injective :
    Function.Injective fun entry : Address × Account =>
      ((entry.1, entry.2.balance), entry.2.nonce) := by
  rintro ⟨leftAddr, ⟨leftBalance, leftNonce⟩⟩ ⟨rightAddr, ⟨rightBalance, rightNonce⟩⟩ equal
  simp only [Prod.mk.injEq] at equal
  obtain ⟨⟨rfl, rfl⟩, rfl⟩ := equal
  rfl

/-- One record of the root preimage: 36 bytes. -/
def accountCodec : FixedCodec (Address × Account) :=
  (((FixedCodec.fixedBytes 20).prod FixedCodec.u64).prod FixedCodec.u64).contramap
    (fun entry => ((entry.1, entry.2.balance), entry.2.nonce)) account_view_injective

/-- Account lists of any and of different lengths have different preimages. -/
theorem State.rootPreimage_injective : Function.Injective State.rootPreimage := by
  rintro ⟨left⟩ ⟨right⟩ equal
  have sameAccounts : left = right := accountCodec.flatMap_injective (by decide) equal
  rw [sameAccounts]

/-! ## Transfers -/

private theorem header_view_injective {left right : Tx}
    (header : (((left.from, left.to), left.amount), left.nonce) =
      (((right.from, right.to), right.amount), right.nonce))
    (signature : left.signature = right.signature) : left = right := by
  cases left
  cases right
  simp only [Prod.mk.injEq] at header
  obtain ⟨⟨⟨rfl, rfl⟩, rfl⟩, rfl⟩ := header
  subst signature
  rfl

/-- The fixed part of a transfer: 56 bytes. -/
def headerCodec : FixedCodec (((Address × Address) × UInt64) × UInt64) :=
  (((FixedCodec.fixedBytes 20).prod (FixedCodec.fixedBytes 20)).prod FixedCodec.u64).prod
    FixedCodec.u64

theorem Tx.fullPayload_eq (tx : Tx) :
    tx.fullPayload =
      headerCodec.encode (((tx.from, tx.to), tx.amount), tx.nonce) ++ tx.signature := rfl

theorem Tx.fullPayload_injective : Function.Injective Tx.fullPayload := by
  intro left right equal
  rw [left.fullPayload_eq, right.fullPayload_eq] at equal
  obtain ⟨header, signature⟩ := headerCodec.append_injective equal
  exact header_view_injective header signature

/-! ## Batches -/

variable [Primitives]

/-- Equal batch preimages carry equal transfer hashes, position by position. -/
theorem Batch.fullHashes_eq {left right : Batch}
    (equal : left.hashPreimage = right.hashPreimage) :
    left.txs.map Tx.fullHash = right.txs.map Tx.fullHash := by
  apply (FixedCodec.fixedBytes 32).flatMap_injective (by decide)
  simpa only [FixedCodec.fixedBytes, List.flatMap_map, hashPreimage] using equal

private theorem txs_eq_of_fullHashes {left right : List Tx}
    (free : CollisionFree keccak256 ((left ++ right).map Tx.fullPayload))
    (equal : left.map Tx.fullHash = right.map Tx.fullHash) : left = right := by
  induction left generalizing right with
  | nil => simpa using equal.symm
  | cons head tail inductionHypothesis =>
      cases right with
      | nil => simp at equal
      | cons otherHead otherTail =>
          simp only [List.map_cons, List.cons.injEq] at equal
          have headEqual : head = otherHead := by
            apply Tx.fullPayload_injective
            exact free _ (by simp) _ (by simp) equal.1
          have tailEqual : tail = otherTail := by
            refine inductionHypothesis (free.mono ?_) equal.2
            intro payload member
            simp only [List.map_append, List.mem_append, List.map_cons, List.mem_cons] at member ⊢
            tauto
          rw [headEqual, tailEqual]

/-- What `Tx::full_hash` and `Batch::hash` hash for a batch. -/
def Batch.hashedStrings (batch : Batch) : List Bytes :=
  batch.hashPreimage :: batch.txs.map Tx.fullPayload

/-- The batch hash pins the batch, signatures included. -/
theorem Batch.eq_of_hash_eq {left right : Batch}
    (free : CollisionFree keccak256 (left.hashedStrings ++ right.hashedStrings))
    (equal : left.hash = right.hash) : left = right := by
  have samePreimage : left.hashPreimage = right.hashPreimage :=
    free _ (by simp [hashedStrings]) _ (by simp [hashedStrings]) equal
  have sameTxs : left.txs = right.txs := by
    refine txs_eq_of_fullHashes (free.mono ?_) (fullHashes_eq samePreimage)
    intro payload member
    simp only [List.map_append, List.mem_append] at member
    simp only [hashedStrings, List.mem_append, List.mem_cons]
    tauto
  cases left
  cases right
  subst sameTxs
  rfl

/-- The root pins the account list, order and duplicates included. -/
theorem State.eq_of_merkleRoot_eq {inputs : List Bytes} {left right : State}
    (free : CollisionFree keccak256 inputs) (leftHashed : left.rootPreimage ∈ inputs)
    (rightHashed : right.rootPreimage ∈ inputs) (equal : left.merkleRoot = right.merkleRoot) :
    left = right :=
  State.rootPreimage_injective (free _ leftHashed _ rightHashed equal)

/-! ## Public values -/

omit [Primitives] in
@[simp] theorem PublicValues.abiEncode_length (values : PublicValues) :
    values.abiEncode.length = 96 := by
  simp [abiEncode, FixedBytes.length_eq]

omit [Primitives] in
theorem PublicValues.abiDecode_abiEncode (values : PublicValues) :
    abiDecode values.abiEncode = some values := by
  obtain ⟨⟨prev, prevLength⟩, ⟨next, nextLength⟩, ⟨batch, batchLength⟩⟩ := values
  have sized : 96 ≤ (prev ++ next ++ batch).length := by
    simp [prevLength, nextLength, batchLength]
  have first : (prev ++ next ++ batch).take 32 = prev := by
    rw [List.append_assoc, List.take_left' prevLength]
  have second : ((prev ++ next ++ batch).drop 32).take 32 = next := by
    rw [List.append_assoc, List.drop_left' prevLength, List.take_left' nextLength]
  have third : ((prev ++ next ++ batch).drop 64).take 32 = batch := by
    rw [List.drop_left' (by simp [prevLength, nextLength]),
      List.take_of_length_le (Nat.le_of_eq batchLength)]
  simp only [abiDecode, abiEncode, dif_pos sized, first, second, third]

end ZkRollup
