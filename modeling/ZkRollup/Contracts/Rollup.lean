import ZkRollup.Foundation.Imperative
import ZkRollup.SharedTypes.Types

/-!
Contract: the settlement contract (`contracts/src/Rollup.sol`).

The verifier is another contract behind a `view` interface: it either returns or
reverts, and changes nothing here. Its answer to a call is an arbitrary function
of the call's arguments, given anew for each call.

A revert undoes the whole call, so a failing call is an error without a state.
-/

set_option autoImplicit false

namespace ZkRollup

open Foundation

structure Rollup where
  programVKey : Hash
  verifier : FixedBytes 20
  stateRoot : Hash
  batchCount : UInt64
deriving DecidableEq

structure BatchSettled where
  batchNumber : UInt64
  prevRoot : Hash
  newRoot : Hash
  batchHash : Hash
deriving DecidableEq

inductive RollupRevert where
  | zeroVerifier
  | zeroProgramVKey
  /-- `verifyProof` reverted. -/
  | proofRejected
  /-- `abi.decode` reverted. -/
  | malformedPublicValues
  | staleStateRoot (expected actual : Hash)
  | emptyNewRoot
deriving DecidableEq

abbrev VerifyProof := (programVKey : Hash) → (publicValues proofBytes : Bytes) → Bool

namespace Rollup

def deploy (verifier : FixedBytes 20) (programVKey genesisRoot : Hash) :
    Except RollupRevert Rollup := do
  if verifier = .zero 20 then
    throw .zeroVerifier
  if programVKey = .zero 32 then
    throw .zeroProgramVKey
  return { programVKey, verifier, stateRoot := genesisRoot, batchCount := 0 }

def submitBatch (rollup : Rollup) (verifyProof : VerifyProof) (publicValues proofBytes : Bytes) :
    Except RollupRevert (Rollup × BatchSettled) := do
  if ¬ verifyProof rollup.programVKey publicValues proofBytes then
    throw .proofRejected
  let values ← okOr (PublicValues.abiDecode publicValues) .malformedPublicValues
  if values.prevRoot ≠ rollup.stateRoot then
    throw (.staleStateRoot rollup.stateRoot values.prevRoot)
  if values.newRoot = .zero 32 then
    throw .emptyNewRoot
  let rollup := { rollup with stateRoot := values.newRoot }
  let rollup := { rollup with batchCount := rollup.batchCount + 1 }
  return (rollup, {
    batchNumber := rollup.batchCount
    prevRoot := values.prevRoot
    newRoot := values.newRoot
    batchHash := values.batchHash })

/-- The checks in their order. -/
theorem submitBatch_eq (rollup : Rollup) (verifyProof : VerifyProof)
    (publicValues proofBytes : Bytes) :
    rollup.submitBatch verifyProof publicValues proofBytes =
      if verifyProof rollup.programVKey publicValues proofBytes = false then
        .error .proofRejected
      else
        match PublicValues.abiDecode publicValues with
        | none => .error .malformedPublicValues
        | some values =>
            if values.prevRoot ≠ rollup.stateRoot then
              .error (.staleStateRoot rollup.stateRoot values.prevRoot)
            else if values.newRoot = .zero 32 then
              .error .emptyNewRoot
            else
              .ok ({ rollup with
                stateRoot := values.newRoot, batchCount := rollup.batchCount + 1 }, {
                batchNumber := rollup.batchCount + 1
                prevRoot := values.prevRoot
                newRoot := values.newRoot
                batchHash := values.batchHash }) := by
  unfold submitBatch
  cases verified : verifyProof rollup.programVKey publicValues proofBytes with
  | false => rfl
  | true =>
      cases decoded : PublicValues.abiDecode publicValues with
      | none => rfl
      | some values =>
          by_cases current : values.prevRoot = rollup.stateRoot
          · by_cases empty : values.newRoot = .zero 32
            · simp [okOr, current, empty, throw, throwThe, MonadExceptOf.throw, bind, Except.bind]
            · simp [okOr, current, empty, bind, Except.bind, pure, Except.pure]
          · simp [okOr, current, throw, throwThe, MonadExceptOf.throw, bind, Except.bind]

/-- What a settled call has checked, and what it does. -/
theorem submitBatch_ok {rollup next : Rollup} {settled : BatchSettled}
    {verifyProof : VerifyProof} {publicValues proofBytes : Bytes} :
    rollup.submitBatch verifyProof publicValues proofBytes = .ok (next, settled) ↔
      verifyProof rollup.programVKey publicValues proofBytes = true ∧
      ∃ values, PublicValues.abiDecode publicValues = some values ∧
        values.prevRoot = rollup.stateRoot ∧ values.newRoot ≠ .zero 32 ∧
        next = { rollup with
          stateRoot := values.newRoot, batchCount := rollup.batchCount + 1 } ∧
        settled = {
          batchNumber := rollup.batchCount + 1
          prevRoot := values.prevRoot
          newRoot := values.newRoot
          batchHash := values.batchHash } := by
  rw [submitBatch_eq]
  cases verifyProof rollup.programVKey publicValues proofBytes with
  | false => simp
  | true =>
      cases PublicValues.abiDecode publicValues with
      | none => simp
      | some values =>
          by_cases current : values.prevRoot = rollup.stateRoot
          · by_cases empty : values.newRoot = .zero 32
            · simp [current, empty]
            · simp [current, empty, eq_comm]
          · simp [current]

/-- The proof is checked first, so a rejected proof is always the answer. -/
theorem submitBatch_proofRejected {rollup : Rollup} {verifyProof : VerifyProof}
    {publicValues proofBytes : Bytes} :
    rollup.submitBatch verifyProof publicValues proofBytes = .error .proofRejected ↔
      verifyProof rollup.programVKey publicValues proofBytes = false := by
  rw [submitBatch_eq]
  cases verifyProof rollup.programVKey publicValues proofBytes with
  | false => simp
  | true =>
      cases PublicValues.abiDecode publicValues with
      | none => simp
      | some values =>
          simp only [Bool.true_eq_false, if_false, iff_false]
          split_ifs <;> simp

end Rollup

end ZkRollup
