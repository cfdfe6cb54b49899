import ZkRollup.Foundation.Imperative
import ZkRollup.SharedTypes.Types

/-!
Contract: `apply_tx` and `apply_batch` as the crate `stf` computes them, and the
zkVM program around the latter.

Both mutate a `State` behind a reference and may return early with an error. The
monad `EStateM` has the same effects: an error keeps whatever has been written
before it.
-/

set_option autoImplicit false

namespace ZkRollup

open Foundation

inductive StfError where
  | badSignature
  | nonceMismatch (expected got : UInt64)
  | insufficientBalance («have» need : UInt64)
  | overflow
  | selfTransfer
deriving DecidableEq, Repr

/-- `impl From<RecoverError> for StfError`. -/
def StfError.ofRecoverError (_ : RecoverError) : StfError :=
  .badSignature

/-- `u64::checked_add`. -/
def checkedAdd (left right : UInt64) : Option UInt64 :=
  if left.toNat + right.toNat < 2 ^ 64 then some (left + right) else none

section

variable [Primitives]

/-- The balance subtraction cannot wrap after its check. The nonce increment
has no check: outside debug builds it is arithmetic modulo `2 ^ 64`. -/
def applyTx (tx : Tx) : EStateM StfError State Unit := do
  if tx.from = tx.to then
    throw .selfTransfer
  let recovered ← ofExcept
    ((recoverAddress tx.signingHash tx.signature).mapError .ofRecoverError)
  if recovered ≠ tx.from then
    throw .badSignature
  let fromAcc := (← get).get tx.from
  if fromAcc.nonce ≠ tx.nonce then
    throw (.nonceMismatch fromAcc.nonce tx.nonce)
  if fromAcc.balance < tx.amount then
    throw (.insufficientBalance fromAcc.balance tx.amount)
  let toAcc := (← get).get tx.to
  let newToBalance ← ofExcept (okOr (checkedAdd toAcc.balance tx.amount) .overflow)
  modify fun state => state.set tx.from
    { balance := fromAcc.balance - tx.amount, nonce := fromAcc.nonce + 1 }
  modify fun state => state.set tx.to { toAcc with balance := newToBalance }

structure ApplyOutput where
  newState : State
  publicValues : PublicValues
deriving DecidableEq

def applyBatch (prevState : State) (batch : Batch) : Except StfError ApplyOutput :=
  let prevRoot := prevState.merkleRoot
  match (batch.txs.forM applyTx).run prevState with
  | .error failure _ => .error failure
  | .ok () newState =>
      let newRoot := newState.merkleRoot
      let batchHash := batch.hash
      .ok { newState, publicValues := { prevRoot, newRoot, batchHash } }

/-- How an execution of the zkVM program ends: a panic, after which there is no
proof, or committed public values. -/
inductive ProgramExit where
  | panicked (failure : StfError)
  | committed (publicValues : Bytes)
deriving DecidableEq

/-- `main` of `sp1-program-stf`, on the pair the host wrote. -/
def programMain (prevState : State) (batch : Batch) : ProgramExit :=
  match applyBatch prevState batch with
  | .ok output => .committed output.publicValues.abiEncode
  | .error failure => .panicked failure

/-! ## The pure step -/

/-- `apply_tx` as a function. What an error leaves behind is dropped, which
`applyTx_eq` shows to be the state from before the call. -/
def State.apply (state : State) (tx : Tx) : Except StfError State :=
  match (applyTx tx).run state with
  | .ok () next => .ok next
  | .error failure _ => .error failure

end

/-! ## Concrete digests and keys -/

/-- Operations by what they answer on finitely many inputs. -/
abbrev Primitives.ofTables (digests : List (Bytes × Hash))
    (keys : List ((Hash × FixedBytes 64 × UInt8) × FixedBytes 65)) : Primitives where
  keccak256 input := (digests.lookup input).getD (.zero 32)
  signatureFromSlice rs := keys.any fun entry => entry.1.2.1 = rs
  recoverFromPrehash digest rs id := keys.lookup (digest, rs, id)

/-! ## The crate's own test transfer

The wallets of seeds 1 and 2 and the transfer of `happy_path_transfer`, with the
digests and the key recovery the crates compute on them. -/

namespace HappyPath

def alice : Address := .ofNat 20 0x1a642f0e3c3af545e7acbd38b07251b3990914f1

def bob : Address := .ofNat 20 0x5050a4f4b3f9338c3472dcc01a87c76a144b3c9c

def aliceKey : FixedBytes 65 := .ofNat 65
  0x041b84c5567b126440995d3ed5aaba0565d71e1834604819ff9c17f5e9d5dd078f70beaf8f588b541507fed6a642c5ab42dfdf8120a7f639de5122d47a69a8e8d1

def bobKey : FixedBytes 65 := .ofNat 65
  0x044d4b6cd1361032ca9bd2aeb9d900aa4d45d9ead80ac9423374c451a7254d07662a3eada2d0fe208b6d257ceb0f064284662e857f57b66b54c198bd310ded36d0

def aliceRS : FixedBytes 64 := .ofNat 64
  0x4e5f4e81afca38147e334361da39dbec792b718bdf0ade8b8c2da2b58a5d932b2987378d7dd8b1dbdbf9e587c51c6f32fd56b40afded93fd5ccad17dbb9d8f08

def transfer : Tx where
  «from» := alice
  «to» := bob
  amount := 250
  nonce := 0
  signature := aliceRS.bytes ++ [0]

def genesis : State := ⟨[(alice, { balance := 1000, nonce := 0 }), (bob, default)]⟩

def settled : State :=
  ⟨[(alice, { balance := 750, nonce := 1 }), (bob, { balance := 250, nonce := 0 })]⟩

def signingDigest : Hash := .ofNat 32
  0x8555513cc9cce23439a411a6a068439dd69de0e82aef8672841c3fd6d8a4832d

def fullDigest : Hash := .ofNat 32
  0xb413a8ead4aa92f55dce3ef26ee653fdb35a55fbbe2961edcebdf2c33ef4e873

/-- The digests of the byte strings that occur here, and the recovery of the
one signature. -/
scoped instance primitives : Primitives where
  keccak256 input :=
    if input = transfer.signingPayload then
      signingDigest
    else if input = aliceKey.bytes.drop 1 then
      .ofNat 32 0xb8a0722ae6cb48cde0b4ae1f1a642f0e3c3af545e7acbd38b07251b3990914f1
    else if input = transfer.fullPayload then
      fullDigest
    else if input = fullDigest.bytes then
      .ofNat 32 0xc21d64f370c9bccad12c97fa556db864691fa7274148ded83f0f89d3fc4abc2e
    else if input = genesis.rootPreimage then
      .ofNat 32 0xa756e0b06bbe20a7416514ff26fff43f1733b997876914239aa1ee12845121dc
    else if input = settled.rootPreimage then
      .ofNat 32 0xd4ccc992ad0d153556b0e439cbdb8cbe5d1a6023cdcf5ab3c1ce84eb2962bb4c
    else
      .zero 32
  signatureFromSlice rs := rs = aliceRS
  recoverFromPrehash digest rs id :=
    if digest = signingDigest ∧ rs = aliceRS ∧ id = 0 then some aliceKey else none

example : (applyBatch genesis ⟨[transfer]⟩).map (fun output => output.newState) = .ok settled := by
  decide +kernel

end HappyPath

end ZkRollup
