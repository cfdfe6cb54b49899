import ZkRollup.Foundation.Hex
import ZkRollup.Foundation.SliceSearch

/-!
Contract: the wire-format types shared by the zkVM program, the sequencer and
the host tools (`shared-types/src/lib.rs`).

Owns: addresses, transfers, accounts, the account list, batches, the public
values, every byte string that is hashed, and signer recovery.

The Keccak and secp256k1 crates are not part of the repository. They enter as
the operations of `Primitives`; every definition and theorem is generic in them.

Does not own: any law of these operations.
-/

set_option autoImplicit false

namespace ZkRollup

open Foundation

abbrev Hash := FixedBytes 32

/-- The operations of `tiny_keccak` and `k256` that the code calls. -/
class Primitives where
  /-- `Keccak::v256` over the concatenation of everything passed to `update`. -/
  keccak256 : Bytes → Hash
  /-- Whether `Signature::from_slice` accepts these `r || s` bytes. -/
  signatureFromSlice : FixedBytes 64 → Bool
  /-- `VerifyingKey::recover_from_prehash` on an accepted signature, as the
  uncompressed SEC1 encoding of the key (tag byte first). -/
  recoverFromPrehash : Hash → FixedBytes 64 → UInt8 → Option (FixedBytes 65)

export Primitives (keccak256 signatureFromSlice recoverFromPrehash)

/-! ## Addresses -/

abbrev Address := FixedBytes 20

/-- `s.strip_prefix("0x").unwrap_or(s)` on UTF-8 text. -/
def stripHexPrefix : Bytes → Bytes
  | 0x30 :: 0x78 :: rest => rest
  | text => text

def Address.fromHex (text : Bytes) : Except Hex.FromHexError Address :=
  match Hex.decode (stripHexPrefix text) with
  | .error failure => .error failure
  | .ok bytes =>
      if sized : bytes.length = 20 then .ok ⟨bytes, sized⟩ else .error .invalidStringLength

/-! ## Transfers -/

structure Tx where
  «from» : Address
  «to» : Address
  amount : UInt64
  nonce : UInt64
  /-- `r (32) || s (32) || v (1)`; a plain byte vector, so any length can arrive. -/
  signature : Bytes
deriving DecidableEq

/-- `from || to || amount_be || nonce_be`. -/
def Tx.signingPayload (tx : Tx) : Bytes :=
  tx.from.bytes ++ tx.to.bytes ++ u64ToBeBytes tx.amount ++ u64ToBeBytes tx.nonce

def Tx.signingHash [Primitives] (tx : Tx) : Hash :=
  keccak256 tx.signingPayload

def Tx.fullPayload (tx : Tx) : Bytes :=
  tx.from.bytes ++ tx.to.bytes ++ u64ToBeBytes tx.amount ++ u64ToBeBytes tx.nonce ++
    tx.signature

def Tx.fullHash [Primitives] (tx : Tx) : Hash :=
  keccak256 tx.fullPayload

/-! ## Accounts and the account list -/

structure Account where
  balance : UInt64
  nonce : UInt64
deriving DecidableEq

instance : Inhabited Account := ⟨{ balance := 0, nonce := 0 }⟩

/-- The account list. `get`, `set` and the zkVM program expect it sorted by
address, but a deserialized value can hold any list. -/
structure State where
  accounts : List (Address × Account)
deriving DecidableEq

namespace State

def new : State := ⟨[]⟩

def get (state : State) (addr : Address) : Account :=
  match binarySearchByKey state.accounts addr Prod.fst with
  | .ok index => (state.accounts.get index).2
  | .err _ => default

def set (state : State) (addr : Address) (account : Account) : State :=
  ⟨match binarySearchByKey state.accounts addr Prod.fst with
    | .ok index => state.accounts.modify index fun entry => (entry.1, account)
    | .err index => state.accounts.insertIdx index (addr, account)⟩

/-- One record of the root preimage: `addr || balance_be || nonce_be`. -/
def accountBytes (entry : Address × Account) : Bytes :=
  entry.1.bytes ++ u64ToBeBytes entry.2.balance ++ u64ToBeBytes entry.2.nonce

/-- The byte string `merkle_root` hashes: the records in list order, undelimited. -/
def rootPreimage (state : State) : Bytes :=
  state.accounts.flatMap accountBytes

def merkleRoot [Primitives] (state : State) : Hash :=
  keccak256 state.rootPreimage

end State

/-! ## Batches and public values -/

structure Batch where
  txs : List Tx
deriving DecidableEq

/-- The byte string `Batch::hash` hashes: the full hashes in order. -/
def Batch.hashPreimage [Primitives] (batch : Batch) : Bytes :=
  batch.txs.flatMap fun tx => tx.fullHash.bytes

def Batch.hash [Primitives] (batch : Batch) : Hash :=
  keccak256 batch.hashPreimage

structure PublicValues where
  prevRoot : Hash
  newRoot : Hash
  batchHash : Hash
deriving DecidableEq

namespace PublicValues

/-- `PublicValuesStruct::abi_encode`: three static words. -/
def abiEncode (values : PublicValues) : Bytes :=
  values.prevRoot.bytes ++ values.newRoot.bytes ++ values.batchHash.bytes

/-- Solidity's `abi.decode(data, (bytes32, bytes32, bytes32))`: it reverts on
fewer than 96 bytes and ignores what follows them. -/
def abiDecode (data : Bytes) : Option PublicValues :=
  if sized : 96 ≤ data.length then
    some {
      prevRoot := ⟨data.take 32, by rw [List.length_take]; omega⟩
      newRoot := ⟨(data.drop 32).take 32, by rw [List.length_take, List.length_drop]; omega⟩
      batchHash := ⟨(data.drop 64).take 32, by rw [List.length_take, List.length_drop]; omega⟩ }
  else
    none

end PublicValues

/-! ## Signer recovery -/

inductive RecoverError where
  | badSignature
  | badRecoveryId
  | recover
deriving DecidableEq, Repr

/-- `RecoveryId::try_from`: the ids are `0` to `3`. -/
def recoveryIdTryFrom (v : UInt8) : Except RecoverError UInt8 :=
  if v < 4 then .ok v else .error .badRecoveryId

/-- `v` in either convention: `0, 1` or `27, 28`. -/
def normalizeV (v : UInt8) : Except RecoverError UInt8 :=
  if v = 0 ∨ v = 1 then .ok v
  else if v = 27 ∨ v = 28 then .ok (v - 27)
  else .error .badRecoveryId

/-- The last 20 bytes of the digest of a key without its tag byte. -/
def addressOfKey [Primitives] (key : FixedBytes 65) : Address :=
  ⟨(keccak256 (key.bytes.drop 1)).bytes.drop 12, by
    rw [List.length_drop, (keccak256 (key.bytes.drop 1)).length_eq]⟩

def recoverAddress [Primitives] (msgHash : Hash) (signature : Bytes) :
    Except RecoverError Address := do
  if sized : signature.length = 65 then
    let sig : FixedBytes 64 := ⟨signature.take 64, by rw [List.length_take]; omega⟩
    if signatureFromSlice sig = false then
      throw .badSignature
    let vNorm ← normalizeV signature[64]
    let recoveryId ← recoveryIdTryFrom vNorm
    match recoverFromPrehash msgHash sig recoveryId with
    | none => throw .recover
    | some key => return addressOfKey key
  else
    throw .badSignature

end ZkRollup
