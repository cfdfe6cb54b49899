import ZkRollup.Sequencer.Consistency

/-!
Contract: the two writing endpoints, `POST /tx` and `POST /batch`
(`sequencer/src/routes.rs`), with the clients they call (`prover.rs`, `l1.rs`).

The prover service and the L1 node are outside: what they answer is data. A
`/batch` request takes the state's lock several times and releases it in
between; the pieces it runs under the lock are definitions of their own, and
`triggerBatch` strings them together for a request that nothing interrupts.

Texts are UTF-8 byte strings. Messages that quote an error carry that error.
-/

set_option autoImplicit false

namespace ZkRollup

open Foundation

/-! ## The clients -/

/-- The JSON answer of `prover-svc`, all fields as the strings they arrive as. -/
structure ProveResponse where
  proof : Bytes
  publicValues : Bytes
  vkey : Bytes
  prevRoot : Bytes
  newRoot : Bytes
  batchHash : Bytes
deriving DecidableEq

structure Receipt where
  txHash : Hash
  status : Bool
  gasUsed : UInt64
  blockNumber : Option UInt64
deriving DecidableEq

/-- How the round trip of `L1Client::submit_batch` can go: `send` fails, or the
receipt cannot be retrieved, or it arrives. -/
inductive RoundTrip where
  | sendFailed (cause : String)
  | receiptFailed (cause : String)
  | mined (receipt : Receipt)
deriving DecidableEq

inductive SubmitError where
  /-- `send submitBatch failed: {cause}` -/
  | send (cause : String)
  /-- `await submitBatch receipt failed: {cause}` -/
  | receipt (cause : String)
  /-- `submitBatch reverted in tx {txHash} (block {blockNumber:?})` -/
  | reverted (txHash : Hash) (blockNumber : Option UInt64)
deriving DecidableEq

structure SettleOutcome where
  txHash : Hash
  gasUsed : UInt64
  blockNumber : UInt64
deriving DecidableEq

/-- `L1Client::submit_batch` after its round trip. -/
def L1Client.submitBatch : RoundTrip → Except SubmitError SettleOutcome
  | .sendFailed cause => .error (.send cause)
  | .receiptFailed cause => .error (.receipt cause)
  | .mined receipt =>
      if ¬ receipt.status then
        .error (.reverted receipt.txHash receipt.blockNumber)
      else
        .ok {
          txHash := receipt.txHash
          gasUsed := receipt.gasUsed
          blockNumber := receipt.blockNumber.getD 0 }

/-! ## Requests and answers -/

/-- The message of an `ApiError`, one constructor for each format string. -/
inductive Message where
  /-- `bad from: {failure:?}` -/
  | badFrom (failure : Hex.FromHexError)
  /-- `bad to: {failure:?}` -/
  | badTo (failure : Hex.FromHexError)
  /-- `bad signature hex: {failure}` -/
  | badSignatureHex (failure : Hex.FromHexError)
  /-- `signature must be 65 bytes, got {length}` -/
  | signatureLength (length : Nat)
  /-- `rejected by stf: {failure:?}` -/
  | rejectedByStf (failure : StfError)
  /-- `mempool is empty` -/
  | mempoolIsEmpty
  /-- `prove failed: {cause}` -/
  | proveFailed (cause : String)
  /-- `decode hex: {failure}` -/
  | decodeHex (failure : Hex.FromHexError)
  /-- `prover-svc returned non-96-byte public_values: {length} bytes` -/
  | publicValuesLength (length : Nat)
  /-- `L1 submitBatch failed: {cause}` -/
  | submitBatchFailed (cause : SubmitError)
  /-- `L1 settled (tx {txHash:?}) but local commit_batch failed: {cause}. Sequencer
  canonical state is now behind L1; restart with a refreshed genesis or sync from
  L1 events.` -/
  | commitBatchFailed (txHash : Hash) (cause : CommitError)
deriving DecidableEq

inductive ApiError where
  | badRequest (message : Message)
  | internal (message : Message)
deriving DecidableEq

structure TxRequest where
  «from» : Bytes
  «to» : Bytes
  amount : UInt64
  nonce : UInt64
  signature : Bytes
deriving DecidableEq

structure TxResponse where
  accepted : Bool
  mempoolSize : Nat
  speculativeRoot : Bytes
deriving DecidableEq

structure BatchResponse where
  batchNumber : UInt64
  txs : Nat
  prevRoot : Bytes
  newRoot : Bytes
  batchHash : Bytes
  l1TxHash : Bytes
  l1Block : UInt64
  gasUsed : UInt64
deriving DecidableEq

def hex0x (bytes : Bytes) : Bytes :=
  [0x30, 0x78] ++ Hex.encode bytes

def hexToBytes (text : Bytes) : Except Message Bytes :=
  (Hex.decode (stripHexPrefix text)).mapError .decodeHex

theorem hexToBytes_hex0x (bytes : Bytes) : hexToBytes (hex0x bytes) = .ok bytes := by
  show (Hex.decode (Hex.encode bytes)).mapError _ = _
  rw [Hex.decode_encode]
  rfl

def TxRequest.intoTx (request : TxRequest) : Except ApiError Tx := do
  let «from» ← (Address.fromHex request.from).mapError fun failure =>
    .badRequest (.badFrom failure)
  let «to» ← (Address.fromHex request.to).mapError fun failure =>
    .badRequest (.badTo failure)
  let signature ← (Hex.decode (stripHexPrefix request.signature)).mapError fun failure =>
    .badRequest (.badSignatureHex failure)
  if signature.length ≠ 65 then
    throw (.badRequest (.signatureLength signature.length))
  return { «from», «to», amount := request.amount, nonce := request.nonce, signature }

section

variable [Primitives]

def submitTx (request : TxRequest) : EStateM ApiError SequencerState TxResponse := do
  let tx ← ofExcept request.intoTx
  EStateM.adaptExcept (fun failure => .badRequest (.rejectedByStf failure))
    (SequencerState.admitTx tx)
  let mempoolSize := (← get).mempool.length
  let speculativeRoot := hex0x (← get).speculativeState.merkleRoot.bytes
  return { accepted := true, mempoolSize, speculativeRoot }

/-- `/tx` either admits the parsed transfer or changes nothing. -/
theorem submitTx_run (request : TxRequest) (sequencer : SequencerState) :
    (submitTx request).run sequencer =
      match request.intoTx with
      | .error failure => .error failure sequencer
      | .ok tx =>
          match sequencer.admission tx with
          | .error failure => .error (.badRequest (.rejectedByStf failure)) sequencer
          | .ok next =>
              .ok {
                accepted := true
                mempoolSize := next.mempool.length
                speculativeRoot := hex0x next.speculativeState.merkleRoot.bytes } next := by
  unfold submitTx
  rw [EStateM.run_bind]
  cases request.intoTx with
  | error failure => rfl
  | ok tx =>
      simp only [run_ofExcept_ok]
      rw [EStateM.run_bind, EStateM.run_adaptExcept, SequencerState.admitTx_realizes]
      cases sequencer.admission tx <;> rfl

theorem submitTx_ok {request : TxRequest} {sequencer next : SequencerState}
    {response : TxResponse} :
    (submitTx request).run sequencer = .ok response next ↔
      ∃ tx, request.intoTx = .ok tx ∧ sequencer.admission tx = .ok next ∧
        response = {
          accepted := true
          mempoolSize := next.mempool.length
          speculativeRoot := hex0x next.speculativeState.merkleRoot.bytes } := by
  rw [submitTx_run]
  cases request.intoTx with
  | error failure => simp
  | ok tx =>
      cases admitted : sequencer.admission tx with
      | error failure => simp [admitted]
      | ok extended =>
          simp only [EStateM.Result.ok.injEq, Except.ok.injEq, exists_eq_left', admitted]
          constructor
          · rintro ⟨rfl, rfl⟩
            exact ⟨rfl, rfl⟩
          · rintro ⟨rfl, rfl⟩
            exact ⟨rfl, rfl⟩

/-! ## The pieces of `trigger_batch` -/

omit [Primitives] in
/-- Step 1, under the lock. -/
def takeBatch : EStateM ApiError SequencerState (State × Batch) := do
  if (← get).mempool = [] then
    throw (.badRequest .mempoolIsEmpty)
  modifyGet SequencerState.drainForBatch

/-- The calldata for the L1 and the root to commit afterwards. -/
structure Submission where
  publicValues : Bytes
  proof : Bytes
  newRoot : Hash
deriving DecidableEq

omit [Primitives] in
theorem takeBatch_run (sequencer : SequencerState) :
    takeBatch.run sequencer =
      if sequencer.mempool = [] then .error (.badRequest .mempoolIsEmpty) sequencer
      else .ok (sequencer.canonicalState, ⟨sequencer.mempool⟩) sequencer.drainForBatch.2 := by
  unfold takeBatch
  by_cases empty : sequencer.mempool = []
  · simp only [EStateM.run_bind, EStateM.run_get, if_pos empty, EStateM.run_throw]
  · simp only [EStateM.run_bind, EStateM.run_get, if_neg empty]
    rfl

omit [Primitives] in
/-- The second of the three words. -/
def newRootPv (pvBytes : Bytes) (sized : pvBytes.length = 96) : Hash :=
  ⟨(pvBytes.drop 32).take 32, by rw [List.length_take, List.length_drop, sized]; rfl⟩

omit [Primitives] in
/-- Step 3. The roots come from the public values, not from the sibling fields. -/
def decodeProof (prove : ProveResponse) : Except ApiError Submission := do
  let pvBytes ← (hexToBytes prove.publicValues).mapError .internal
  let proofBytes ← (hexToBytes prove.proof).mapError .internal
  if sized : pvBytes.length = 96 then
    return { publicValues := pvBytes, proof := proofBytes, newRoot := newRootPv pvBytes sized }
  else
    throw (.internal (.publicValuesLength pvBytes.length))

/-- The exits of steps 2 and 4: take the lock, restore, answer with an error. -/
def restoreAndFail {α : Type} (batch : Batch) (message : Message) :
    EStateM ApiError SequencerState α := do
  modify (SequencerState.restoreMempool batch)
  throw (.internal message)

/-- Step 5, under the lock. -/
def commitSettled (batch : Batch) (newRoot : Hash) (outcome : SettleOutcome) :
    EStateM ApiError SequencerState Unit :=
  EStateM.adaptExcept (fun cause => .internal (.commitBatchFailed outcome.txHash cause))
    (SequencerState.commitBatch batch newRoot)

omit [Primitives] in
/-- The answer, read under a lock of its own: `batch_number` is the counter at
that moment, and the roots and the hash are the prover's strings. -/
def batchResponse (txs : Nat) (prove : ProveResponse) (outcome : SettleOutcome)
    (sequencer : SequencerState) : BatchResponse where
  batchNumber := sequencer.batchCount
  txs := txs
  prevRoot := prove.prevRoot
  newRoot := prove.newRoot
  batchHash := prove.batchHash
  l1TxHash := hex0x outcome.txHash.bytes
  l1Block := outcome.blockNumber
  gasUsed := outcome.gasUsed

/-- `trigger_batch` when no other request runs in between, given what the prover
and the L1 answer. -/
def triggerBatch (prover : State → Batch → Except String ProveResponse)
    (l1 : Submission → RoundTrip) : EStateM ApiError SequencerState BatchResponse := do
  let (prevState, batch) ← takeBatch
  let txs := batch.txs.length
  match prover prevState batch with
  | .error cause => restoreAndFail batch (.proveFailed cause)
  | .ok prove =>
      let submission ← ofExcept (decodeProof prove)
      match L1Client.submitBatch (l1 submission) with
      | .error cause => restoreAndFail batch (.submitBatchFailed cause)
      | .ok outcome =>
          commitSettled batch submission.newRoot outcome
          return batchResponse txs prove outcome (← get)

end

end ZkRollup
