import ZkRollup.Foundation.HexCase
import ZkRollup.Sequencer.Failures
import ZkRollup.Sequencer.Startup

/-!
Contract: the reading endpoints of the sequencer (`sequencer/src/routes.rs`), and
addresses as texts (`shared-types/src/lib.rs`).

Each of them reads under one lock, so an answer is a function of the state at one
moment. Two answers of one client can be of different moments.
-/

set_option autoImplicit false

namespace ZkRollup

open Foundation

/-! ## Addresses -/

def Address.toHex (addr : Address) : Bytes :=
  [0x30, 0x78] ++ Hex.encode addr.bytes

/-- A text is read as an address exactly if, but for the prefix and the case of
its letters, it is the one the address is written as. -/
theorem Address.fromHex_eq_ok {text : Bytes} {addr : Address} :
    Address.fromHex text = .ok addr ↔
      (stripHexPrefix text).map Hex.lower = Hex.encode addr.bytes := by
  unfold Address.fromHex
  cases decoded : Hex.decode (stripHexPrefix text) with
  | error failure =>
      simp only [reduceCtorEq, false_iff]
      intro same
      rw [Hex.decode_eq_ok.mpr same] at decoded
      cases decoded
  | ok bytes =>
      have read := Hex.decode_eq_ok.mp decoded
      constructor
      · intro parsed
        by_cases sized : bytes.length = 20
        · simp only [sized, dite_true, Except.ok.injEq] at parsed
          rw [← parsed]
          exact read
        · simp only [sized, dite_false] at parsed
          cases parsed
      · intro same
        rw [Hex.decode_eq_ok.mpr same] at decoded
        cases decoded
        simp only [addr.length_eq, dite_true]

@[simp] theorem Address.fromHex_toHex (addr : Address) :
    Address.fromHex (Address.toHex addr) = .ok addr :=
  Address.fromHex_eq_ok.mpr (Hex.map_lower_encode addr.bytes)

theorem Address.toHex_injective : Function.Injective Address.toHex := by
  intro left right same
  have parsed := Address.fromHex_toHex left
  rw [same, Address.fromHex_toHex] at parsed
  exact (Except.ok.inj parsed).symm

/-! ## Answers -/

/-- Status code of a response; every error body is `error: message`. -/
def ApiError.intoResponse : ApiError → Nat × Message
  | .badRequest message => (400, message)
  | .internal message => (500, message)

theorem TxRequest.intoTx_error {request : TxRequest} {failure : ApiError}
    (rejected : request.intoTx = .error failure) : failure.intoResponse.1 = 400 := by
  unfold intoTx at rejected
  simp only [bind_eq_error, mapError_eq_error] at rejected
  rcases rejected with ⟨cause, -, rfl⟩ | ⟨sender, -, ⟨cause, -, rfl⟩ | ⟨recipient, -,
    ⟨cause, -, rfl⟩ | ⟨signature, -, rejected⟩⟩⟩
  · rfl
  · rfl
  · rfl
  · split_ifs at rejected
    · cases rejected
      rfl
    · cases rejected

theorem decodeProof_error {prove : ProveResponse} {failure : ApiError}
    (rejected : decodeProof prove = .error failure) : failure.intoResponse.1 = 500 := by
  unfold decodeProof at rejected
  simp only [bind_eq_error, mapError_eq_error] at rejected
  rcases rejected with ⟨cause, -, rfl⟩ | ⟨publicValues, -, ⟨cause, -, rfl⟩ | ⟨proof, -, rejected⟩⟩
  · rfl
  · rfl
  · split at rejected
    · cases rejected
    · cases rejected
      rfl

section

variable [Primitives] {sequencer left : SequencerState} {failure : ApiError}

/-- A rejected transfer is the fault of the client, and has changed nothing. -/
theorem submitTx_rejects {request : TxRequest}
    (rejected : (submitTx request).run sequencer = .error failure left) :
    failure.intoResponse.1 = 400 ∧ left = sequencer := by
  rw [submitTx_run] at rejected
  cases parsed : request.intoTx with
  | error cause =>
      rw [parsed] at rejected
      cases rejected
      exact ⟨TxRequest.intoTx_error parsed, rfl⟩
  | ok tx =>
      simp only [parsed] at rejected
      cases admitted : sequencer.admission tx with
      | error cause =>
          rw [admitted] at rejected
          cases rejected
          exact ⟨rfl, rfl⟩
      | ok next =>
          rw [admitted] at rejected
          cases rejected

/-- A failing `/batch` blames the client exactly for an empty mempool, and has
changed nothing then. -/
theorem triggerBatch_blames_iff {prover : State → Batch → Except String ProveResponse}
    {l1 : Submission → RoundTrip}
    (failed : (triggerBatch prover l1).run sequencer = .error failure left) :
    (failure.intoResponse.1 = 400 ↔ sequencer.mempool = []) ∧
      (failure.intoResponse.1 = 400 → left = sequencer) := by
  by_cases empty : sequencer.mempool = []
  · rw [triggerBatch_run_empty prover l1 empty] at failed
    cases failed
    exact ⟨⟨fun _ => empty, fun _ => rfl⟩, fun _ => rfl⟩
  · have internal : failure.intoResponse.1 = 500 := by
      rw [triggerBatch_run prover l1 empty] at failed
      split at failed
      next cause answered =>
        cases failed
        rfl
      next prove answered =>
        split at failed
        next cause malformed =>
          cases failed
          exact decodeProof_error malformed
        next submission decoded =>
          split at failed
          next cause submitted =>
            cases failed
            rfl
          next outcome submitted =>
            split at failed
            next cause after commits =>
              cases failed
              unfold commitSettled at commits
              rw [EStateM.run_adaptExcept] at commits
              cases ran : (SequencerState.commitBatch ⟨sequencer.mempool⟩
                submission.newRoot).run sequencer.drainForBatch.2 with
              | ok value behind =>
                  rw [ran] at commits
                  cases commits
              | error reason behind =>
                  rw [ran] at commits
                  cases commits
                  rfl
            next => cases failed
    have blameless : failure.intoResponse.1 ≠ 400 := by
      rw [internal]
      decide
    exact ⟨⟨fun blamed => absurd blamed blameless, fun none => absurd none empty⟩,
      fun blamed => absurd blamed blameless⟩

end

structure InfoResponse where
  canonicalRoot : Bytes
  batchCount : UInt64
  mempoolSize : Nat
  programVKey : Bytes
  proofMode : Bytes
  rollupAddress : Bytes
deriving DecidableEq

structure RootResponse where
  root : Bytes
deriving DecidableEq

structure AccountResponse where
  address : Bytes
  balance : UInt64
  nonce : UInt64
deriving DecidableEq

structure MempoolEntry where
  «from» : Bytes
  «to» : Bytes
  amount : UInt64
  nonce : UInt64
deriving DecidableEq

namespace AppCtx

variable {Wallet : Type}

def info (ctx : AppCtx Wallet) : InfoResponse where
  canonicalRoot := hex0x ctx.state.canonicalRoot.bytes
  batchCount := ctx.state.batchCount
  mempoolSize := ctx.state.mempool.length
  programVKey := ctx.programVKey
  proofMode := ctx.proofMode
  rollupAddress := hex0x ctx.l1.rollupAddress.bytes

def root (ctx : AppCtx Wallet) : RootResponse where
  root := hex0x ctx.state.canonicalRoot.bytes

/-- The error is a bad request, `bad address: {failure:?}`. -/
def account (ctx : AppCtx Wallet) (addrHex : Bytes) :
    Except Hex.FromHexError AccountResponse := do
  let addr ← Address.fromHex addrHex
  let acc := ctx.state.canonicalState.get addr
  return { address := Address.toHex addr, balance := acc.balance, nonce := acc.nonce }

def mempool (ctx : AppCtx Wallet) : List MempoolEntry :=
  ctx.state.mempool.map fun tx => {
    «from» := Address.toHex tx.from
    «to» := Address.toHex tx.to
    amount := tx.amount
    nonce := tx.nonce }

/-- The context while the sequencer is in this state. -/
def during (ctx : AppCtx Wallet) (state : SequencerState) : AppCtx Wallet :=
  { ctx with state }

theorem account_eq_ok {ctx : AppCtx Wallet} {addrHex : Bytes} {response : AccountResponse} :
    ctx.account addrHex = .ok response ↔ ∃ addr, Address.fromHex addrHex = .ok addr ∧
      response = {
        address := Address.toHex addr
        balance := (ctx.state.canonicalState.get addr).balance
        nonce := (ctx.state.canonicalState.get addr).nonce } := by
  unfold account
  rw [bind_eq_ok]
  simp only [pure, Except.pure, Except.ok.injEq, eq_comm]

/-- Entries of a sender in the answer are its transfers in the mempool. -/
theorem mempool_filter (ctx : AppCtx Wallet) (addr : Address) :
    (ctx.mempool.filter fun entry => entry.from = Address.toHex addr).length =
      (sentBy addr ctx.state.mempool).length := by
  unfold mempool sentBy
  rw [List.filter_map, List.length_map]
  congr 1
  refine List.filter_congr fun tx _ => ?_
  simp [Function.comp, Address.toHex_injective.eq_iff]

end AppCtx

end ZkRollup
