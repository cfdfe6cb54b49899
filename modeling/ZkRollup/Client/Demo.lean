import ZkRollup.Client.Orchestrator
import ZkRollup.System.Served

/-!
Contract: the first batch of a rollup that has come up (`index.ts`, step 9; the
`demo` program of the sequencer drives the same calls).

Transfers go to `/tx` one after the other, the first rejection ends it, and then
`/batch` is called once. Nobody else is there. With an SDK that proves what the
program commits, and a node that mines every call, little is left to chance: the
exchange with the prover service, which refuses bodies above its limit, the
patience of the driver, the transfers themselves and the agreement on the proof
mode decide.

Does not own the exchanges about `/tx`, which are short: each of them goes through.
-/

set_option autoImplicit false

namespace ZkRollup

open Foundation

/-! ## Working parts -/

section

variable [Primitives]

/-- In this mode the SDK proves whatever the program commits, and the contract
takes its Groth16 proofs. -/
structure Sp1Sdk.Works (sdk : Sp1Sdk) (sp1 : Sp1) (programVKey : Hash) (mode : ProofMode) :
    Prop where
  setup : ∃ vkey, sdk.setup.run = some (.ok vkey)
  mock : mode = .mock → ∀ prevState batch publicValues,
    programMain prevState batch = .committed publicValues →
      (sdk.prove prevState batch).run = some (.ok publicValues)
  groth16 : mode = .groth16 → ∀ prevState batch publicValues,
    programMain prevState batch = .committed publicValues →
      ∃ proof, (sdk.groth16 prevState batch).run = some (.ok (publicValues, proof)) ∧
        sp1.groth16Verify programVKey publicValues proof = true

variable {sdk : Sp1Sdk} {sp1 : Sp1} {programVKey : Hash} {mode : ProofMode}

/-- Proof bytes that stand for one mode: none at all, or a Groth16 proof. -/
def ProofMode.Proves (mode : ProofMode) (sp1 : Sp1) (programVKey : Hash)
    (publicValues proof : Bytes) : Prop :=
  match mode with
  | .mock => proof = []
  | .groth16 => sp1.groth16Verify programVKey publicValues proof = true

theorem Sp1Sdk.Works.proveIn (works : sdk.Works sp1 programVKey mode) {prevState : State}
    {batch : Batch} {publicValues : Bytes}
    (committed : programMain prevState batch = .committed publicValues) :
    ∃ proof, (Script.proveIn sdk prevState batch mode).run = some (.ok (publicValues, proof)) ∧
      mode.Proves sp1 programVKey publicValues proof := by
  cases mode with
  | mock =>
      have proved := works.mock rfl _ _ _ committed
      exact ⟨[], Fallible.run_bind_ok.mpr ⟨_, Fallible.run_adapt_ok.mpr proved, rfl⟩, rfl⟩
  | groth16 =>
      obtain ⟨proof, proved, verified⟩ := works.groth16 rfl _ _ _ committed
      exact ⟨proof, Fallible.run_adapt_ok.mpr proved, verified⟩

omit [Primitives] in
/-- The deployed verifier takes the bytes exactly if it is the one of their mode. -/
theorem ProofMode.Proves.accepted_iff {publicValues proof : Bytes} {verifier : Verifier}
    (proves : mode.Proves sp1 programVKey publicValues proof) (documented : sp1.Documented)
    (notPreset : verifier ≠ .preset) :
    verifier.verifyProof sp1 programVKey publicValues proof = true ↔
      (verifier = .sp1MockVerifier ↔ mode = .mock) := by
  cases mode with
  | mock =>
      obtain rfl : proof = [] := proves
      cases verifier with
      | preset => exact absurd rfl notPreset
      | sp1MockVerifier => simp [Verifier.verifyProof, documented.mock]
      | sp1VerifierGroth16 => simp [Verifier.verifyProof, documented.groth16]
  | groth16 =>
      have verified : sp1.groth16Verify programVKey publicValues proof = true := proves
      have nonempty : proof ≠ [] := by
        rintro rfl
        rw [documented.groth16] at verified
        cases verified
      cases verifier with
      | preset => exact absurd rfl notPreset
      | sp1MockVerifier => simp [Verifier.verifyProof, documented.mock, nonempty]
      | sp1VerifierGroth16 => simp [Verifier.verifyProof, verified]

/-- The answer of the service about these public values. -/
def PublicValues.reply (values : PublicValues) (proof vkey : Bytes) : ProveResponse where
  proof := hex0x proof
  publicValues := hex0x values.abiEncode
  vkey := vkey
  prevRoot := hex0x values.prevRoot.bytes
  newRoot := hex0x values.newRoot.bytes
  batchHash := hex0x values.batchHash.bytes

/-- A batch that replays is proved. -/
theorem Sp1Sdk.Works.prove (works : sdk.Works sp1 programVKey mode) (documented : sdk.Documented)
    {prevState next : State} {batch : Batch} (replayed : prevState.applyAll batch.txs = .ok next)
    (vkey : Bytes) :
    ∃ response submission, ProverSvc.prove sdk { mode, vkey } prevState batch = .ok response ∧
      decodeProof response = .ok submission ∧
      submission.publicValues = (PublicValues.ofTransition prevState batch next).abiEncode ∧
      mode.Proves sp1 programVKey submission.publicValues submission.proof := by
  have committed := programMain_committed (applyBatch_of_applyAll replayed)
  obtain ⟨key, setup⟩ := works.setup
  obtain ⟨proof, proved, proves⟩ := works.proveIn committed
  have decoded : sdk.abiDecode (PublicValues.ofTransition prevState batch next).abiEncode =
      .ok (.ofTransition prevState batch next) := by
    have read := documented.abiDecode (PublicValues.ofTransition prevState batch next).abiEncode
    rw [PublicValues.abiDecode_abiEncode] at read
    cases answer : sdk.abiDecode (PublicValues.ofTransition prevState batch next).abiEncode with
    | error failure =>
        rw [answer] at read
        cases read
    | ok values =>
        rw [answer] at read
        rw [Option.some.inj read]
  have returned : (Script.prove sdk prevState batch mode).run = some (.ok {
      proofBytes := proof
      publicValues := .ofTransition prevState batch next
      publicValuesBytes := (PublicValues.ofTransition prevState batch next).abiEncode
      vkeyBytes32 := key }) := by
    unfold Script.prove
    exact Fallible.run_bind_ok.mpr ⟨key, Fallible.run_adapt_ok.mpr setup,
      Fallible.run_bind_ok.mpr ⟨_, proved, Fallible.run_bind_ok.mpr
        ⟨_, Fallible.run_ofExcept_ok.mpr (mapError_eq_ok.mpr decoded), rfl⟩⟩⟩
  have answered : ProverSvc.prove sdk { mode, vkey } prevState batch =
      .ok ((PublicValues.ofTransition prevState batch next).reply proof key) := by
    simp only [ProverSvc.prove, ProverSvc.runOffRuntime, returned]
    rfl
  have repeats : ((PublicValues.ofTransition prevState batch next).reply proof key).Repeats
      (.ofTransition prevState batch next) :=
    { publicValues := rfl, prevRoot := rfl, newRoot := rfl, batchHash := rfl }
  exact ⟨_, _, answered, repeats.decodeProof rfl, rfl, proves⟩

/-! ## The session -/

/-- The requests are read as these transfers. -/
def Reads (requests : List TxRequest) (txs : List Tx) : Prop :=
  List.Forall₂ (fun request tx => request.intoTx = .ok tx) requests txs

omit [Primitives] in
theorem Reads.unique {requests : List TxRequest} {left right : List Tx}
    (first : Reads requests left) (second : Reads requests right) : left = right :=
  List.right_unique_forall₂' (fun _ _ _ here there => Except.ok.inj (here.symm.trans there))
    first second

/-- The call of a batch that settles, and where it takes the contract. -/
theorem Settles.call {prover : State → Batch → Except String ProveResponse}
    {l1 : Submission → RoundTrip} {rollup : Rollup} {verifyProof : VerifyProof}
    {sequencer : SequencerState} (settles : Settles prover l1 rollup verifyProof sequencer)
    (consistent : sequencer.Consistent)
    (served : ServiceReply sequencer.canonicalState ⟨sequencer.mempool⟩
      (prover sequencer.canonicalState ⟨sequencer.mempool⟩)) :
    ∃ (submission : Submission) (after : Rollup) (event : BatchSettled),
      rollup.submitBatch verifyProof submission.publicValues submission.proof = .ok (after, event) ∧
      after.stateRoot = sequencer.speculativeState.merkleRoot ∧
      event.batchNumber = rollup.batchCount + 1 := by
  obtain ⟨prove, submission, receipt, answered, decoded, -, verified, level, nonzero⟩ := settles
  rw [answered] at served
  obtain ⟨next, other, otherDecoded, proved⟩ := served.decodes
  obtain rfl := Except.ok.inj (decoded.symm.trans otherDecoded)
  obtain rfl := Except.ok.inj (consistent.pending.symm.trans proved.replayed)
  have encoded : PublicValues.abiDecode submission.publicValues = some
      (.ofTransition sequencer.canonicalState ⟨sequencer.mempool⟩ sequencer.speculativeState) := by
    rw [proved.publicValues, PublicValues.abiDecode_abiEncode]
  have before : sequencer.canonicalState.merkleRoot = rollup.stateRoot := by
    rw [level, consistent.root]
  exact ⟨submission, _, _, Rollup.submitBatch_ok.mpr
    ⟨verified, _, encoded, before, nonzero, rfl, rfl⟩, rfl, rfl⟩

section

variable {prover : State → Batch → Except String ProveResponse} {l1 : Submission → RoundTrip}
  {rollup : Rollup} {verifyProof : VerifyProof} {sequencer : SequencerState}

end

namespace Orchestrator

variable {Wallet : Type}

/-- What the sequencer's client is answered. The exchange fails for a body above the
service's limit, or when the two hours of the client are over. -/
def Deployment.prove (deployment : Deployment Wallet) (sdk : Sp1Sdk)
    (exchange : State → Batch → Exchange) (prevState : State) (batch : Batch) :
    Except String ProveResponse :=
  ProverClient.prove (exchange prevState batch)
    (ProverSvc.prove sdk deployment.prover prevState batch)

/-- The call on the contract as it was deployed. -/
def Deployment.submit (deployment : Deployment Wallet) (sp1 : Sp1) (submission : Submission) :
    Except RollupRevert (Rollup × BatchSettled) :=
  deployment.rollup.submitBatch (deployment.verifier.verifyProof sp1) submission.publicValues
    submission.proof

end Orchestrator

end

namespace DemoTransfers

open HappyPath (alice bob world localNet world_ready world_writes sdk mockService receipt)

def localDeployment : Orchestrator.Deployment Unit where
  net := localNet
  prover := mockService
  rollup := {
    programVKey := .ofNat 32 1
    verifier := .ofNat 20 1
    stateRoot := genesis.merkleRoot
    batchCount := 0 }
  verifier := .sp1MockVerifier
  ctx := {
    state := .fromGenesis genesis
    prover := ⟨utf8 "http://localhost:7002"⟩
    l1 := {
      rollupAddress := .ofNat 20 0x5fbdb2315678afecb367f032d93f642f64180aa3
      rpcUrl := utf8 "http://localhost:8545"
      wallet := () }
    programVKey := hex0x (FixedBytes.ofNat 32 1).bytes
    proofMode := utf8 "mock" }

/-- The node mines at once. -/
def mined (submission : Submission) : RoundTrip :=
  .mined { receipt with status := (localDeployment.submit Plonk.sp1 submission).toBool }

def request (tx : Tx) : TxRequest where
  «from» := hex0x tx.from.bytes
  «to» := hex0x tx.to.bytes
  amount := tx.amount
  nonce := tx.nonce
  signature := hex0x tx.signature

end DemoTransfers

end ZkRollup
