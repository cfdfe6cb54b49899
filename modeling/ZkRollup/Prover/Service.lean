import ZkRollup.Contracts.Deploy
import ZkRollup.Contracts.Soundness
import ZkRollup.Sequencer.Failures
import ZkRollup.Sequencer.Startup

/-!
Contract: the prover service, from the SDK to the client that calls it
(`sp1-script/src/lib.rs`, `prover-svc/src/main.rs`, `sequencer/src/prover.rs`).

The SP1 SDK is outside. It may fail or panic at any call; what it documents is
that the public values it returns are the ones the program has committed. A
program that panics has committed none, and three words cannot be decoded from
nothing, so the service never answers for a batch that the program rejects.

States, batches and answers cross the HTTP boundary unchanged.
-/

set_option autoImplicit false

namespace ZkRollup

open Foundation

/-! ## The SDK -/

structure Sp1Sdk where
  /-- `setup`, and `bytes32` of the verifying key. -/
  setup : Fallible String Bytes
  /-- `execute(..).run()`: public values and instruction count. -/
  execute : State → Batch → Fallible String (Bytes × UInt64)
  /-- `prove(..).run()`: public values. -/
  prove : State → Batch → Fallible String Bytes
  /-- `prove(..).groth16().run()` and `bytes`: public values and proof. -/
  groth16 : State → Batch → Fallible String (Bytes × Bytes)
  /-- `PublicValuesStruct::abi_decode`. -/
  abiDecode : Bytes → Except String PublicValues

/-! ## The script -/

inductive ScriptError where
  /-- `failed to setup proving key` -/
  | setup (cause : String)
  /-- `sp1 execute failed: {cause}` -/
  | execute (cause : String)
  /-- `sp1 mock prove failed: {cause}` -/
  | mockProve (cause : String)
  /-- `sp1 groth16 prove failed: {cause}` -/
  | groth16Prove (cause : String)
  /-- `failed to decode public values: {cause}` -/
  | decodePublicValues (cause : String)
  /-- `failed to decode committed public values: {cause}` -/
  | decodeCommitted (cause : String)
deriving DecidableEq

/-- The text of an error: of a context, only the context. -/
def ScriptError.text : ScriptError → String
  | .setup _ => "failed to setup proving key"
  | .execute cause => s!"sp1 execute failed: {cause}"
  | .mockProve cause => s!"sp1 mock prove failed: {cause}"
  | .groth16Prove cause => s!"sp1 groth16 prove failed: {cause}"
  | .decodePublicValues cause => s!"failed to decode public values: {cause}"
  | .decodeCommitted cause => s!"failed to decode committed public values: {cause}"

structure ExecuteOutput where
  publicValues : PublicValues
  publicValuesBytes : Bytes
  cycles : UInt64
deriving DecidableEq

structure ProveOutput where
  proofBytes : Bytes
  publicValues : PublicValues
  publicValuesBytes : Bytes
  vkeyBytes32 : Bytes
deriving DecidableEq

namespace Script

def executeOnly (sdk : Sp1Sdk) (prevState : State) (batch : Batch) :
    Fallible ScriptError ExecuteOutput := do
  let (publicValuesBytes, cycles) ← (sdk.execute prevState batch).adapt .execute
  let publicValues ← .ofExcept
    ((sdk.abiDecode publicValuesBytes).mapError .decodePublicValues)
  return { publicValues, publicValuesBytes, cycles }

/-- The two arms of `prove`: the public values of the proof, and the bytes the
contract's verifier expects. -/
def proveIn (sdk : Sp1Sdk) (prevState : State) (batch : Batch) :
    ProofMode → Fallible ScriptError (Bytes × Bytes)
  | .mock => do
      let publicValues ← (sdk.prove prevState batch).adapt .mockProve
      return (publicValues, [])
  | .groth16 => (sdk.groth16 prevState batch).adapt .groth16Prove

def prove (sdk : Sp1Sdk) (prevState : State) (batch : Batch) (mode : ProofMode) :
    Fallible ScriptError ProveOutput := do
  let vkeyBytes32 ← sdk.setup.adapt .setup
  let (publicValuesBytes, proofBytes) ← proveIn sdk prevState batch mode
  let publicValues ← .ofExcept
    ((sdk.abiDecode publicValuesBytes).mapError .decodeCommitted)
  return { proofBytes, publicValues, publicValuesBytes, vkeyBytes32 }

end Script

/-! ## The service -/

namespace ProverSvc

inductive ApiError where
  /-- `worker thread dropped: channel closed` -/
  | internal
  | badRequest (cause : ScriptError)
deriving DecidableEq

/-- The status line and the `error` field. -/
def ApiError.status : ApiError → String
  | .internal => "500 Internal Server Error"
  | .badRequest _ => "400 Bad Request"

def ApiError.message : ApiError → String
  | .internal => "worker thread dropped: channel closed"
  | .badRequest cause => cause.text

structure AppState where
  mode : ProofMode
  vkey : Bytes
deriving DecidableEq

structure ExecuteResponse where
  publicValues : Bytes
  prevRoot : Bytes
  newRoot : Bytes
  batchHash : Bytes
  cycles : UInt64
deriving DecidableEq

def info (state : AppState) : ProverClient.InfoResponse where
  mode := match state.mode with
    | .mock => utf8 "mock"
    | .groth16 => utf8 "groth16"
  vkey := state.vkey

def pvHex (values : PublicValues) (bytes : Bytes) : ExecuteResponse where
  publicValues := hex0x bytes
  prevRoot := hex0x values.prevRoot.bytes
  newRoot := hex0x values.newRoot.bytes
  batchHash := hex0x values.batchHash.bytes
  cycles := 0

/-- A thread that panics drops its channel. -/
def runOffRuntime {α : Type} (work : Fallible ScriptError α) : Except ApiError α :=
  match work.run with
  | none => .error .internal
  | some (.error cause) => .error (.badRequest cause)
  | some (.ok value) => .ok value

def execute (sdk : Sp1Sdk) (prevState : State) (batch : Batch) :
    Except ApiError ExecuteResponse := do
  let out ← runOffRuntime (Script.executeOnly sdk prevState batch)
  let resp := pvHex out.publicValues out.publicValuesBytes
  return { resp with cycles := out.cycles }

def prove (sdk : Sp1Sdk) (state : AppState) (prevState : State) (batch : Batch) :
    Except ApiError ProveResponse := do
  let out ← runOffRuntime (Script.prove sdk prevState batch state.mode)
  return {
    proof := hex0x out.proofBytes
    publicValues := hex0x out.publicValuesBytes
    vkey := out.vkeyBytes32
    prevRoot := hex0x out.publicValues.prevRoot.bytes
    newRoot := hex0x out.publicValues.newRoot.bytes
    batchHash := hex0x out.publicValues.batchHash.bytes }

end ProverSvc

/-! ## The client -/

/-- How the request of the client can go: it does not get through to the handler and
back, be it for a body above the server's limit, a lost connection or the client's
time limit, or the handler answers. `body` renders the JSON object around a message. -/
inductive Exchange where
  | failed (cause : String)
  | answered (body : (message : String) → String)

/-- `ProverClient::prove`. -/
def ProverClient.prove (exchange : Exchange) (answer : Except ProverSvc.ApiError ProveResponse) :
    Except String ProveResponse :=
  match exchange, answer with
  | .failed cause, _ => .error cause
  | .answered body, .error failure =>
      .error s!"prover-svc /prove failed ({failure.status}): {body failure.message}"
  | .answered _, .ok response => .ok response

/-! ## What the answers say -/

/-- What has been committed when the program stops: its panics come before its
only commit. -/
def ProgramExit.publicValues : ProgramExit → Bytes
  | .panicked _ => []
  | .committed publicValues => publicValues

section

variable [Primitives]

/-- Public values are the ones the program has committed, and decoding reads
three words or fails. -/
structure Sp1Sdk.Documented (sdk : Sp1Sdk) : Prop where
  execute : ∀ prevState batch publicValues cycles,
    (sdk.execute prevState batch).run = some (.ok (publicValues, cycles)) →
      publicValues = (programMain prevState batch).publicValues
  prove : ∀ prevState batch publicValues,
    (sdk.prove prevState batch).run = some (.ok publicValues) →
      publicValues = (programMain prevState batch).publicValues
  groth16 : ∀ prevState batch publicValues proof,
    (sdk.groth16 prevState batch).run = some (.ok (publicValues, proof)) →
      publicValues = (programMain prevState batch).publicValues
  abiDecode : ∀ data, (sdk.abiDecode data).toOption = PublicValues.abiDecode data

/-- The reply carries these public values, and repeats them word by word. -/
structure ProveResponse.Repeats (response : ProveResponse) (values : PublicValues) : Prop where
  publicValues : response.publicValues = hex0x values.abiEncode
  prevRoot : response.prevRoot = hex0x values.prevRoot.bytes
  newRoot : response.newRoot = hex0x values.newRoot.bytes
  batchHash : response.batchHash = hex0x values.batchHash.bytes

variable {sdk : Sp1Sdk} {prevState : State} {batch : Batch}

omit [Primitives] in
private theorem runOffRuntime_ok {α : Type} {work : Fallible ScriptError α} {value : α} :
    ProverSvc.runOffRuntime work = .ok value ↔ work.run = some (.ok value) := by
  unfold ProverSvc.runOffRuntime
  cases work.run with
  | none => simp
  | some result => cases result <;> simp

/-- Only what the program commits can be decoded. -/
theorem Sp1Sdk.Documented.decoded (documented : sdk.Documented) {values : PublicValues}
    (decoded : sdk.abiDecode (programMain prevState batch).publicValues = .ok values) :
    ∃ next, prevState.applyAll batch.txs = .ok next ∧
      values = .ofTransition prevState batch next ∧
      (programMain prevState batch).publicValues = values.abiEncode := by
  have read := documented.abiDecode (programMain prevState batch).publicValues
  rw [decoded] at read
  cases exit : programMain prevState batch with
  | panicked failure =>
      rw [exit] at read
      cases read
  | committed publicValues =>
      obtain ⟨next, replayed, rfl⟩ := programMain_eq_committed exit
      rw [exit, ProgramExit.publicValues, PublicValues.abiDecode_abiEncode] at read
      cases read
      exact ⟨next, replayed, rfl, rfl⟩

theorem Script.executeOnly_ok (documented : sdk.Documented) {out : ExecuteOutput}
    (returned : (Script.executeOnly sdk prevState batch).run = some (.ok out)) :
    ∃ next, prevState.applyAll batch.txs = .ok next ∧
      out.publicValues = .ofTransition prevState batch next ∧
      out.publicValuesBytes = out.publicValues.abiEncode := by
  unfold Script.executeOnly at returned
  obtain ⟨⟨bytes, cycles⟩, executed, rest⟩ := Fallible.run_bind_ok.mp returned
  obtain ⟨values, decoded, answer⟩ := Fallible.run_bind_ok.mp rest
  cases answer
  obtain rfl := documented.execute _ _ _ _ (Fallible.run_adapt_ok.mp executed)
  obtain ⟨next, replayed, same, encoded⟩ :=
    documented.decoded (mapError_eq_ok.mp (Fallible.run_ofExcept_ok.mp decoded))
  exact ⟨next, replayed, same, encoded⟩

theorem Script.prove_ok (documented : sdk.Documented) {mode : ProofMode} {out : ProveOutput}
    (returned : (Script.prove sdk prevState batch mode).run = some (.ok out)) :
    ∃ next, prevState.applyAll batch.txs = .ok next ∧
      out.publicValues = .ofTransition prevState batch next ∧
      out.publicValuesBytes = out.publicValues.abiEncode ∧
      (mode = .mock → out.proofBytes = []) ∧ sdk.setup.run = some (.ok out.vkeyBytes32) := by
  unfold Script.prove at returned
  obtain ⟨key, setup, rest⟩ := Fallible.run_bind_ok.mp returned
  obtain ⟨⟨bytes, proof⟩, proved, rest⟩ := Fallible.run_bind_ok.mp rest
  obtain ⟨values, decoded, answer⟩ := Fallible.run_bind_ok.mp rest
  cases answer
  have committed : bytes = (programMain prevState batch).publicValues ∧
      (mode = .mock → proof = []) := by
    cases mode with
    | mock =>
        obtain ⟨publicValues, called, pair⟩ := Fallible.run_bind_ok.mp proved
        cases pair
        exact ⟨documented.prove _ _ _ (Fallible.run_adapt_ok.mp called), fun _ => rfl⟩
    | groth16 =>
        exact ⟨documented.groth16 _ _ _ _ (Fallible.run_adapt_ok.mp proved), nofun⟩
  obtain ⟨rfl, empty⟩ := committed
  obtain ⟨next, replayed, same, encoded⟩ :=
    documented.decoded (mapError_eq_ok.mp (Fallible.run_ofExcept_ok.mp decoded))
  exact ⟨next, replayed, same, encoded, empty, Fallible.run_adapt_ok.mp setup⟩

theorem ProverSvc.prove_ok (documented : sdk.Documented) {state : ProverSvc.AppState}
    {response : ProveResponse} (answered : ProverSvc.prove sdk state prevState batch = .ok response) :
    ∃ next, prevState.applyAll batch.txs = .ok next ∧
      response.Repeats (.ofTransition prevState batch next) ∧
      (∃ proof, response.proof = hex0x proof ∧ (state.mode = .mock → proof = [])) ∧
      sdk.setup.run = some (.ok response.vkey) := by
  unfold ProverSvc.prove at answered
  obtain ⟨out, worked, answer⟩ := bind_eq_ok.mp answered
  cases answer
  obtain ⟨next, replayed, same, encoded, empty, key⟩ :=
    Script.prove_ok documented (runOffRuntime_ok.mp worked)
  rw [same] at encoded
  exact ⟨next, replayed, {
    publicValues := by rw [encoded]
    prevRoot := by rw [same]
    newRoot := by rw [same]
    batchHash := by rw [same] }, ⟨out.proofBytes, rfl, empty⟩, key⟩

omit [Primitives] in
/-- Such a reply is decoded to the calldata that the words stand for. -/
theorem ProveResponse.Repeats.decodeProof {response : ProveResponse} {values : PublicValues}
    (repeats : response.Repeats values) {proof : Bytes} (proofText : response.proof = hex0x proof) :
    ZkRollup.decodeProof response =
      .ok { publicValues := values.abiEncode, proof, newRoot := values.newRoot } := by
  have word : newRootPv values.abiEncode values.abiEncode_length = values.newRoot := by
    have read := PublicValues.abiDecode_abiEncode values
    unfold PublicValues.abiDecode at read
    rw [dif_pos (by simp)] at read
    exact congrArg PublicValues.newRoot (Option.some.inj read)
  refine decodeProof_ok.mpr ⟨values.abiEncode, proof, values.abiEncode_length, ?_, ?_, ?_⟩
  · rw [repeats.publicValues, hexToBytes_hex0x]
  · rw [proofText, hexToBytes_hex0x]
  · rw [word]

end

/-- Whatever the SDK does, an answer of `/prove` repeats the words of the public
values that the program commits on the pair it was sent, it decodes to the
calldata for them, and `/execute` has no other answer. Neither answers for a
batch that the transition function rejects. -/
theorem prover_answers_for_the_program [Primitives] (sdk : Sp1Sdk) (documented : sdk.Documented)
    (state : ProverSvc.AppState) (prevState : State) (batch : Batch) :
    (∀ response, ProverSvc.prove sdk state prevState batch = .ok response →
      ∃ next, prevState.applyAll batch.txs = .ok next ∧
        response.Repeats (.ofTransition prevState batch next) ∧
        ∃ proof, (state.mode = .mock → proof = []) ∧ decodeProof response = .ok {
          publicValues := (PublicValues.ofTransition prevState batch next).abiEncode
          proof
          newRoot := next.merkleRoot }) ∧
    (∀ response executed, ProverSvc.prove sdk state prevState batch = .ok response →
      ProverSvc.execute sdk prevState batch = .ok executed →
      executed.publicValues = response.publicValues ∧ executed.prevRoot = response.prevRoot ∧
        executed.newRoot = response.newRoot ∧ executed.batchHash = response.batchHash) ∧
    ∀ failure, prevState.applyAll batch.txs = .error failure →
      (∃ refused, ProverSvc.prove sdk state prevState batch = .error refused) ∧
        ∃ refused, ProverSvc.execute sdk prevState batch = .error refused := by
  have executes : ∀ executed, ProverSvc.execute sdk prevState batch = .ok executed →
      ∃ next, prevState.applyAll batch.txs = .ok next ∧
        executed = { ProverSvc.pvHex (.ofTransition prevState batch next)
          (PublicValues.ofTransition prevState batch next).abiEncode with
            cycles := executed.cycles } := by
    intro executed answered
    unfold ProverSvc.execute at answered
    obtain ⟨out, worked, answer⟩ := bind_eq_ok.mp answered
    cases answer
    obtain ⟨next, replayed, same, encoded⟩ :=
      Script.executeOnly_ok documented (runOffRuntime_ok.mp worked)
    rw [same] at encoded
    exact ⟨next, replayed, by rw [same, encoded]⟩
  refine ⟨?_, ?_, ?_⟩
  · intro response answered
    obtain ⟨next, replayed, repeats, ⟨proof, proofText, empty⟩, -⟩ :=
      ProverSvc.prove_ok documented answered
    exact ⟨next, replayed, repeats, proof, empty, repeats.decodeProof proofText⟩
  · intro response executed proved answered
    obtain ⟨next, replayed, repeats, -, -⟩ := ProverSvc.prove_ok documented proved
    obtain ⟨other, otherReplayed, same⟩ := executes executed answered
    rw [replayed] at otherReplayed
    cases otherReplayed
    rw [same]
    exact ⟨repeats.publicValues.symm, repeats.prevRoot.symm, repeats.newRoot.symm,
      repeats.batchHash.symm⟩
  · intro failure rejected
    constructor
    · cases answer : ProverSvc.prove sdk state prevState batch with
      | error refused => exact ⟨refused, rfl⟩
      | ok response =>
          obtain ⟨next, replayed, -⟩ := ProverSvc.prove_ok documented answer
          rw [rejected] at replayed
          cases replayed
    · cases answer : ProverSvc.execute sdk prevState batch with
      | error refused => exact ⟨refused, rfl⟩
      | ok executed =>
          obtain ⟨next, replayed, -⟩ := executes executed answer
          rw [rejected] at replayed
          cases replayed

namespace HappyPath

/-- The SDK with its mock backend: a panic of the program is an error. -/
def sdk [Primitives] : Sp1Sdk where
  setup := pure (hex0x (FixedBytes.ofNat 32 1).bytes)
  execute prevState batch :=
    match programMain prevState batch with
    | .committed publicValues => pure (publicValues, 300000)
    | .panicked _ => throw "execution failed"
  prove prevState batch :=
    match programMain prevState batch with
    | .committed publicValues => pure publicValues
    | .panicked _ => throw "execution failed"
  groth16 _ _ := throw "no groth16 proof from the mock backend"
  abiDecode data := okOr (PublicValues.abiDecode data) "buffer overrun while deserializing"

theorem sdk_documented [Primitives] : sdk.Documented where
  execute := by
    intro prevState batch publicValues cycles returned
    cases exit : programMain prevState batch <;> simp [sdk, exit] at returned
    rw [returned.1, ProgramExit.publicValues]
  prove := by
    intro prevState batch publicValues returned
    cases exit : programMain prevState batch <;> simp [sdk, exit] at returned
    rw [returned, ProgramExit.publicValues]
  groth16 := nofun
  abiDecode := by
    intro data
    cases decoded : PublicValues.abiDecode data <;> simp [sdk, okOr, decoded, Except.toOption]

def mockService : ProverSvc.AppState where
  mode := .mock
  vkey := hex0x (FixedBytes.ofNat 32 1).bytes

theorem prove_reply :
    ProverSvc.prove sdk mockService genesis ⟨[transfer]⟩ = .ok reply := by
  decide +kernel

end HappyPath

open HappyPath in
theorem prover_answers_for_the_program_happyPath :
    ∃ next, genesis.applyAll [transfer] = .ok next ∧
      reply.Repeats (.ofTransition genesis ⟨[transfer]⟩ next) := by
  obtain ⟨next, replayed, repeats, -⟩ := (prover_answers_for_the_program sdk sdk_documented
    mockService genesis ⟨[transfer]⟩).1 reply prove_reply
  exact ⟨next, replayed, repeats⟩

end ZkRollup
