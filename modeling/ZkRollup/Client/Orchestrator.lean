import ZkRollup.Foundation.HexCase
import ZkRollup.Prover.Service
import ZkRollup.Sequencer.ComputeRoot
import ZkRollup.Sequencer.Startup

/-!
Contract: the orchestrator brings the parts of a rollup up, in the order in which
each needs what the one before has answered (`index.ts`, steps 3 to 8, and the
start of `prover-svc/src/main.rs`).

The genesis file is written first, over whatever was there, and read by two
programs. The root of what they read goes from one tool to a text, through an
environment, through a constructor and back through a call; the key of the program
goes the same way. Every child inherits the variables of the orchestrator, with
some set anew.

Does not own the processes: a child is up if its `main` has reached its listener.
The file system, Forge's reading of a word, the parsers and accounts of the
libraries and the address of the new contract are a parameter.
-/

set_option autoImplicit false

namespace ZkRollup

open Foundation

/-! ## The prover service -/

/-- `vkey_bytes32`, over the `setup` of the mock prover. -/
def Script.vkeyBytes32 (setup : Fallible String Bytes) : Fallible String Bytes :=
  setup.adapt fun cause => s!"failed to setup proving key: {cause}"

/-- `main` up to the listener. -/
def ProverSvc.main (environment : String → Option Bytes) (setup : Fallible String Bytes) :
    Fallible String ProverSvc.AppState := do
  let mode := ProofMode.fromEnv (environment "PROOF_MODE")
  let programVKey ← Script.vkeyBytes32 setup
  return { mode, vkey := programVKey }

namespace Orchestrator

/-! ## The configuration -/

structure NetworkConfig where
  label : Bytes
  rpcUrl : Bytes
  deployerPrivateKey : Bytes
  sp1Verifier : Option Bytes
  spawnAnvil : Bool
deriving DecidableEq

inductive ComputeRootFailure where
  /-- `read {path}` -/
  | readFile (cause : String)
  | parseJson (cause : String)
  | badAddress (cause : ComputeRoot.BadAddress)
deriving DecidableEq

inductive ForgeFailure where
  /-- `vm.envBytes32` reverted. -/
  | envBytes32 (key : String) (cause : String)
  | reverted (cause : RollupRevert)
deriving DecidableEq

inductive Failure where
  /-- `{key} is not set; required for NETWORK=sepolia` -/
  | notSet (key : String)
  /-- What `Bun.write` throws. -/
  | writeFailed (cause : String)
  /-- `compute-root failed: {stderr}` -/
  | computeRootFailed (stderr : ComputeRootFailure)
  /-- `timed out waiting for {label} at {url}` -/
  | timedOut (label url : String)
  /-- `forge script failed` with its output -/
  | forgeFailed (output : ForgeFailure)
deriving DecidableEq

def isSepolia (environment : String → Option Bytes) : Bool :=
  ((environment "NETWORK").getD (utf8 "anvil")).map toAsciiLowercase = utf8 "sepolia"

def proofMode (environment : String → Option Bytes) : Bytes :=
  (environment "PROOF_MODE").getD
    (if isSepolia environment then utf8 "groth16" else utf8 "mock")

/-- An empty value counts as not set. -/
def requireEnv (environment : String → Option Bytes) (key : String) : Except Failure Bytes :=
  match environment key with
  | none | some [] => .error (.notSet key)
  | some value => .ok value

def buildNetworkConfig (environment : String → Option Bytes) : Except Failure NetworkConfig :=
  if isSepolia environment then do
    let rpcUrl ← requireEnv environment "SEPOLIA_RPC_URL"
    let key ← requireEnv environment "DEPLOYER_PRIVATE_KEY"
    return {
      label := utf8 "sepolia"
      rpcUrl
      deployerPrivateKey := if utf8 "0x" <+: key then key else utf8 "0x" ++ key
      sp1Verifier := environment "SP1_VERIFIER"
      spawnAnvil := false }
  else
    .ok {
      label := utf8 "anvil"
      rpcUrl := utf8 "http://localhost:8545"
      deployerPrivateKey :=
        utf8 "0xac0974bec39a17e36ba4a6b4d238ff944bacb478cbed5efcae784d7bf4f2ff80"
      sp1Verifier := none
      spawnAnvil := true }

/-- The backend. Only the mock may prove with the mock backend. -/
def proverBackend (proofMode : Bytes) (sp1Prover : Option Bytes) : Bytes :=
  if proofMode ≠ utf8 "mock" then
    if sp1Prover = some (utf8 "mock") then utf8 "cpu" else sp1Prover.getD (utf8 "cpu")
  else
    sp1Prover.getD (utf8 "mock")

/-- The variables of a child: those of the parent, with some set anew. -/
def childEnvironment (environment : String → Option Bytes) (vars : List (String × Bytes))
    (key : String) : Option Bytes :=
  vars.lookup key <|> environment key

/-! ## The parts -/

structure World (Wallet Url : Type) where
  environment : String → Option Bytes
  /-- `join(REPO, "genesis.json")` -/
  genesisPath : Bytes
  /-- `privateKeyToAccount(key).address` -/
  privateKeyToAddress : (key : Bytes) → Bytes
  /-- `Bun.write` -/
  write : (path text : Bytes) → Except String Unit
  /-- The files that were there before. -/
  readFile : (path : Bytes) → Except String Bytes
  parseGenesis : (json : Bytes) → Except String Genesis
  /-- `setup` of the SDK's mock prover. -/
  setup : Fallible String Bytes
  forge : Forge
  envBytes32 : (text : Bytes) → Except String Hash
  /-- The address of the new contract as Forge prints it. -/
  rollupAddress : Bytes
  parseSigner : (text : Bytes) → Except String Wallet
  parseAddress : (text : Bytes) → Except String (FixedBytes 20)
  parseUrl : (text : Bytes) → Except String Url

/-! ## The genesis file -/

def aliceKey : Bytes :=
  utf8 "0x0101010101010101010101010101010101010101010101010101010101010101"

def bobKey : Bytes :=
  utf8 "0x0202020202020202020202020202020202020202020202020202020202020202"

def stringifyAccount (account : GenesisAccount) : Bytes :=
  utf8 "    \x7b\n      \"address\": \"" ++ account.address ++
    utf8 "\",\n      \"balance\": " ++ utf8 (toString account.balance) ++
    utf8 ",\n      \"nonce\": " ++ utf8 (toString account.nonce) ++ utf8 "\n    \x7d"

/-- `JSON.stringify(genesis, null, 2)`, for at least one account and addresses
without anything to escape. -/
def stringify (genesis : Genesis) : Bytes :=
  utf8 "\x7b\n  \"accounts\": [\n" ++
    (utf8 ",\n").intercalate (genesis.accounts.map stringifyAccount) ++ utf8 "\n  ]\n\x7d"

section

variable {Wallet Url : Type}

def World.genesis (world : World Wallet Url) : Genesis where
  accounts := [
    { address := world.privateKeyToAddress aliceKey, balance := 1000000, nonce := 0 },
    { address := world.privateKeyToAddress bobKey, balance := 0, nonce := 0 }]

def World.genesisText (world : World Wallet Url) : Bytes :=
  stringify world.genesis ++ utf8 "\n"

/-- Step 3: the files behind it. -/
def writeGenesis (world : World Wallet Url) : Except String (Bytes → Except String Bytes) := do
  world.write world.genesisPath world.genesisText
  return fun path => if path = world.genesisPath then .ok world.genesisText else world.readFile path

end

/-! ## The children -/

def isSpace (byte : UInt8) : Bool :=
  byte = 0x20 ∨ (0x09 ≤ byte ∧ byte ≤ 0x0D)

/-- `String.prototype.trim` on an ASCII text. -/
def trim (text : Bytes) : Bytes :=
  (text.dropWhile isSpace).rdropWhile isSpace

section

variable {Wallet Url : Type}

def proverVars (world : World Wallet Url) : List (String × Bytes) :=
  [("PROOF_MODE", proofMode world.environment),
    ("SP1_PROVER", proverBackend (proofMode world.environment) (world.environment "SP1_PROVER")),
    ("PROVER_SVC_PORT", utf8 "7002")]

def deployVars (world : World Wallet Url) (net : NetworkConfig) (vkey genesisRoot : Bytes) :
    List (String × Bytes) :=
  [("PROGRAM_VKEY", vkey), ("GENESIS_ROOT", genesisRoot),
    ("PROOF_MODE", proofMode world.environment)] ++
    match net.sp1Verifier with
    | none | some [] => []
    | some verifier => [("SP1_VERIFIER", verifier)]

def sequencerVars (world : World Wallet Url) (net : NetworkConfig) : List (String × Bytes) :=
  [("DEPLOYER_PRIVATE_KEY", net.deployerPrivateKey),
    ("ROLLUP_ADDRESS", world.rollupAddress),
    ("L1_RPC_URL", net.rpcUrl),
    ("PROVER_SVC_URL", utf8 "http://localhost:7002"),
    ("SEQUENCER_PORT", utf8 "7001"),
    ("GENESIS_PATH", world.genesisPath)]

/-- Step 5. A process that has stopped does not answer. -/
def spawnProver (world : World Wallet Url) : Except Failure ProverSvc.AppState :=
  match (ProverSvc.main (childEnvironment world.environment (proverVars world)) world.setup).run with
  | some (.ok prover) => .ok prover
  | _ => .error (.timedOut "prover-svc" "http://localhost:7002/health")

/-- What the sequencer's start finds: the files, the service and the contract. -/
def World.host [DecidableEq Url] (world : World Wallet Url) (net : NetworkConfig)
    (files : Bytes → Except String Bytes) (prover : ProverSvc.AppState) (rollup : Rollup) :
    Host Wallet Url where
  environment := childEnvironment world.environment (sequencerVars world net)
  readFile := files
  parseGenesis := world.parseGenesis
  getInfo url :=
    if url = utf8 "http://localhost:7002/info" then .ok (ProverSvc.info prover)
    else .error "connection refused"
  parseSigner := world.parseSigner
  parseAddress := world.parseAddress
  parseUrl := world.parseUrl
  callStateRoot url address :=
    if world.parseUrl net.rpcUrl = .ok url ∧ world.parseAddress world.rollupAddress = .ok address then
      .ok rollup.stateRoot
    else
      .error "no contract"

structure Deployment (Wallet : Type) where
  net : NetworkConfig
  prover : ProverSvc.AppState
  rollup : Rollup
  verifier : Verifier
  ctx : AppCtx Wallet
deriving DecidableEq

/-- The file as `compute-root` reads it. -/
def World.loadGenesis (world : World Wallet Url) (files : Bytes → Except String Bytes) :
    Except ComputeRootFailure Genesis := do
  let bytes ← (files world.genesisPath).mapError .readFile
  (world.parseGenesis bytes).mapError .parseJson

variable [Primitives]

/-- Step 4: the line that `compute-root` prints, trimmed. -/
def computeRoot (world : World Wallet Url) (files : Bytes → Except String Bytes) :
    Except ComputeRootFailure Bytes := do
  let genesis ← world.loadGenesis files
  let line ← (ComputeRoot.main genesis).mapError .badAddress
  return trim line

/-- Step 7. -/
def deployRollup (world : World Wallet Url) (net : NetworkConfig) (vkey genesisRoot : Bytes) :
    Except ForgeFailure (Rollup × Verifier) := do
  let environment := childEnvironment world.environment (deployVars world net vkey genesisRoot)
  let programVKey ← (world.envBytes32 ((environment "PROGRAM_VKEY").getD [])).mapError
    (.envBytes32 "PROGRAM_VKEY")
  let genesisRoot ← (world.envBytes32 ((environment "GENESIS_ROOT").getD [])).mapError
    (.envBytes32 "GENESIS_ROOT")
  (Deploy.run world.forge {
    programVKey
    genesisRoot
    proofMode := environment "PROOF_MODE"
    sp1Verifier := environment "SP1_VERIFIER" }).mapError .reverted

/-- Steps 4 to 8, over these files. -/
def bringUpOver [DecidableEq Url] (world : World Wallet Url) (net : NetworkConfig)
    (files : Bytes → Except String Bytes) : Except Failure (Deployment Wallet) := do
  let genesisRoot ← (computeRoot world files).mapError .computeRootFailed
  let prover ← spawnProver world
  let deployed ← (deployRollup world net (ProverSvc.info prover).vkey genesisRoot).mapError
    .forgeFailed
  let ctx ← (startUp (world.host net files prover deployed.1) none).mapError fun _ =>
    .timedOut "sequencer" "http://localhost:7001/health"
  return { net, prover, rollup := deployed.1, verifier := deployed.2, ctx }

/-- `main` up to step 8. -/
def bringUp [DecidableEq Url] (world : World Wallet Url) : Except Failure (Deployment Wallet) := do
  let net ← buildNetworkConfig world.environment
  let files ← (writeGenesis world).mapError .writeFailed
  bringUpOver world net files

/-! ## The root as a text -/

omit [Primitives] in
/-- The tool and `into_state` run the same loop. -/
theorem replay_writeAccount {state next : State} {entries : List GenesisAccount} :
    replay ComputeRoot.writeAccount state entries = .ok next ↔
      replay GenesisAccount.write state entries = .ok next := by
  induction entries generalizing state with
  | nil => simp
  | cons entry rest inductionHypothesis =>
      rw [replay_cons_ok, replay_cons_ok]
      simp only [inductionHypothesis, ComputeRoot.writeAccount, GenesisAccount.write]
      cases Address.fromHex entry.address <;> simp

theorem computeRoot_main_ok {genesis : Genesis} {line : Bytes} :
    ComputeRoot.main genesis = .ok line ↔ ∃ start, genesis.intoState = .ok start ∧
      line = hex0x start.merkleRoot.bytes ++ [0x0A] := by
  unfold ComputeRoot.main Genesis.intoState
  simp only [← replay_writeAccount]
  cases replay ComputeRoot.writeAccount State.new genesis.accounts with
  | error failure => simp
  | ok start => simp [hex0x, eq_comm]

omit [Primitives] in
theorem trim_line (word : Hash) : trim (hex0x word.bytes ++ [0x0A]) = hex0x word.bytes := by
  have visible : ∀ c ∈ hex0x word.bytes, 0x30 ≤ c := by
    intro c member
    rcases List.mem_append.mp member with prefixed | digit
    · rcases List.mem_pair.mp prefixed with rfl | rfl <;> decide
    · exact Hex.le_of_mem_encode digit
  have printed : ∀ c ∈ hex0x word.bytes, isSpace c = false := by
    intro c member
    have large := UInt8.le_iff_toNat_le.mp (visible c member)
    simp only [isSpace, ← UInt8.toNat_inj, UInt8.le_iff_toNat_le, decide_eq_false_iff_not]
    simp only [UInt8.reduceToNat] at large ⊢
    omega
  unfold trim
  rw [List.dropWhile_eq_self_iff.mpr (fun _ => by simp [hex0x, isSpace]),
    List.rdropWhile_concat_pos _ _ _ (by decide), List.rdropWhile_eq_self_iff]
  intro nonempty
  rw [printed _ (List.getLast_mem nonempty)]
  exact Bool.false_ne_true

/-! ## The parts in their order -/

/-- Everything outside is in place, and no verifier is given from outside. -/
structure World.Ready (world : World Wallet Url) (net : NetworkConfig) : Prop where
  configured : buildNetworkConfig world.environment = .ok net
  signer : Utf8 net.deployerPrivateKey ∧
    ∃ wallet, world.parseSigner (stripHexPrefix net.deployerPrivateKey) = .ok wallet
  address : Utf8 world.rollupAddress ∧ ∃ addr, world.parseAddress world.rollupAddress = .ok addr
  url : Utf8 net.rpcUrl ∧ ∃ url, world.parseUrl net.rpcUrl = .ok url
  path : Utf8 world.genesisPath
  word : ∀ word : Hash, world.envBytes32 (hex0x word.bytes) = .ok word
  forge : world.forge.Documented
  created : world.forge.newMockVerifier ≠ .zero 20 ∧ world.forge.newGroth16Verifier ≠ .zero 20
  noPreset : world.environment "SP1_VERIFIER" = none

variable {world : World Wallet Url} {net : NetworkConfig} {files : Bytes → Except String Bytes}

omit [Primitives] in
theorem World.loadGenesis_ok {genesis : Genesis} :
    world.loadGenesis files = .ok genesis ↔ ∃ json, files world.genesisPath = .ok json ∧
      world.parseGenesis json = .ok genesis := by
  unfold World.loadGenesis
  simp only [bind_eq_ok, mapError_eq_ok]

theorem computeRoot_ok {text : Bytes} :
    computeRoot world files = .ok text ↔ ∃ genesis start, world.loadGenesis files = .ok genesis ∧
      genesis.intoState = .ok start ∧ text = hex0x start.merkleRoot.bytes := by
  unfold computeRoot
  simp only [bind_eq_ok, mapError_eq_ok, computeRoot_main_ok]
  constructor
  · rintro ⟨genesis, loaded, line, ⟨start, built, rfl⟩, trimmed⟩
    rw [trim_line] at trimmed
    exact ⟨genesis, start, loaded, built, (Except.ok.inj trimmed).symm⟩
  · rintro ⟨genesis, start, loaded, built, rfl⟩
    exact ⟨genesis, loaded, _, ⟨start, built, rfl⟩, by rw [trim_line]; rfl⟩

omit [Primitives] in
theorem spawnProver_ok {prover : ProverSvc.AppState} :
    spawnProver world = .ok prover ↔ ∃ vkey, world.setup.run = some (.ok vkey) ∧
      prover = { mode := ProofMode.fromEnv (some (proofMode world.environment)), vkey } := by
  have inherited : childEnvironment world.environment (proverVars world) "PROOF_MODE" =
      some (proofMode world.environment) := rfl
  have ran : (ProverSvc.main (childEnvironment world.environment (proverVars world))
      world.setup).run = some (.ok prover) ↔ ∃ vkey, world.setup.run = some (.ok vkey) ∧
        prover = { mode := ProofMode.fromEnv (some (proofMode world.environment)), vkey } := by
    unfold ProverSvc.main Script.vkeyBytes32
    simp only [Fallible.run_bind_ok, Fallible.run_adapt_ok, inherited]
    constructor
    · rintro ⟨vkey, setup, answer⟩
      cases answer
      exact ⟨vkey, setup, rfl⟩
    · rintro ⟨vkey, setup, rfl⟩
      exact ⟨vkey, setup, rfl⟩
  rw [← ran]
  unfold spawnProver
  cases (ProverSvc.main (childEnvironment world.environment (proverVars world)) world.setup).run with
  | none => simp
  | some result => cases result <;> simp

omit [Primitives] in
theorem World.Ready.sp1Verifier (ready : world.Ready net) : net.sp1Verifier = none := by
  have configured := ready.configured
  unfold buildNetworkConfig at configured
  split at configured
  · simp only [bind_eq_ok] at configured
    obtain ⟨rpcUrl, -, key, -, answer⟩ := configured
    cases answer
    exact ready.noPreset
  · cases configured
    rfl

/-- Which verifier a word for the mode deploys. -/
def verifierFor (world : World Wallet Url) : Verifier :=
  if Deploy.isMock (world.forge.envOrString (some (proofMode world.environment)) (utf8 "mock")) then
    .sp1MockVerifier
  else
    .sp1VerifierGroth16

def verifierAddress (forge : Forge) : Verifier → FixedBytes 20
  | .preset => .zero 20
  | .sp1MockVerifier => forge.newMockVerifier
  | .sp1VerifierGroth16 => forge.newGroth16Verifier

omit [Primitives] in
theorem deploy_ok {verifier : FixedBytes 20} {programVKey root : Hash} {rollup : Rollup}
    (created : verifier ≠ .zero 20) :
    Rollup.deploy verifier programVKey root = .ok rollup ↔ programVKey ≠ .zero 32 ∧
      rollup = { programVKey, verifier, stateRoot := root, batchCount := 0 } := by
  unfold Rollup.deploy
  by_cases unset : programVKey = .zero 32
  · simp [created, unset, throw, throwThe, MonadExceptOf.throw, bind, Except.bind]
  · simp [created, unset, pure, Except.pure, eq_comm]

/-- The contract starts at the word that the text of the root stands for. -/
theorem World.Ready.deployRollup_ok (ready : world.Ready net) {vkey : Bytes} {root : Hash}
    {deployed : Rollup × Verifier} :
    deployRollup world net vkey (hex0x root.bytes) = .ok deployed ↔
      ∃ programVKey, world.envBytes32 vkey = .ok programVKey ∧ programVKey ≠ .zero 32 ∧
        deployed = ({
          programVKey
          verifier := verifierAddress world.forge (verifierFor world)
          stateRoot := root
          batchCount := 0 }, verifierFor world) := by
  have inherited : ∀ key, key ∈ ["PROGRAM_VKEY", "GENESIS_ROOT", "PROOF_MODE", "SP1_VERIFIER"] →
      childEnvironment world.environment (deployVars world net vkey (hex0x root.bytes)) key =
        [("PROGRAM_VKEY", vkey), ("GENESIS_ROOT", hex0x root.bytes),
          ("PROOF_MODE", proofMode world.environment)].lookup key := by
    intro key asked
    simp only [deployVars, ready.sp1Verifier, List.append_nil, childEnvironment]
    simp only [List.mem_cons, List.not_mem_nil, or_false] at asked
    rcases asked with rfl | rfl | rfl | rfl
    · rfl
    · rfl
    · rfl
    · exact ready.noPreset
  have chosen : ∀ programVKey, Deploy.run world.forge {
      programVKey, genesisRoot := root, proofMode := some (proofMode world.environment)
      sp1Verifier := none } = .ok deployed ↔ programVKey ≠ .zero 32 ∧ deployed = ({
          programVKey
          verifier := verifierAddress world.forge (verifierFor world)
          stateRoot := root
          batchCount := 0 }, verifierFor world) := by
    intro programVKey
    unfold Deploy.run verifierFor
    simp only [ready.forge.unsetAddress]
    cases Deploy.isMock (world.forge.envOrString (some (proofMode world.environment))
      (utf8 "mock")) with
    | true =>
        simp only [ne_eq, not_true_eq_false, if_false, if_true, bind_eq_ok,
          deploy_ok ready.created.1, verifierAddress]
        simp [pure, Except.pure, eq_comm]
    | false =>
        simp only [ne_eq, not_true_eq_false, if_false, Bool.false_eq_true, bind_eq_ok,
          deploy_ok ready.created.2, verifierAddress]
        simp [pure, Except.pure, eq_comm]
  unfold deployRollup
  simp only [bind_eq_ok, mapError_eq_ok, inherited _ (by simp : "PROGRAM_VKEY" ∈ _),
    inherited _ (by simp : "GENESIS_ROOT" ∈ _), inherited _ (by simp : "PROOF_MODE" ∈ _),
    inherited _ (by simp : "SP1_VERIFIER" ∈ _)]
  simp [List.lookup_cons, ready.word, chosen]

omit [Primitives] in
theorem World.host_var [DecidableEq Url] {prover : ProverSvc.AppState} {rollup : Rollup}
    {key : String} {value : Bytes} (set : (sequencerVars world net).lookup key = some value)
    (text : Utf8 value) : (world.host net files prover rollup).var key = .ok value := by
  have inherited : childEnvironment world.environment (sequencerVars world net) key = some value := by
    simp [childEnvironment, set]
  simp only [Host.var, World.host, inherited, envVar, if_pos text]

omit [Primitives] in
/-- Everything the sequencer asks answers: the file, the service, the contract. -/
theorem World.Ready.answers [DecidableEq Url] (ready : world.Ready net) {genesis : Genesis}
    (loaded : world.loadGenesis files = .ok genesis) (prover : ProverSvc.AppState)
    (rollup : Rollup) :
    ∃ l1, (world.host net files prover rollup).Answers none genesis (ProverSvc.info prover) l1
      rollup.stateRoot := by
  obtain ⟨keyText, wallet, signer⟩ := ready.signer
  obtain ⟨addressText, addr, address⟩ := ready.address
  obtain ⟨urlText, url, node⟩ := ready.url
  have path : ZkRollup.genesisPath (world.host net files prover rollup) none = world.genesisPath := by
    rw [ZkRollup.genesisPath, World.host_var rfl ready.path]
    rfl
  refine ⟨{ rollupAddress := addr, rpcUrl := net.rpcUrl, wallet }, ?_, ?_, ?_, ?_⟩
  · obtain ⟨json, held, parsed⟩ := World.loadGenesis_ok.mp loaded
    rw [path, Genesis.load]
    simp only [World.host, held]
    show (world.parseGenesis json).mapError _ = .ok genesis
    rw [parsed]
    rfl
  · have asked : (ProverClient.new (utf8 "http://localhost:7002")).base ++ utf8 "/info" =
        utf8 "http://localhost:7002/info" := by
      decide +kernel
    have plain : Utf8 (utf8 "http://localhost:7002") := by decide +kernel
    rw [World.host_var rfl plain, ProverClient.info]
    simp only [World.host, Except.toOption, Option.getD_some, asked, if_true]
  · refine ⟨net.deployerPrivateKey, world.rollupAddress, World.host_var rfl keyText,
      World.host_var rfl addressText, ?_⟩
    rw [World.host_var rfl urlText]
    simp only [L1Client.connect, World.host, signer, address]
    rfl
  · simp only [L1Client.stateRoot, World.host, node]
    exact congrArg (Except.mapError _) (if_pos ⟨rfl, address⟩)

/-- What a deployment that came up consists of. -/
theorem World.Ready.bringUpOver_ok [DecidableEq Url] (ready : world.Ready net)
    {deployment : Deployment Wallet} :
    bringUpOver world net files = .ok deployment ↔
      ∃ genesis start vkey programVKey, world.loadGenesis files = .ok genesis ∧
        genesis.intoState = .ok start ∧ world.setup.run = some (.ok vkey) ∧
        world.envBytes32 vkey = .ok programVKey ∧ programVKey ≠ .zero 32 ∧
        ∃ ctx, deployment = {
          net
          prover := { mode := ProofMode.fromEnv (some (proofMode world.environment)), vkey }
          rollup := {
            programVKey
            verifier := verifierAddress world.forge (verifierFor world)
            stateRoot := start.merkleRoot
            batchCount := 0 }
          verifier := verifierFor world
          ctx } ∧
        startUp (world.host net files deployment.prover deployment.rollup) none = .ok ctx := by
  unfold bringUpOver
  simp only [bind_eq_ok, mapError_eq_ok, computeRoot_ok, spawnProver_ok]
  constructor
  · rintro ⟨text, ⟨genesis, start, loaded, built, rfl⟩, prover, ⟨vkey, setup, rfl⟩, deployed,
      created, ctx, started, answer⟩
    obtain ⟨programVKey, read, nonzero, rfl⟩ := ready.deployRollup_ok.mp created
    cases answer
    exact ⟨genesis, start, vkey, programVKey, loaded, built, setup, read, nonzero, ctx, rfl, started⟩
  · rintro ⟨genesis, start, vkey, programVKey, loaded, built, setup, read, nonzero, ctx, rfl, started⟩
    exact ⟨_, ⟨genesis, start, loaded, built, rfl⟩, _, ⟨vkey, setup, rfl⟩, _,
      ready.deployRollup_ok.mpr ⟨programVKey, read, nonzero, rfl⟩, ctx, started, rfl⟩

/-- The sequencer is given nothing it refuses. -/
theorem World.Ready.started [DecidableEq Url] (ready : world.Ready net) {genesis : Genesis}
    {start : State} (loaded : world.loadGenesis files = .ok genesis)
    (built : genesis.intoState = .ok start) (prover : ProverSvc.AppState) {rollup : Rollup}
    (sameRoot : rollup.stateRoot = start.merkleRoot) :
    ∃ ctx, startUp (world.host net files prover rollup) none = .ok ctx := by
  obtain ⟨l1, answers⟩ := ready.answers loaded prover rollup
  exact (answers.startUp_iff built).mpr sameRoot.symm

theorem World.Ready.started_state [DecidableEq Url] (ready : world.Ready net) {genesis : Genesis}
    {start : State} (loaded : world.loadGenesis files = .ok genesis)
    (built : genesis.intoState = .ok start) {prover : ProverSvc.AppState} {rollup : Rollup}
    {ctx : AppCtx Wallet} (started : startUp (world.host net files prover rollup) none = .ok ctx) :
    ctx.state = .fromGenesis start ∧ ctx.programVKey = prover.vkey := by
  obtain ⟨_, answers⟩ := ready.answers loaded prover rollup
  obtain ⟨other, otherStart, info, _, others, otherBuilt, rfl⟩ := startUp_ok.mp started
  obtain rfl := Except.ok.inj (answers.loaded.symm.trans others.loaded)
  obtain rfl := Except.ok.inj (answers.told.symm.trans others.told)
  obtain rfl := Except.ok.inj (built.symm.trans otherBuilt)
  exact ⟨rfl, rfl⟩

end

/-- A proof type that needs a real backend gets one. -/
theorem proverBackend_ne_mock {mode : Bytes} (sp1Prover : Option Bytes)
    (groth16 : ProofMode.fromEnv (some mode) = .groth16) :
    proverBackend mode sp1Prover ≠ utf8 "mock" := by
  have notMock : mode ≠ utf8 "mock" := by
    rintro rfl
    exact absurd (ProofMode.fromEnv_set.mp groth16) (by decide +kernel)
  have different : utf8 "cpu" ≠ utf8 "mock" := by decide +kernel
  unfold proverBackend
  rw [if_pos notMock]
  cases sp1Prover with
  | none => exact different
  | some backend =>
      by_cases vetoed : backend = utf8 "mock"
      · rw [vetoed, if_pos rfl]
        exact different
      · rw [if_neg (fun same => vetoed (Option.some.inj same))]
        exact vetoed

section

variable [Primitives] {Wallet Url : Type} [DecidableEq Url] {world : World Wallet Url}
  {net : NetworkConfig} {files : Bytes → Except String Bytes}

/-- The key that the service answers is a word other than zero. -/
def World.Keyed (world : World Wallet Url) : Prop :=
  ∃ vkey programVKey, world.setup.run = some (.ok vkey) ∧
    world.envBytes32 vkey = .ok programVKey ∧ programVKey ≠ .zero 32

/-- Over any genesis file, a rollup comes up exactly if the file describes a state
and there is a key. -/
theorem World.Ready.bringUpOver_iff (ready : world.Ready net) :
    (∃ deployment, bringUpOver world net files = .ok deployment) ↔
      (∃ genesis start, world.loadGenesis files = .ok genesis ∧ genesis.intoState = .ok start) ∧
        world.Keyed := by
  constructor
  · rintro ⟨deployment, up⟩
    obtain ⟨genesis, start, vkey, programVKey, loaded, built, setup, read, nonzero, -⟩ :=
      ready.bringUpOver_ok.mp up
    exact ⟨⟨genesis, start, loaded, built⟩, vkey, programVKey, setup, read, nonzero⟩
  · rintro ⟨⟨genesis, start, loaded, built⟩, vkey, programVKey, setup, read, nonzero⟩
    obtain ⟨ctx, started⟩ := ready.started loaded built
      { mode := ProofMode.fromEnv (some (proofMode world.environment)), vkey }
      (show Rollup.stateRoot {
        programVKey, verifier := verifierAddress world.forge (verifierFor world)
        stateRoot := start.merkleRoot, batchCount := 0 } = start.merkleRoot from rfl)
    exact ⟨_, ready.bringUpOver_ok.mpr ⟨genesis, start, vkey, programVKey, loaded, built, setup,
      read, nonzero, ctx, rfl, started⟩⟩

/-- The sequencer never refuses the contract that was deployed for it. -/
theorem World.Ready.sequencer_starts (ready : world.Ready net) (url : String) :
    bringUpOver world net files ≠ .error (.timedOut "sequencer" url) := by
  intro refused
  unfold bringUpOver at refused
  simp only [bind_eq_error, mapError_eq_error, mapError_eq_ok, computeRoot_ok] at refused
  rcases refused with ⟨cause, -, other⟩ | ⟨text, ⟨genesis, start, loaded, built, rfl⟩,
    down | ⟨prover, -, ⟨cause, -, other⟩ | ⟨deployed, created, ⟨cause, failed, -⟩ | up⟩⟩⟩
  · cases other
  · unfold spawnProver at down
    split at down
    · cases down
    · simp at down
  · cases other
  · obtain ⟨programVKey, -, -, rfl⟩ := ready.deployRollup_ok.mp created
    obtain ⟨ctx, started⟩ := ready.started loaded built prover
      (show Rollup.stateRoot {
        programVKey, verifier := verifierAddress world.forge (verifierFor world)
        stateRoot := start.merkleRoot, batchCount := 0 } = start.merkleRoot from rfl)
    rw [started] at failed
    cases failed
  · obtain ⟨ctx, -, up⟩ := up
    cases up

/-! ## From the file that step 3 writes -/

/-- The file can be written, the JSON reader reads what was written, and the two
accounts have two addresses. -/
structure World.Writes (world : World Wallet Url) (alice bob : Address) : Prop where
  written : world.write world.genesisPath world.genesisText = .ok ()
  parsed : world.parseGenesis world.genesisText = .ok world.genesis
  aliceText : Address.fromHex (world.privateKeyToAddress aliceKey) = .ok alice
  bobText : Address.fromHex (world.privateKeyToAddress bobKey) = .ok bob
  distinct : alice ≠ bob

/-- The state the file describes. -/
def opening (alice bob : Address) : State :=
  (State.new.set alice { balance := 1000000, nonce := 0 }).set bob { balance := 0, nonce := 0 }

variable {alice bob : Address}

omit [Primitives] [DecidableEq Url] in
theorem World.Writes.files_ok (writes : world.Writes alice bob) :
    writeGenesis world = .ok files ↔ files = fun path =>
      if path = world.genesisPath then .ok world.genesisText else world.readFile path := by
  unfold writeGenesis
  rw [writes.written]
  exact ⟨fun same => (Except.ok.inj same).symm, fun same => congrArg Except.ok same.symm⟩

omit [Primitives] [DecidableEq Url] in
theorem World.Writes.loads (writes : world.Writes alice bob)
    (written : writeGenesis world = .ok files) : world.loadGenesis files = .ok world.genesis := by
  obtain rfl := writes.files_ok.mp written
  exact World.loadGenesis_ok.mpr ⟨_, if_pos rfl, writes.parsed⟩

omit [Primitives] [DecidableEq Url] in
theorem World.Writes.intoState (writes : world.Writes alice bob) :
    world.genesis.intoState = .ok (opening alice bob) := by
  refine replay_cons_ok.mpr ⟨State.new.set alice { balance := 1000000, nonce := 0 }, ?_,
    (replay_singleton _ _).trans ?_⟩
  · simp only [GenesisAccount.write, writes.aliceText]
  · simp only [GenesisAccount.write, writes.bobText]
    rfl

omit [Primitives] [DecidableEq Url] in
/-- Alice has everything. -/
theorem World.Writes.opening_get (writes : world.Writes alice bob) :
    (opening alice bob).get alice = { balance := 1000000, nonce := 0 } ∧
      ∀ addr, addr ≠ alice → (opening alice bob).get addr = default := by
  have first := State.new_sorted.set alice { balance := 1000000, nonce := 0 }
  unfold opening
  constructor
  · rw [first.get_set_of_ne writes.distinct, State.new_sorted.get_set_self]
  · intro addr other
    by_cases isBob : addr = bob
    · rw [isBob, first.get_set_self]
      rfl
    · rw [first.get_set_of_ne isBob, State.new_sorted.get_set_of_ne other]
      rfl

theorem World.Ready.bringUp_eq (ready : world.Ready net) (writes : world.Writes alice bob) :
    ∃ files, writeGenesis world = .ok files ∧ bringUp world = bringUpOver world net files := by
  refine ⟨_, writes.files_ok.mpr rfl, ?_⟩
  unfold bringUp
  rw [ready.configured, writes.files_ok.mpr rfl]
  rfl

end

/-- The orchestrator brings a rollup up exactly if the key of the program is a word
other than zero. The sequencer never refuses the contract that was deployed for it:
the root has come to the contract by a file, a tool, a text and the environment,
and is the root the sequencer computes itself. What has come up stands at the
genesis on both sides, with all funds at alice, for one program, and no Groth16
proof is asked of the mock backend. -/
theorem bringUp_iff [Primitives] {Wallet Url : Type} [DecidableEq Url] (world : World Wallet Url)
    (net : NetworkConfig) (ready : world.Ready net) (alice bob : Address)
    (writes : world.Writes alice bob) :
    ((∃ deployment, bringUp world = .ok deployment) ↔
      ∃ vkey programVKey, world.setup.run = some (.ok vkey) ∧
        world.envBytes32 vkey = .ok programVKey ∧ programVKey ≠ .zero 32) ∧
    (∀ url, bringUp world ≠ .error (.timedOut "sequencer" url)) ∧
    ∀ deployment, bringUp world = .ok deployment →
      ∃ start, deployment.ctx.state = .fromGenesis start ∧
        start.get alice = { balance := 1000000, nonce := 0 } ∧
        (∀ addr, addr ≠ alice → start.get addr = { balance := 0, nonce := 0 }) ∧
        deployment.rollup.stateRoot = deployment.ctx.state.canonicalRoot ∧
        deployment.rollup.batchCount = 0 ∧
        world.envBytes32 deployment.ctx.programVKey = .ok deployment.rollup.programVKey ∧
        (deployment.prover.mode = .groth16 →
          proverBackend (proofMode world.environment) (world.environment "SP1_PROVER") ≠
            utf8 "mock") := by
  obtain ⟨files, written, same⟩ := ready.bringUp_eq writes
  have loads := writes.loads written
  have built := writes.intoState
  rw [same]
  refine ⟨?_, ready.sequencer_starts, ?_⟩
  · rw [ready.bringUpOver_iff]
    exact and_iff_right ⟨world.genesis, _, loads, built⟩
  · intro deployment up
    obtain ⟨genesis, start, vkey, programVKey, loaded, described, -, read, -, ctx, rfl, started⟩ :=
      ready.bringUpOver_ok.mp up
    obtain rfl := Except.ok.inj (loads.symm.trans loaded)
    obtain rfl := Except.ok.inj (built.symm.trans described)
    obtain ⟨state, key⟩ := ready.started_state loaded built started
    refine ⟨_, state, writes.opening_get.1, writes.opening_get.2, ?_, rfl, ?_,
      proverBackend_ne_mock _⟩
    · rw [state]
      rfl
    · rw [key]
      exact read

end Orchestrator

namespace HappyPath

/-- A word in hexadecimal. -/
def readWord (text : Bytes) : Except String Hash :=
  match Hex.decode (stripHexPrefix text) with
  | .error _ => .error "invalid hex string"
  | .ok bytes =>
      if sized : bytes.length = 32 then .ok ⟨bytes, sized⟩ else .error "invalid word length"

/-- The accounts of the two keys, in viem's mixed case. -/
def privateKeyToAddress (key : Bytes) : Bytes :=
  if key = Orchestrator.aliceKey then utf8 "0x1a642f0E3c3aF545E7AcBD38b07251B3990914F1"
  else if key = Orchestrator.bobKey then utf8 "0x5050A4F4b3f9338C3472dcC01A87C76A144b3c9c"
  else []

/-- Nothing is set, so everything runs on the local node with the mock. -/
def world : Orchestrator.World Unit Unit where
  environment _ := none
  genesisPath := utf8 "genesis.json"
  privateKeyToAddress := privateKeyToAddress
  write _ _ := .ok ()
  readFile _ := .error "No such file or directory"
  parseGenesis := readGenesis
  setup := pure (hex0x (FixedBytes.ofNat 32 1).bytes)
  forge := Plonk.forge
  envBytes32 := readWord
  rollupAddress := utf8 "0x5fbdb2315678afecb367f032d93f642f64180aa3"
  parseSigner _ := .ok ()
  parseAddress _ := .ok (.ofNat 20 0x5fbdb2315678afecb367f032d93f642f64180aa3)
  parseUrl _ := .ok ()

def localNet : Orchestrator.NetworkConfig where
  label := utf8 "anvil"
  rpcUrl := utf8 "http://localhost:8545"
  deployerPrivateKey := utf8 "0xac0974bec39a17e36ba4a6b4d238ff944bacb478cbed5efcae784d7bf4f2ff80"
  sp1Verifier := none
  spawnAnvil := true

theorem world_ready : world.Ready localNet where
  configured := by decide +kernel
  signer := ⟨by decide +kernel, (), rfl⟩
  address := ⟨by decide +kernel, _, rfl⟩
  url := ⟨by decide +kernel, (), rfl⟩
  path := by decide +kernel
  word word := by
    have decoded : Hex.decode (stripHexPrefix (hex0x word.bytes)) = .ok word.bytes :=
      Hex.decode_encode word.bytes
    simp only [world, readWord, decoded, word.length_eq, dite_true]
  forge := Plonk.forge_documented
  created := by decide +kernel
  noPreset := rfl

theorem world_writes : world.Writes alice bob where
  written := rfl
  parsed := by decide +kernel
  aliceText := by decide +kernel
  bobText := by decide +kernel
  distinct := by decide +kernel

end HappyPath

open DemoTransfers in
open HappyPath (world localNet world_ready world_writes alice) in
/-- The keys and the defaults of the orchestrator itself. -/
theorem Orchestrator.bringUp_iff_demo :
    ∃ deployment, Orchestrator.bringUp world = .ok deployment ∧
      (deployment.ctx.state.canonicalState.get alice).balance = 1000000 ∧
      deployment.rollup.stateRoot = deployment.ctx.state.canonicalRoot := by
  obtain ⟨comesUp, -, stands⟩ :=
    Orchestrator.bringUp_iff world localNet world_ready _ _ world_writes
  obtain ⟨deployment, up⟩ := comesUp.mpr ⟨_, .ofNat 32 1, rfl, by decide +kernel, by decide +kernel⟩
  obtain ⟨start, state, funds, -, level, -⟩ := stands deployment up
  refine ⟨deployment, up, ?_, level⟩
  rw [state]
  exact congrArg Account.balance funds

end ZkRollup
