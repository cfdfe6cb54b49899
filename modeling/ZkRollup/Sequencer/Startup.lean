import ZkRollup.Contracts.Deploy
import ZkRollup.Foundation.Fallible
import ZkRollup.Sequencer.Genesis
import ZkRollup.Sequencer.Routes
import Mathlib.Data.List.DropRight

/-!
Contract: what the sequencer does before it serves, up to the context that its
handlers share (`sequencer/src/main.rs`, with `connect` and `state_root` of
`l1.rs` and the client of `prover.rs`).

The environment, the file system, the libraries' parsers and the answers of
prover-svc and of the L1 node are a parameter, the host. The last check compares
the root of the genesis file with the root the contract stands at.

Does not own the port and the listener.
-/

set_option autoImplicit false

namespace ZkRollup

open Foundation

/-! ## The host -/

/-- `InfoResponse` of `prover.rs`. -/
structure ProverClient.InfoResponse where
  mode : Bytes
  vkey : Bytes
deriving DecidableEq

/-- What `main` asks of its surroundings. -/
structure Host (Wallet Url : Type) where
  environment : String → Option Bytes
  readFile : (path : Bytes) → Except String Bytes
  parseGenesis : (json : Bytes) → Except String Genesis
  /-- `GET` with `error_for_status` and the JSON body parsed. -/
  getInfo : (url : Bytes) → Except String ProverClient.InfoResponse
  parseSigner : (text : Bytes) → Except String Wallet
  parseAddress : (text : Bytes) → Except String (FixedBytes 20)
  parseUrl : (text : Bytes) → Except String Url
  /-- `stateRoot()` of the contract at this address. -/
  callStateRoot : Url → FixedBytes 20 → Except String Hash

inductive LoadError where
  /-- `read genesis file: {path}` -/
  | readFile (path : Bytes) (cause : String)
  /-- `parse genesis JSON` -/
  | parseJson (cause : String)
deriving DecidableEq

inductive ConnectError where
  /-- `parse DEPLOYER_PRIVATE_KEY` -/
  | privateKey (cause : String)
  /-- `parse ROLLUP_ADDRESS` -/
  | rollupAddress (cause : String)
deriving DecidableEq

inductive StateRootError where
  /-- `parse L1_RPC_URL` -/
  | url (cause : String)
  | call (cause : String)
deriving DecidableEq

inductive StartError where
  /-- `load genesis` -/
  | loadGenesis (cause : LoadError)
  | genesisAddress (cause : GenesisError)
  /-- `query prover-svc /info` -/
  | proverInfo (cause : String)
  /-- `DEPLOYER_PRIVATE_KEY not set` -/
  | privateKeyNotSet (cause : VarError)
  /-- `ROLLUP_ADDRESS not set` -/
  | rollupAddressNotSet (cause : VarError)
  /-- `connect L1` -/
  | connectL1 (cause : ConnectError)
  /-- `read L1 stateRoot` -/
  | readStateRoot (cause : StateRootError)
  /-- `genesis mismatch: local computed root {initialRoot} but L1 stateRoot is
  {onChainRoot} — re-deploy Rollup with this genesis or update genesis.json` -/
  | genesisMismatch (initialRoot onChainRoot : Hash)
deriving DecidableEq

section

variable {Wallet Url : Type}

/-- `std::env::var`. -/
def Host.var (host : Host Wallet Url) (key : String) : Except VarError Bytes :=
  envVar (host.environment key)

/-! ## The clients -/

structure ProverClient where
  base : Bytes
deriving DecidableEq

/-- The base without trailing slashes. -/
def ProverClient.new (base : Bytes) : ProverClient :=
  ⟨base.rdropWhile (· = 0x2F)⟩

def ProverClient.info (host : Host Wallet Url) (prover : ProverClient) :
    Except String ProverClient.InfoResponse :=
  host.getInfo (prover.base ++ utf8 "/info")

structure L1Client (Wallet : Type) where
  rollupAddress : FixedBytes 20
  rpcUrl : Bytes
  wallet : Wallet
deriving DecidableEq

namespace L1Client

def connect (host : Host Wallet Url) (rpcUrl privateKey rollupAddress : Bytes) :
    Except ConnectError (L1Client Wallet) := do
  let signer ← (host.parseSigner (stripHexPrefix privateKey)).mapError .privateKey
  let rollupAddress ← (host.parseAddress rollupAddress).mapError .rollupAddress
  return { rollupAddress, rpcUrl, wallet := signer }

def stateRoot (host : Host Wallet Url) (l1 : L1Client Wallet) : Except StateRootError Hash := do
  let url ← (host.parseUrl l1.rpcUrl).mapError .url
  (host.callStateRoot url l1.rollupAddress).mapError .call

end L1Client

def Genesis.load (host : Host Wallet Url) (path : Bytes) : Except LoadError Genesis := do
  let bytes ← (host.readFile path).mapError (.readFile path)
  (host.parseGenesis bytes).mapError .parseJson

/-! ## The start -/

structure AppCtx (Wallet : Type) where
  state : SequencerState
  prover : ProverClient
  l1 : L1Client Wallet
  programVKey : Bytes
  proofMode : Bytes
deriving DecidableEq

/-- The path of the genesis file: argument, variable, default. -/
def genesisPath (host : Host Wallet Url) (argument : Option Bytes) : Bytes :=
  (argument <|> (host.var "GENESIS_PATH").toOption).getD (utf8 "./genesis.json")

variable [Primitives]

/-- `main` up to the router. -/
def startUp (host : Host Wallet Url) (argument : Option Bytes) :
    Except StartError (AppCtx Wallet) := do
  let genesis ← (Genesis.load host (genesisPath host argument)).mapError .loadGenesis
  let initialState ← genesis.intoState.mapError .genesisAddress
  let initialRoot := initialState.merkleRoot
  let proverUrl := (host.var "PROVER_SVC_URL").toOption.getD (utf8 "http://localhost:7002")
  let prover := ProverClient.new proverUrl
  let proverInfo ← (prover.info host).mapError .proverInfo
  let l1Rpc := (host.var "L1_RPC_URL").toOption.getD (utf8 "http://localhost:8545")
  let l1Pk ← (host.var "DEPLOYER_PRIVATE_KEY").mapError .privateKeyNotSet
  let rollupAddress ← (host.var "ROLLUP_ADDRESS").mapError .rollupAddressNotSet
  let l1 ← (L1Client.connect host l1Rpc l1Pk rollupAddress).mapError .connectL1
  let onChainRoot ← (l1.stateRoot host).mapError .readStateRoot
  if onChainRoot ≠ initialRoot then
    throw (.genesisMismatch initialRoot onChainRoot)
  return {
    state := .fromGenesis initialState
    prover
    l1
    programVKey := proverInfo.vkey
    proofMode := proverInfo.mode }

/-- All surroundings answer, and this is what they say. -/
structure Host.Answers (host : Host Wallet Url) (argument : Option Bytes) (genesis : Genesis)
    (info : ProverClient.InfoResponse) (l1 : L1Client Wallet) (onChainRoot : Hash) : Prop where
  loaded : Genesis.load host (genesisPath host argument) = .ok genesis
  told : (ProverClient.new ((host.var "PROVER_SVC_URL").toOption.getD
    (utf8 "http://localhost:7002"))).info host = .ok info
  connected : ∃ privateKey address, host.var "DEPLOYER_PRIVATE_KEY" = .ok privateKey ∧
    host.var "ROLLUP_ADDRESS" = .ok address ∧
    L1Client.connect host ((host.var "L1_RPC_URL").toOption.getD (utf8 "http://localhost:8545"))
      privateKey address = .ok l1
  read : l1.stateRoot host = .ok onChainRoot

/-- The sequencer starts if everything it asks answers, the addresses of the file
parse and the roots are equal; then it stands at the genesis. -/
theorem startUp_ok {host : Host Wallet Url} {argument : Option Bytes} {ctx : AppCtx Wallet} :
    startUp host argument = .ok ctx ↔
      ∃ genesis initialState info l1,
        host.Answers argument genesis info l1 initialState.merkleRoot ∧
        genesis.intoState = .ok initialState ∧
        ctx = {
          state := .fromGenesis initialState
          prover := ProverClient.new ((host.var "PROVER_SVC_URL").toOption.getD
            (utf8 "http://localhost:7002"))
          l1
          programVKey := info.vkey
          proofMode := info.mode } := by
  unfold startUp
  simp only [bind_eq_ok, mapError_eq_ok]
  constructor
  · rintro ⟨genesis, loaded, start, parsed, info, told, key, keySet, address, addressSet, l1,
      connected, root, read, rest⟩
    by_cases same : root = start.merkleRoot
    · subst same
      simp only [ne_eq, not_true_eq_false, if_false] at rest
      cases rest
      exact ⟨genesis, start, info, l1, ⟨loaded, told, ⟨key, address, keySet, addressSet, connected⟩,
        read⟩, parsed, rfl⟩
    · simp only [ne_eq, same, not_false_eq_true, if_true] at rest
      cases rest
  · rintro ⟨genesis, start, info, l1, ⟨loaded, told, ⟨key, address, keySet, addressSet, connected⟩,
      read⟩, parsed, rfl⟩
    refine ⟨genesis, loaded, start, parsed, info, told, key, keySet, address, addressSet, l1,
      connected, start.merkleRoot, read, ?_⟩
    simp only [ne_eq, not_true_eq_false, if_false]
    rfl

/-- A file with an address that does not parse is never started on. -/
theorem Host.Answers.parsed_of_started {host : Host Wallet Url} {argument : Option Bytes}
    {genesis : Genesis} {info : ProverClient.InfoResponse} {l1 : L1Client Wallet}
    {onChainRoot : Hash} (answers : host.Answers argument genesis info l1 onChainRoot)
    {ctx : AppCtx Wallet} (started : startUp host argument = .ok ctx) :
    ∃ start, genesis.intoState = .ok start := by
  obtain ⟨other, start, _, _, others, parsed, -⟩ := startUp_ok.mp started
  have sameGenesis := Except.ok.inj (answers.loaded.symm.trans others.loaded)
  exact ⟨start, sameGenesis ▸ parsed⟩

/-- With everything in place, the root decides. -/
theorem Host.Answers.startUp_iff {host : Host Wallet Url} {argument : Option Bytes}
    {genesis : Genesis} {info : ProverClient.InfoResponse} {l1 : L1Client Wallet}
    {onChainRoot : Hash} (answers : host.Answers argument genesis info l1 onChainRoot)
    {start : State} (parsed : genesis.intoState = .ok start) :
    (∃ ctx, startUp host argument = .ok ctx) ↔ start.merkleRoot = onChainRoot := by
  constructor
  · rintro ⟨ctx, started⟩
    obtain ⟨other, otherStart, _, otherL1, others, otherParsed, -⟩ := startUp_ok.mp started
    have sameGenesis := Except.ok.inj (answers.loaded.symm.trans others.loaded)
    rw [← sameGenesis, parsed] at otherParsed
    obtain ⟨key, address, keySet, addressSet, connected⟩ := answers.connected
    obtain ⟨_, _, otherKey, otherAddress, otherConnected⟩ := others.connected
    rw [keySet] at otherKey
    rw [addressSet] at otherAddress
    cases otherKey
    cases otherAddress
    rw [connected] at otherConnected
    have read := answers.read
    rw [Except.ok.inj otherConnected, others.read] at read
    rw [Except.ok.inj otherParsed]
    exact Except.ok.inj read
  · intro sameRoot
    subst sameRoot
    exact ⟨_, startUp_ok.mpr ⟨genesis, start, info, l1, answers, parsed, rfl⟩⟩

end

/-! ## A genesis file

The reader of the JSON texts that occur here. -/

namespace HappyPath

def expect (token : String) (text : Bytes) : Option Bytes :=
  if utf8 token <+: text then some (text.drop (utf8 token).length) else none

def isDigit (byte : UInt8) : Bool :=
  0x30 ≤ byte ∧ byte ≤ 0x39

def readNumber (text : Bytes) : UInt64 :=
  (text.takeWhile isDigit).foldl (fun number digit => 10 * number + (digit - 0x30).toUInt64) 0

def readAccount (text : Bytes) : Option (GenesisAccount × Bytes) := do
  let text ← expect "\x7b\"address\":\"" text
  let address := text.takeWhile (· ≠ 0x22)
  let text ← expect "\",\"balance\":" (text.dropWhile (· ≠ 0x22))
  let balance := readNumber text
  let text ← expect ",\"nonce\":" (text.dropWhile isDigit)
  let nonce := readNumber text
  let text ← expect "\x7d" (text.dropWhile isDigit)
  return ({ address, balance, nonce }, text)

def readAccounts : Nat → Bytes → Option (List GenesisAccount)
  | 0, _ => none
  | fuel + 1, text => do
      let (account, rest) ← readAccount text
      match expect "," rest with
      | some more => return account :: (← readAccounts fuel more)
      | none => if rest = utf8 "]\x7d" then some [account] else none

/-- White space is skipped, and no text here has any inside a string. -/
def readGenesis (text : Bytes) : Except String Genesis :=
  let compact := text.filter fun byte => byte ≠ 0x20 ∧ byte ≠ 0x0A
  match expect "\x7b\"accounts\":[" compact >>= readAccounts compact.length with
  | some accounts => .ok { accounts }
  | none => .error "expected value"

/-- The genesis file of the test deployment. -/
def genesisJson : Bytes :=
  utf8 "\x7b \"accounts\": [
    \x7b \"address\": \"0x1a642f0e3c3af545e7acbd38b07251b3990914f1\",
      \"balance\": 1000, \"nonce\": 0 \x7d,
    \x7b \"address\": \"0x5050a4f4b3f9338c3472dcc01a87c76a144b3c9c\",
      \"balance\": 0, \"nonce\": 0 \x7d
  ] \x7d"

end HappyPath

end ZkRollup
