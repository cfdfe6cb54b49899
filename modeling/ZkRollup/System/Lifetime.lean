import ZkRollup.Sequencer.Startup
import ZkRollup.System.Agreement

/-!
Contract: the deployment over the starts of its sequencer.

All of the sequencer's state is in memory. A restart forgets the mempool, the
requests and the counter, and reads the state from the genesis file again; the
contract keeps its root. A process that is down takes no steps, and a call that
the old process has left with the L1 is for the new one a call like anybody
else's.

The check of the roots at the start is what holds the epochs together: behind it
the file describes the ledger, so the log of the settlements goes on where the
last epoch has left it.

Owns: the simulation of a lifetime by one log, and the condition for a restart.
-/

set_option autoImplicit false

namespace ZkRollup

open Foundation

/-- What was settled while one process ran. -/
structure Epoch where
  start : State
  settlements : List (State × Batch)

/-- The running process, the state of the file it was started with, and the
epochs before it. -/
structure Lifetime where
  past : List Epoch
  start : State
  system : System

inductive LifeEvent (Wallet Url : Type) where
  | event (event : Event)
  /-- The process is stopped and started again. -/
  | restart (host : Host Wallet Url) (argument : Option Bytes)

section

variable {Wallet Url : Type}

namespace Lifetime

/-- The settlements of all epochs, in their order. -/
def settlements (life : Lifetime) : List (State × Batch) :=
  life.past.flatMap Epoch.settlements ++ life.system.settlements

def settledBatches (life : Lifetime) : List Batch :=
  nonemptyBatches life.settlements

/-- The batches the genesis file of the running process accounts for, and the
ones it has committed itself. -/
def committedBatches (life : Lifetime) : List Batch :=
  nonemptyBatches (life.past.flatMap Epoch.settlements) ++ life.system.committedBatches

variable [Primitives]

def initial (start : State) (rollup : Rollup) : Lifetime where
  past := []
  start := start
  system := .initial start rollup

def step (life : Lifetime) : LifeEvent Wallet Url → Option Lifetime
  | .event event => do
      let system ← life.system.step event
      return { life with system }
  | .restart host argument =>
      match startUp host argument with
      | .error _ => none
      | .ok ctx =>
          some {
            past := life.past ++ [{ start := life.start, settlements := life.system.settlements }]
            start := ctx.state.canonicalState
            system := { System.initial ctx.state.canonicalState life.system.rollup with
              sequencer := ctx.state } }

/-- A restart reads the root of this contract. -/
def Honest (life : Lifetime) : LifeEvent Wallet Url → Prop
  | .event event => life.system.Honest event
  | .restart host argument =>
      ∀ ctx root, startUp host argument = .ok ctx → ctx.l1.stateRoot host = .ok root →
        root = life.system.rollup.stateRoot

/-- The preimages of the roots of all epochs. -/
def hashed (life : Lifetime) : List Bytes :=
  life.past.flatMap (fun epoch => epoch.start.rootPreimage ::
      epoch.settlements.flatMap fun settlement => rootPreimages settlement.1 settlement.2) ++
    life.system.hashed life.start

structure Sane (life : Lifetime) : Prop where
  free : CollisionFree keccak256 life.hashed
  room : ∀ settlement ∈ life.settlements, ∀ tx ∈ settlement.2.txs, tx.NonceRoom

variable {first ledger : State} {life next : Lifetime}

theorem Sane.current (sane : life.Sane) : life.system.Sane life.start where
  free := sane.free.mono (List.subset_append_right _ _)
  room := fun settlement member => sane.room settlement (List.mem_append_right _ member)

/-! ## Steps -/

theorem step_event {event : Event} :
    life.step (.event event : LifeEvent Wallet Url) = some next ↔
      ∃ system, life.system.step event = some system ∧ next = { life with system } := by
  cases moved : life.system.step event with
  | none => simp [step, moved]
  | some system => simp [step, moved, eq_comm]

/-- A restart closes the epoch and begins one at the state of the file. -/
theorem step_restart {host : Host Wallet Url} {argument : Option Bytes} :
    life.step (.restart host argument) = some next ↔
      ∃ genesis start info l1, host.Answers argument genesis info l1 start.merkleRoot ∧
        genesis.intoState = .ok start ∧
        next = {
          past := life.past ++ [{ start := life.start, settlements := life.system.settlements }]
          start
          system := .initial start life.system.rollup } := by
  constructor
  · intro stepped
    cases started : startUp host argument with
    | error failure => simp [step, started] at stepped
    | ok ctx =>
        obtain ⟨genesis, start, info, l1, answers, parsed, rfl⟩ := startUp_ok.mp started
        simp only [step, started, Option.some.injEq] at stepped
        exact ⟨genesis, start, info, l1, answers, parsed, stepped.symm⟩
  · rintro ⟨genesis, start, info, l1, answers, parsed, rfl⟩
    have started := startUp_ok.mpr ⟨genesis, start, info, l1, answers, parsed, rfl⟩
    simp only [step, started]
    rfl

theorem step_restart_keeps {host : Host Wallet Url} {argument : Option Bytes}
    (stepped : life.step (.restart host argument) = some next) :
    next.settlements = life.settlements ∧
      next.hashed = life.hashed ++ [next.start.rootPreimage] := by
  obtain ⟨_, start, _, _, -, -, rfl⟩ := step_restart.mp stepped
  simp [settlements, hashed, System.hashed, System.initial]

theorem Sane.inherited (life : Lifetime) (event : LifeEvent Wallet Url) (next : Lifetime)
    (stepped : life.step event = some next) (sane : next.Sane) : life.Sane := by
  cases event with
  | event event =>
      obtain ⟨system, moved, rfl⟩ := step_event.mp stepped
      obtain ⟨more, grown⟩ := System.settlements_grow moved
      constructor
      · apply sane.free.mono
        intro input member
        simp only [hashed, System.hashed, grown, List.flatMap_append, List.mem_append,
          List.mem_cons] at member ⊢
        tauto
      · intro settlement member
        refine sane.room settlement ?_
        simp only [settlements, grown, List.mem_append] at member ⊢
        tauto
  | restart host argument =>
      obtain ⟨sameSettlements, grown⟩ := step_restart_keeps stepped
      constructor
      · exact sane.free.mono (grown ▸ List.subset_append_left _ _)
      · rw [← sameSettlements]
        exact sane.room

/-! ## The invariant -/

/-- The file of the running process accounts for the epochs before it. -/
structure Agrees (first ledger : State) (life : Lifetime) : Prop where
  current : life.system.Agrees life.start ledger
  follower : ∃ follower, life.system.Follows follower
  sorted : life.start.Sorted
  accounted : first.applyAll (batchTxs (nonemptyBatches (life.past.flatMap Epoch.settlements))) =
    .ok life.start

theorem Agrees.initial (sorted : first.Sorted) {rollup : Rollup}
    (sameRoot : rollup.stateRoot = first.merkleRoot) :
    (Lifetime.initial first rollup).Agrees first first where
  current := .initial sorted sameRoot
  follower := ⟨.fresh, rfl, rfl⟩
  sorted := sorted
  accounted := rfl

theorem Agrees.replayed (agrees : life.Agrees first ledger) :
    first.applyAll (batchTxs life.settledBatches) = .ok ledger := by
  unfold settledBatches settlements
  rw [nonemptyBatches_append, batchTxs_append]
  exact replay_append_ok.mpr ⟨_, agrees.accounted, agrees.current.chained.replayed⟩

/-- The check of the roots admits no file but that of the ledger. -/
theorem Agrees.restart (agrees : life.Agrees first ledger) {host : Host Wallet Url}
    {argument : Option Bytes} (honest : life.Honest (.restart host argument))
    (stepped : life.step (.restart host argument) = some next) (sane : next.Sane) :
    next.start = ledger ∧ next.Agrees first ledger := by
  obtain ⟨sameSettlements, grown⟩ := step_restart_keeps stepped
  obtain ⟨genesis, start, info, l1, answers, parsed, rfl⟩ := step_restart.mp stepped
  have started := startUp_ok.mpr ⟨genesis, start, info, l1, answers, parsed, rfl⟩
  have sameRoot := honest _ _ started answers.read
  have tracked := agrees.current.aligned.tracks.root
  have same : start = ledger := by
    refine State.eq_of_merkleRoot_eq sane.free ?_ ?_ (sameRoot.trans tracked)
    · simp [grown]
    · rw [grown]
      simp [hashed, agrees.current.aligned.ledgerHashed]
  subst same
  have sorted := Genesis.intoState_sorted parsed
  refine ⟨rfl, .initial sorted tracked, ⟨.fresh, rfl, rfl⟩, sorted, ?_⟩
  have replayed := agrees.replayed
  unfold settledBatches at replayed
  rw [← sameSettlements] at replayed
  simpa [settlements, System.initial] using replayed

theorem Agrees.step (agrees : life.Agrees first ledger) {event : LifeEvent Wallet Url}
    (honest : life.Honest event) (stepped : life.step event = some next) (sane : next.Sane) :
    ∃ advanced, next.Agrees first advanced := by
  cases event with
  | event event =>
      have before := Sane.inherited life _ next stepped sane
      obtain ⟨system, moved, rfl⟩ := step_event.mp stepped
      obtain ⟨advanced, current⟩ := agrees.current.step honest moved sane.current
      obtain ⟨follower, follows⟩ := agrees.follower
      obtain ⟨later, -, followsAfter⟩ := follows.step agrees.current.chained
        agrees.current.aligned agrees.current.logged agrees.sorted before.current moved
      exact ⟨advanced, current, ⟨later, followsAfter⟩, agrees.sorted, agrees.accounted⟩
  | restart host argument => exact ⟨ledger, (agrees.restart honest stepped sane).2⟩

theorem agrees_of_run (sorted : first.Sorted) {rollup : Rollup}
    (sameRoot : rollup.stateRoot = first.merkleRoot)
    (run : Run (@Lifetime.step Wallet Url _) Lifetime.Honest
      (Lifetime.initial first rollup) life) (sane : life.Sane) :
    ∃ ledger, life.Agrees first ledger := by
  refine run.invariant (motive := fun reached => ∃ ledger, reached.Agrees first ledger)
    Sane.inherited ⟨first, .initial sorted sameRoot⟩ ?_ sane
  rintro reached event after ⟨ledger, agrees⟩ honest stepped sane
  exact agrees.step honest stepped sane

/-- What the running process has committed is a prefix of all settlements. -/
theorem Agrees.committed_prefix (agrees : life.Agrees first ledger) :
    life.committedBatches <+: life.settledBatches := by
  obtain ⟨follower, follows⟩ := agrees.follower
  have inLog := follower.taken_prefix
  rw [follows.log, follows.taken] at inLog
  unfold committedBatches settledBatches settlements
  rw [nonemptyBatches_append]
  exact (List.prefix_append_right_inj _).mpr inLog

theorem Agrees.canonical (agrees : life.Agrees first ledger) :
    first.applyAll (batchTxs life.committedBatches) = .ok life.system.sequencer.canonicalState := by
  unfold committedBatches
  rw [batchTxs_append, batchTxs_committedBatches]
  exact replay_append_ok.mpr ⟨_, agrees.accounted, agrees.current.logged.chain⟩

theorem Sane.room_batches (sane : life.Sane) : ∀ tx ∈ batchTxs life.settledBatches, tx.NonceRoom := by
  intro tx member
  obtain ⟨batch, settled, inBatch⟩ := List.mem_flatMap.mp member
  obtain ⟨settlement, recorded, rfl⟩ := List.mem_map.mp (List.mem_filter.mp settled).1
  exact sane.room settlement recorded tx inBatch

/-- A run of one process. -/
theorem run_of_system {system : System} (run : Run System.step System.Honest life.system system) :
    Run (@Lifetime.step Wallet Url _) Lifetime.Honest life
      { life with system } := by
  refine Relation.ReflTransGen.lift (fun system => { life with system }) ?_ _ _ run
  rintro before after ⟨event, honest, stepped⟩
  exact ⟨.event event, honest, step_event.mpr ⟨after, stepped, rfl⟩⟩

end Lifetime

variable [Primitives]

/-- Over all restarts the settlements are one log. Its transfers are signed and
spend no nonce twice, it conserves the funds of the first genesis, and the
sequencer stands at a prefix of it which contains everything that was settled
before its last start. -/
theorem restarts_continue_the_log (genesis : Genesis) (first : State)
    (loaded : genesis.intoState = .ok first) (rollup : Rollup)
    (sameRoot : rollup.stateRoot = first.merkleRoot) (life : Lifetime)
    (run : Run (@Lifetime.step Wallet Url _) Lifetime.Honest
      (Lifetime.initial first rollup) life) (sane : life.Sane) :
    ∃ ledger, first.applyAll (batchTxs life.settledBatches) = .ok ledger ∧
      life.system.rollup.stateRoot = ledger.merkleRoot ∧ ledger.total = first.total ∧
      ((batchTxs life.settledBatches).map fun tx => (tx.from, tx.nonce)).Nodup ∧
      (∀ tx ∈ batchTxs life.settledBatches, tx.AuthorisedBy tx.from) ∧
      life.committedBatches <+: life.settledBatches ∧
      first.applyAll (batchTxs life.committedBatches) =
        .ok life.system.sequencer.canonicalState := by
  have sorted := Genesis.intoState_sorted loaded
  obtain ⟨ledger, agrees⟩ := Lifetime.agrees_of_run sorted sameRoot run sane
  have replayed := agrees.replayed
  exact ⟨ledger, replayed, agrees.current.aligned.tracks.root, sorted.applyAll_total replayed,
    sorted.sender_nonces_nodup sane.room_batches replayed, authorised_of_applyAll replayed,
    agrees.committed_prefix, agrees.canonical⟩

/-- When everything the start asks for is in place, the sequencer starts on a file
if and only if the file describes the ledger, up to a collision with the state that
it describes instead. The file of the deployment does as long as nothing was
settled, and one with an address that does not parse never does. The calls that the old process
has left with the L1 are sound calls for the new one. -/
theorem restart_iff (genesis : Genesis) (first : State)
    (loaded : genesis.intoState = .ok first) (rollup : Rollup)
    (sameRoot : rollup.stateRoot = first.merkleRoot) (life : Lifetime)
    (run : Run (@Lifetime.step Wallet Url _) Lifetime.Honest
      (Lifetime.initial first rollup) life) (sane : life.Sane) :
    ∃ ledger, first.applyAll (batchTxs life.settledBatches) = .ok ledger ∧
      (∀ (host : Host Wallet Url) argument file info l1,
        host.Answers argument file info l1 life.system.rollup.stateRoot →
        ((∃ ctx, startUp host argument = .ok ctx) ↔ file.intoState = .ok ledger) ∨
          ∃ state, file.intoState = .ok state ∧
            Collision keccak256 [state.rootPreimage, ledger.rootPreimage]) ∧
      (first = ledger ↔ life.settledBatches = []) ∧
      ∀ request ∈ life.system.requests, ∀ submission, request.l1 = .pending submission →
        ∀ verifyProof, SettleCall.Sound life.system.rollup.programVKey {
          verifyProof, publicValues := submission.publicValues, proofBytes := submission.proof
          prevState := request.prevState, batch := request.batch } := by
  have sorted := Genesis.intoState_sorted loaded
  obtain ⟨ledger, agrees⟩ := Lifetime.agrees_of_run sorted sameRoot run sane
  have replayed := agrees.replayed
  refine ⟨ledger, replayed, ?_, ?_, ?_⟩
  · intro host argument file info l1 answers
    cases parsed : file.intoState with
    | error failure =>
        refine Or.inl ⟨?_, fun same => by cases same⟩
        rintro ⟨ctx, started⟩
        obtain ⟨state, built⟩ := answers.parsed_of_started started
        rw [parsed] at built
        cases built
    | ok state =>
        have decides : ((∃ ctx, startUp host argument = .ok ctx) ↔ state = ledger) ∨
            Collision keccak256 [state.rootPreimage, ledger.rootPreimage] := by
          refine or_collision fun free => ?_
          rw [answers.startUp_iff parsed, agrees.current.aligned.tracks.root]
          constructor
          · intro equalRoots
            exact State.eq_of_merkleRoot_eq free (by simp) (by simp) equalRoots
          · intro same
            rw [same]
        rw [Except.ok.injEq]
        exact decides.imp_right fun collision => ⟨state, rfl, collision⟩
  · constructor
    · rintro rfl
      have counted := sorted.applyAll_nonceSum sane.room_batches replayed
      have none : batchTxs life.settledBatches = [] := List.length_eq_zero_iff.mp (by omega)
      refine List.eq_nil_iff_forall_not_mem.mpr fun batch member => ?_
      have positive := length_pos_of_mem_nonemptyBatches member
      rw [List.length_pos_iff] at positive
      exact positive (List.flatMap_eq_nil_iff.mp none batch member)
    · intro nothing
      rw [nothing] at replayed
      exact Except.ok.inj replayed
  · intro request member submission standing verifyProof accepted
    exact ((agrees.current.aligned.requests request member).pending submission standing).programMain

end

namespace HappyPath

/-- The genesis file brought up to the settled transfer. -/
def refreshedFile : Genesis where
  accounts := [
    { address := [0x30, 0x78] ++ Hex.encode alice.bytes, balance := 750, nonce := 1 },
    { address := [0x30, 0x78] ++ Hex.encode bob.bytes, balance := 250 }]

def rollupAddress : FixedBytes 20 := .ofNat 20 0x5fbdb2315678afecb367f032d93f642f64180aa3

def privateKey : Bytes :=
  utf8 "0xac0974bec39a17e36ba4a6b4d238ff944bacb478cbed5efcae784d7bf4f2ff80"

def environment (key : String) : Option Bytes :=
  if key = "DEPLOYER_PRIVATE_KEY" then some privateKey
  else if key = "ROLLUP_ADDRESS" then some (hex0x rollupAddress.bytes)
  else none

def refreshedJson : Bytes :=
  utf8 "\x7b \"accounts\": [
    \x7b \"address\": \"0x1a642f0e3c3af545e7acbd38b07251b3990914f1\",
      \"balance\": 750, \"nonce\": 1 \x7d,
    \x7b \"address\": \"0x5050a4f4b3f9338c3472dcc01a87c76a144b3c9c\",
      \"balance\": 250, \"nonce\": 0 \x7d
  ] \x7d"

/-- An address that is one digit short. -/
def brokenJson : Bytes :=
  utf8 "\x7b \"accounts\": [
    \x7b \"address\": \"0x1a642f0e3c3af545e7acbd38b07251b3990914f\",
      \"balance\": 750, \"nonce\": 1 \x7d
  ] \x7d"

def brokenFile : Genesis where
  accounts := [{
    address := utf8 "0x1a642f0e3c3af545e7acbd38b07251b3990914f", balance := 750, nonce := 1 }]

/-- Everything is in place behind the settlement; `json` is what the genesis path
holds. -/
def host (json : Bytes) : Host Unit Unit where
  environment := environment
  readFile path :=
    if path = utf8 "./genesis.json" then .ok json else .error "No such file or directory"
  parseGenesis := readGenesis
  getInfo _ := .ok { mode := utf8 "mock", vkey := hex0x deployed.programVKey.bytes }
  parseSigner _ := .ok ()
  parseAddress _ := .ok rollupAddress
  parseUrl _ := .ok ()
  callStateRoot _ _ := .ok deployedAfter.stateRoot

def l1 : L1Client Unit where
  rollupAddress := rollupAddress
  rpcUrl := utf8 "http://localhost:8545"
  wallet := ()

theorem environment_set :
    envVar (environment "DEPLOYER_PRIVATE_KEY") = .ok privateKey ∧
      envVar (environment "ROLLUP_ADDRESS") = .ok (hex0x rollupAddress.bytes) := by
  decide +kernel

theorem host_answers {json : Bytes} {file : Genesis} (parsed : readGenesis json = .ok file) :
    (host json).Answers none file
      { mode := utf8 "mock", vkey := hex0x deployed.programVKey.bytes } l1
      deployedAfter.stateRoot where
  loaded := by
    have path : genesisPath (host json) none = utf8 "./genesis.json" := rfl
    have held : (host json).readFile (utf8 "./genesis.json") = .ok json := by simp [host]
    have reads : (host json).parseGenesis json = .ok file := parsed
    rw [path, Genesis.load, held]
    show ((host json).parseGenesis json).mapError _ = .ok file
    rw [reads]
    rfl
  told := rfl
  connected := ⟨privateKey, _, environment_set.1, environment_set.2, by
    have unset : (host json).var "L1_RPC_URL" = .error .notPresent := rfl
    rw [unset]
    rfl⟩
  read := rfl

/-- The process is started again behind the settlement, without the receipt. -/
def restarted : Lifetime where
  past := [{ start := genesis, settlements := executed.settlements }]
  start := settled
  system := .initial settled deployedAfter

theorem run_executed_life : Run (@Lifetime.step Unit Unit _) Lifetime.Honest
    (Lifetime.initial genesis deployed) { Lifetime.initial genesis deployed with system := executed } :=
  Lifetime.run_of_system (run_executed trivial trivial honest_reply trivial trivial)

theorem run_restarted : Run (@Lifetime.step Unit Unit _) Lifetime.Honest
    (Lifetime.initial genesis deployed) restarted := by
  refine run_executed_life.tail ⟨.restart (host refreshedJson) none, ?_, ?_⟩
  · intro ctx root _ read
    exact (Except.ok.inj read).symm
  · exact Lifetime.step_restart.mpr ⟨refreshedFile, settled, _, l1,
      host_answers (by decide +kernel), by decide +kernel, rfl⟩

end HappyPath

open HappyPath in
theorem restarts_continue_the_log_happyPath :
    restarted.system.sequencer.canonicalState = settled ∧
      ∃ ledger : State, restarted.system.rollup.stateRoot = ledger.merkleRoot ∧
        ledger.total = genesis.total := by
  obtain ⟨ledger, -, root, total, -⟩ := restarts_continue_the_log genesisFile genesis
    (by decide +kernel) deployed rfl restarted run_restarted
    { free := by decide +kernel, room := by decide +kernel }
  exact ⟨rfl, ledger, root, total⟩

open HappyPath in
/-- Behind the settlement the sequencer takes the file that describes the ledger, and
none with an address that does not parse. -/
theorem restart_iff_happyPath : ∃ ledger : State,
    genesis.applyAll [transfer] = .ok ledger ∧
    (((∃ ctx, startUp (host genesisJson) none = .ok ctx) ↔ genesis = ledger) ∨
      Collision keccak256 [genesis.rootPreimage, ledger.rootPreimage]) ∧
    ¬ ∃ ctx, startUp (host brokenJson) none = .ok ctx := by
  obtain ⟨ledger, replayed, decides, -⟩ := @restart_iff Unit Unit _ genesisFile genesis
    (by decide +kernel) deployed rfl _ run_executed_life
    { free := by decide +kernel, room := by decide +kernel }
  have built : genesisFile.intoState = .ok genesis := by decide +kernel
  have broken : ∀ state, brokenFile.intoState ≠ .ok state := by
    have fails : ∃ failure, brokenFile.intoState = .error failure := ⟨_, rfl⟩
    obtain ⟨failure, fails⟩ := fails
    rw [fails]
    exact nofun
  refine ⟨ledger, replayed, ?_, ?_⟩
  · rcases decides (host genesisJson) none genesisFile _ l1 (host_answers (by decide +kernel)) with
      agree | ⟨state, parsed, collision⟩
    · rw [built, Except.ok.injEq] at agree
      exact Or.inl agree
    · rw [built] at parsed
      cases parsed
      exact Or.inr collision
  · rcases decides (host brokenJson) none brokenFile _ l1 (host_answers (by decide +kernel)) with
      agree | ⟨state, parsed, -⟩
    · exact fun started => broken ledger (agree.mp started)
    · exact absurd parsed (broken state)

end ZkRollup
