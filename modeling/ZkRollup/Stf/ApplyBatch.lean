import ZkRollup.Stf.Conservation

/-!
Contract: `apply_batch` is the replay of its transfers, together with three
digests; over a sorted state it is the abstract ledger.

Owns: the equation of `apply_batch`, when a ledger accepts a list of transfers,
and the refinement in both directions, error included.
-/

set_option autoImplicit false

namespace ZkRollup

open Foundation

section

variable [Primitives]

/-- The public values of a transition. -/
def PublicValues.ofTransition (prev : State) (batch : Batch) (next : State) : PublicValues :=
  { prevRoot := prev.merkleRoot, newRoot := next.merkleRoot, batchHash := batch.hash }

theorem applyBatch_eq (prev : State) (batch : Batch) :
    applyBatch prev batch =
      match prev.applyAll batch.txs with
      | .ok next => .ok ⟨next, .ofTransition prev batch next⟩
      | .error failure => .error failure := by
  unfold applyBatch
  rw [applyTx_realizes.forM]
  cases answer : replay State.apply prev batch.txs <;> simp only [answer, PublicValues.ofTransition]

theorem applyBatch_ok {prev : State} {batch : Batch} {output : ApplyOutput} :
    applyBatch prev batch = .ok output ↔
      prev.applyAll batch.txs = .ok output.newState ∧
        output.publicValues = .ofTransition prev batch output.newState := by
  rw [applyBatch_eq]
  cases prev.applyAll batch.txs with
  | error failure => simp
  | ok next =>
      simp only [Except.ok.injEq]
      constructor
      · intro same
        rw [← same]
        exact ⟨rfl, rfl⟩
      · intro same
        cases output
        rw [same.1, ← same.2]

theorem applyBatch_error {prev : State} {batch : Batch} {failure : StfError} :
    applyBatch prev batch = .error failure ↔ prev.applyAll batch.txs = .error failure := by
  rw [applyBatch_eq]
  cases prev.applyAll batch.txs <;> simp

theorem applyBatch_of_applyAll {prev next : State} {batch : Batch}
    (replayed : prev.applyAll batch.txs = .ok next) :
    applyBatch prev batch = .ok ⟨next, .ofTransition prev batch next⟩ :=
  applyBatch_ok.mpr ⟨replayed, rfl⟩

/-- The zkVM program panics exactly when `apply_batch` fails. -/
theorem programMain_committed {prev : State} {batch : Batch} {output : ApplyOutput}
    (accepted : applyBatch prev batch = .ok output) :
    programMain prev batch = .committed output.publicValues.abiEncode := by
  simp only [programMain, accepted]

/-! ## The ledger accepts a list of transfers -/

/-- Every transfer passes its checks after the ones before it. -/
def Ledger.AcceptsAll (ledger : Ledger) (txs : List Tx) : Prop :=
  ∀ before tx after, txs = before ++ tx :: after → (ledger.after before).Accepts tx

variable {state : State} {txs : List Tx}

theorem State.Sorted.acceptsAll_of_applyAll {final : State} (sorted : state.Sorted)
    (accepted : state.applyAll txs = .ok final) : state.ledger.AcceptsAll txs := by
  intro before tx after split
  rw [split] at accepted
  rcases replay_append_ok.mp accepted with ⟨middle, first, later⟩
  rcases replay_cons_ok.mp later with ⟨next, atTx, rest⟩
  rw [← sorted.applyAll_ledger first]
  exact (State.apply_ok.mp atTx).1

theorem State.Sorted.applyAll_iff (sorted : state.Sorted) :
    (∃ final, state.applyAll txs = .ok final) ↔ state.ledger.AcceptsAll txs := by
  constructor
  · intro accepted
    exact accepted.elim fun final replayed => sorted.acceptsAll_of_applyAll replayed
  · intro accepts
    cases answer : state.applyAll txs with
    | ok final => exact ⟨final, rfl⟩
    | error failure =>
        rcases replay_error_split answer with ⟨before, tx, after, split, replayed, failed⟩
        have passes := accepts before tx after split
        rw [← sorted.applyAll_ledger replayed, ← Ledger.failedCheck_eq_none,
          State.apply_error.mp failed] at passes
        cases passes

/-- The error is that of the first failing transfer. -/
theorem State.Sorted.applyAll_error_iff (sorted : state.Sorted) {failure : StfError} :
    state.applyAll txs = .error failure ↔
      ∃ before tx after, txs = before ++ tx :: after ∧ state.ledger.AcceptsAll before ∧
        (state.ledger.after before).failedCheck tx = some failure := by
  rw [replay_error_iff]
  constructor
  · rintro ⟨before, tx, after, middle, split, replayed, failed⟩
    have check := State.apply_error.mp failed
    rw [sorted.applyAll_ledger replayed] at check
    exact ⟨before, tx, after, split, sorted.acceptsAll_of_applyAll replayed, check⟩
  · rintro ⟨before, tx, after, split, accepts, failed⟩
    rcases sorted.applyAll_iff.mpr accepts with ⟨middle, replayed⟩
    rw [← sorted.applyAll_ledger replayed] at failed
    exact ⟨before, tx, after, middle, split, replayed, State.apply_error.mpr failed⟩

/-- An account that no transfer names keeps its entry. -/
theorem State.Sorted.applyAll_get_of_not_named {final : State} (sorted : state.Sorted)
    (accepted : state.applyAll txs = .ok final) {addr : Address}
    (unnamed : ∀ tx ∈ txs, addr ≠ tx.from ∧ addr ≠ tx.to) : final.get addr = state.get addr := by
  have noneSent : sentBy addr txs = [] := by
    apply List.filter_eq_nil_iff.mpr
    intro tx member
    simpa using (unnamed tx member).1.symm
  have noneReceived : receivedBy addr txs = [] := by
    apply List.filter_eq_nil_iff.mpr
    intro tx member
    simpa using (unnamed tx member).2.symm
  apply State.get_eq_of_ledger_eq
  calc final.ledger addr = state.ledger.after txs addr := by rw [sorted.applyAll_ledger accepted]
    _ = state.ledger.after [] addr := by
      simp only [Ledger.after, noneSent, noneReceived]
      rfl
    _ = state.ledger addr := by rw [State.ledger_after_nil]

/-- `apply_batch` refines the ledger: it succeeds on exactly the batches the
ledger accepts, moves the ledger by the batch, touches nothing else, and fails
with the first failed check of the first failing transfer. -/
theorem applyBatch_refines_ledger (prev : State) (batch : Batch) (sorted : prev.Sorted) :
    ((∃ output, applyBatch prev batch = .ok output) ↔ prev.ledger.AcceptsAll batch.txs) ∧
    (∀ output, applyBatch prev batch = .ok output →
      output.newState.ledger = prev.ledger.after batch.txs ∧
      (∀ addr, (∀ tx ∈ batch.txs, addr ≠ tx.from ∧ addr ≠ tx.to) →
        output.newState.get addr = prev.get addr) ∧
      output.newState.Sorted ∧
      ∀ addr, addr ∈ output.newState.addresses ↔
        addr ∈ prev.addresses ∨ ∃ tx ∈ batch.txs, addr = tx.from ∨ addr = tx.to) ∧
    ∀ failure, applyBatch prev batch = .error failure ↔
      ∃ before tx after, batch.txs = before ++ tx :: after ∧ prev.ledger.AcceptsAll before ∧
        (prev.ledger.after before).failedCheck tx = some failure := by
  refine ⟨?_, ?_, ?_⟩
  · rw [← sorted.applyAll_iff]
    constructor
    · rintro ⟨output, succeeded⟩
      exact ⟨output.newState, (applyBatch_ok.mp succeeded).1⟩
    · rintro ⟨final, replayed⟩
      exact ⟨_, applyBatch_of_applyAll replayed⟩
  · intro output succeeded
    have replayed := (applyBatch_ok.mp succeeded).1
    exact ⟨sorted.applyAll_ledger replayed,
      fun addr unnamed => sorted.applyAll_get_of_not_named replayed unnamed,
      sorted.applyAll replayed, sorted.mem_addresses_applyAll replayed⟩
  · intro failure
    rw [applyBatch_error]
    exact sorted.applyAll_error_iff

end

/-! ## The transfers of the demo

Alice pays bob twice, as `demo.rs` does on the genesis of the orchestrator, and bob
pays back most of it. -/

namespace DemoTransfers

open HappyPath (alice bob aliceKey bobKey)

def firstRS : FixedBytes 64 := .ofNat 64
  0x07b67b211c81da2607d0bde52f7bcc360f79123423ada123572f7ba2d77bfbe3237fe58ded50dce7566faa90064cacc8ce03c1149bb50d9b3bacd58f8fb79171

def secondRS : FixedBytes 64 := .ofNat 64
  0xf20f208f729240f3aa68ce23602431904e95f1b0da65f25d5f49d71c3c3ebe8c36fd2f1d189e8c77991545de8370a8f78d572b8607a0a257d85e245ff9d81441

def backRS : FixedBytes 64 := .ofNat 64
  0xbc13c38982d28a4769e104056989f701576bbd931ad203978315a521b9b341f660a68c7f0e1008e126cad5d30e6d655790728b2597e1f925adad21b4e6c4bb3d

def first : Tx where
  «from» := alice
  «to» := bob
  amount := 100
  nonce := 0
  signature := firstRS.bytes ++ [1]

def second : Tx where
  «from» := alice
  «to» := bob
  amount := 200
  nonce := 1
  signature := secondRS.bytes ++ [1]

/-- Bob has nothing but what he has just received. -/
def back : Tx where
  «from» := bob
  «to» := alice
  amount := 250
  nonce := 0
  signature := backRS.bytes ++ [0]

def genesis : State := ⟨[(alice, { balance := 1000000, nonce := 0 }), (bob, default)]⟩

def paidOnce : State :=
  ⟨[(alice, { balance := 999900, nonce := 1 }), (bob, { balance := 100, nonce := 0 })]⟩

def paid : State :=
  ⟨[(alice, { balance := 999700, nonce := 2 }), (bob, { balance := 300, nonce := 0 })]⟩

def paidBack : State :=
  ⟨[(alice, { balance := 999950, nonce := 2 }), (bob, { balance := 50, nonce := 1 })]⟩

def firstDigest : Hash := .ofNat 32
  0x926b9dfb80ebe32d7dcd0d96b1691cab32749237e126c9f6e1575bc35df7f7c1

def secondDigest : Hash := .ofNat 32
  0x82b64ee4acaba078712eb8da5f6c7e59c296044d79f5da2a372f2b4f5304ad78

def backDigest : Hash := .ofNat 32
  0xe1e5a5e47d75bdd93055ffc16dba5e8ed0bf3634f2d84e48a9ed625b5ae74dca

def firstFull : Hash := .ofNat 32
  0x56e63ec0cbc6b1ab9c6d813198b4ffbd6636fb0a7687b9ce802be8d2e40c5f36

def secondFull : Hash := .ofNat 32
  0x61c6723df5609cceabc7921a478acfdfa6ea233257e01c118d4a02254d323fe9

def backFull : Hash := .ofNat 32
  0xd1be01be9dce3afcf063d7db55182a3fb82ddec1003ac8cefa151e420ffc0798

scoped instance primitives : Primitives :=
  .ofTables
    [(first.signingPayload, firstDigest), (second.signingPayload, secondDigest),
      (back.signingPayload, backDigest),
      (aliceKey.bytes.drop 1,
        .ofNat 32 0xb8a0722ae6cb48cde0b4ae1f1a642f0e3c3af545e7acbd38b07251b3990914f1),
      (bobKey.bytes.drop 1,
        .ofNat 32 0xa95905f8dab9c277715d6fd05050a4f4b3f9338c3472dcc01a87c76a144b3c9c),
      (first.fullPayload, firstFull), (second.fullPayload, secondFull),
      (back.fullPayload, backFull),
      (firstFull.bytes ++ secondFull.bytes,
        .ofNat 32 0x4422e5e23093ef1c2ae3b6b3091cdb495b7b15325fc08f8c1fcace95673b187e),
      (firstFull.bytes ++ secondFull.bytes ++ backFull.bytes,
        .ofNat 32 0xf865b22d5cc686b0441bd5d85f773667cdc841f7db1131800ef0bbdaaed7fb3e),
      (genesis.rootPreimage,
        .ofNat 32 0x6534db144ee3874394943fb65403cc08a2e7448b52b31d48005975608edf3b43),
      (paidOnce.rootPreimage,
        .ofNat 32 0xe292bbab7752dc1e19338f1fbe3465ff298d9f7c27df62c02de0b79364a26456),
      (paid.rootPreimage,
        .ofNat 32 0xa489ecfd871635096ce8b2a6a9263fdedb5a11b41da031693f671b6263da2dec),
      (paidBack.rootPreimage,
        .ofNat 32 0x30acec34ddb4f32ed4ea11620f7ef0d9742b1a967d91d41d272ed52c023bdf1f)]
    [((firstDigest, firstRS, 1), aliceKey), ((secondDigest, secondRS, 1), aliceKey),
      ((backDigest, backRS, 0), bobKey)]

end DemoTransfers

open DemoTransfers in
theorem applyBatch_refines_ledger_demo :
    ∃ output, applyBatch genesis ⟨[first, second, back]⟩ = .ok output ∧
      output.newState.ledger = genesis.ledger.after [first, second, back] := by
  have refines := applyBatch_refines_ledger genesis ⟨[first, second, back]⟩ (by decide +kernel)
  have succeeds : applyBatch genesis ⟨[first, second, back]⟩ =
      .ok ⟨paidBack, .ofTransition genesis ⟨[first, second, back]⟩ paidBack⟩ := by
    decide +kernel
  exact ⟨_, succeeds, (refines.2.1 _ succeeds).1⟩

end ZkRollup
