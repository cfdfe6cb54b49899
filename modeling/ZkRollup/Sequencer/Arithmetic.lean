import ZkRollup.Sequencer.Conservation
import ZkRollup.Stf.Authorization

/-!
Contract: the three updates of `apply_tx`, as machine arithmetic.

The debit is guarded by a comparison and the credit by `checked_add`; neither
leaves the range, in any state. The nonce increment is not guarded. It wraps on
the last nonce, which a genesis file may contain from the start, and on no other.
-/

set_option autoImplicit false

namespace ZkRollup

open Foundation

/-- Accepted transfers lead from one state to the other. -/
def State.Reached [Primitives] (start state : State) : Prop :=
  ∃ txs, start.applyAll txs = .ok state

/-- All three updates are those of the natural numbers. -/
structure Tx.Exact (tx : Tx) (state next : State) : Prop where
  debit : (next.get tx.from).balance.toNat + tx.amount.toNat = (state.get tx.from).balance.toNat
  credit : (next.get tx.to).balance.toNat = (state.get tx.to).balance.toNat + tx.amount.toNat
  nonce : (next.get tx.from).nonce.toNat = (state.get tx.from).nonce.toNat + 1

/-- No step of a run lowers a nonce. -/
def State.NoncesMonotone [Primitives] (start : State) (txs : List Tx) : Prop :=
  ∀ before tx after state next, txs = before ++ tx :: after →
    start.applyAll before = .ok state → state.apply tx = .ok next →
    ∀ addr, (state.get addr).nonce.toNat ≤ (next.get addr).nonce.toNat

section

variable [Primitives] {state next : State} {tx : Tx}

theorem State.Reached.apply {start : State} (state : State) (tx : Tx) (next : State)
    (reached : start.Reached state) (accepted : state.apply tx = .ok next) : start.Reached next := by
  obtain ⟨txs, replayed⟩ := reached
  exact ⟨txs ++ [tx], replay_append_ok.mpr ⟨state, replayed, (replay_singleton _ _).trans accepted⟩⟩

theorem State.Reached.sorted {start : State} (reached : start.Reached state)
    (sorted : start.Sorted) : state.Sorted :=
  reached.elim fun _ replayed => sorted.applyAll replayed

/-- Both layers of the sequencer are states that transfers have reached, whatever
operations have run or failed. -/
theorem SequencerState.layers_reached (start : State) (operations : List Operation) :
    ((fromGenesis start).afterOperations operations).Layers start.Reached := by
  have initial : (fromGenesis start).Layers start.Reached :=
    { canonical := ⟨[], rfl⟩, speculative := ⟨[], rfl⟩ }
  exact initial.afterOperations State.Reached.apply operations

/-- The balances never leave the range. -/
theorem State.Sorted.apply_balances (sorted : state.Sorted) (accepted : state.apply tx = .ok next) :
    (next.get tx.from).balance.toNat + tx.amount.toNat = (state.get tx.from).balance.toNat ∧
      (next.get tx.to).balance.toNat = (state.get tx.to).balance.toNat + tx.amount.toNat := by
  have distinct := (State.apply_ok.mp accepted).1.distinct
  have atSender := (sorted.apply_account_wrapping accepted tx.from).2
  have atRecipient := (sorted.apply_account_wrapping accepted tx.to).2
  rw [if_pos rfl, if_neg distinct.symm] at atSender
  rw [if_neg distinct, if_pos rfl] at atRecipient
  exact ⟨atSender, atRecipient⟩

/-- An accepted transfer carries the nonce that it increments. -/
theorem State.Sorted.apply_nonce (sorted : state.Sorted) (accepted : state.apply tx = .ok next) :
    (state.get tx.from).nonce.toNat = tx.nonce.toNat ∧
      (next.get tx.from).nonce.toNat = (tx.nonce.toNat + 1) % 2 ^ 64 := by
  have increment := (sorted.apply_account_wrapping accepted tx.from).1
  have current : tx.nonce.toNat = (state.get tx.from).nonce.toNat :=
    (State.apply_ok.mp accepted).1.nonce
  rw [if_pos rfl, ← current] at increment
  exact ⟨current.symm, increment⟩

/-- The increment is exact on every nonce but the last. -/
theorem State.Sorted.exact_iff (sorted : state.Sorted) (accepted : state.apply tx = .ok next) :
    tx.Exact state next ↔ tx.NonceRoom := by
  have balances := sorted.apply_balances accepted
  have nonces := sorted.apply_nonce accepted
  have small := tx.nonce.toNat_lt
  unfold Tx.NonceRoom
  constructor
  · intro exact
    have nonce := exact.nonce
    omega
  · intro room
    exact {
      debit := balances.1
      credit := balances.2
      nonce := by omega }

/-- A step lowers a nonce exactly if it is the last one. -/
theorem State.Sorted.nonces_le_iff (sorted : state.Sorted) (accepted : state.apply tx = .ok next) :
    (∀ addr, (state.get addr).nonce.toNat ≤ (next.get addr).nonce.toNat) ↔ tx.NonceRoom := by
  constructor
  · intro grows
    have atLeast := grows tx.from
    have nonces := sorted.apply_nonce accepted
    have small := tx.nonce.toNat_lt
    unfold Tx.NonceRoom
    omega
  · intro room addr
    rw [(sorted.apply_account accepted room addr).1]
    exact Nat.le_add_right _ _

theorem State.Sorted.noncesMonotone_iff {start final : State} {txs : List Tx}
    (sorted : start.Sorted) (ran : start.applyAll txs = .ok final) :
    start.NoncesMonotone txs ↔ ∀ tx ∈ txs, tx.NonceRoom := by
  constructor
  · intro monotone tx member
    obtain ⟨before, after, split⟩ := List.append_of_mem member
    rw [split] at ran
    obtain ⟨state, reached, later⟩ := replay_append_ok.mp ran
    obtain ⟨next, accepted, -⟩ := replay_cons_ok.mp later
    exact ((sorted.applyAll reached).nonces_le_iff accepted).mp
      (monotone before tx after state next split reached accepted)
  · intro room before tx after state next split reached accepted
    exact ((sorted.applyAll reached).nonces_le_iff accepted).mpr (room tx (by rw [split]; simp))

/-- In every state that transfers reach from any genesis, both layers of the
sequencer included: an accepted transfer moves balances exactly, and its nonce
unless it carries `u64::MAX`. Along a run no nonce decreases exactly if no
transfer of the run carries that nonce. -/
theorem arithmetic_exact_iff (genesis : Genesis) (start : State)
    (loaded : genesis.intoState = .ok start) :
    (∀ state, start.Reached state → ∀ tx next, state.apply tx = .ok next →
      ((next.get tx.from).balance.toNat + tx.amount.toNat = (state.get tx.from).balance.toNat ∧
        (next.get tx.to).balance.toNat = (state.get tx.to).balance.toNat + tx.amount.toNat) ∧
      (tx.Exact state next ↔ (state.get tx.from).nonce.toNat < 2 ^ 64 - 1)) ∧
    (∀ operations,
      ((SequencerState.fromGenesis start).afterOperations operations).Layers start.Reached) ∧
    ∀ txs final, start.applyAll txs = .ok final →
      (start.NoncesMonotone txs ↔ ∀ tx ∈ txs, tx.nonce.toNat < 2 ^ 64 - 1) := by
  have sorted := Genesis.intoState_sorted loaded
  have roomIff : ∀ tx : Tx, tx.NonceRoom ↔ tx.nonce.toNat < 2 ^ 64 - 1 := by
    intro tx
    unfold Tx.NonceRoom
    omega
  refine ⟨?_, SequencerState.layers_reached start, ?_⟩
  · intro state reached tx next accepted
    have stateSorted := reached.sorted sorted
    rw [stateSorted.exact_iff accepted, roomIff, (stateSorted.apply_nonce accepted).1]
    exact ⟨stateSorted.apply_balances accepted, Iff.rfl⟩
  · intro txs final ran
    rw [sorted.noncesMonotone_iff ran]
    exact forall₂_congr fun tx member => roomIff tx

end

/-! ## The last nonce -/

namespace LastNonce

open HappyPath (alice bob aliceKey)

def lastRS : FixedBytes 64 := .ofNat 64
  0x75025b36c7ecd3eccd547553a66b5257052cd77f28b40c38f7619928e5cfdbf868fbf5c72049c0e89e1e756999b764c1a58c0b05eac0c5b46c9c30505c0afdca

/-- Signed by the wallet of seed 1. -/
def lastTransfer : Tx where
  «from» := alice
  «to» := bob
  amount := 250
  nonce := 0xffffffffffffffff
  signature := lastRS.bytes ++ [1]

def lastDigest : Hash := .ofNat 32
  0x787724e67b3d2a39e8935da2ce4094b1ff029896313493da306703e45e3dfcb6

scoped instance primitives : Primitives :=
  .ofTables
    [(lastTransfer.signingPayload, lastDigest),
      (aliceKey.bytes.drop 1,
        .ofNat 32 0xb8a0722ae6cb48cde0b4ae1f1a642f0e3c3af545e7acbd38b07251b3990914f1)]
    [((lastDigest, lastRS, 1), aliceKey)]

def lastGenesis : Genesis where
  accounts := [{
    address := [0x30, 0x78] ++ Hex.encode alice.bytes
    balance := 1000
    nonce := 0xffffffffffffffff }]

def lastStart : State :=
  ⟨[(alice, { balance := 1000, nonce := 0xffffffffffffffff })]⟩

def wrapped : State :=
  ⟨[(alice, { balance := 750, nonce := 0 }), (bob, { balance := 250, nonce := 0 })]⟩

end LastNonce

open LastNonce in
/-- The transfer with the last nonce is accepted and the nonce starts again. -/
theorem last_nonce_wraps :
    lastGenesis.intoState = .ok lastStart ∧ lastStart.apply lastTransfer = .ok wrapped ∧
      (lastStart.get HappyPath.alice).nonce.toNat = 2 ^ 64 - 1 ∧
      (wrapped.get HappyPath.alice).nonce.toNat = 0 := by
  decide +kernel

open HappyPath in
theorem arithmetic_exact_iff_happyPath :
    transfer.Exact genesis settled ∧ genesis.NoncesMonotone [transfer] := by
  have exact_iff := arithmetic_exact_iff genesisFile genesis (by decide +kernel)
  exact ⟨(exact_iff.1 genesis ⟨[], rfl⟩ transfer settled (by decide +kernel)).2.mpr
      (by decide +kernel),
    (exact_iff.2.2 [transfer] settled (by decide +kernel)).mpr (by decide +kernel)⟩

end ZkRollup
