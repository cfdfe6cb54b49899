import ZkRollup.Stf.Conservation

/-!
Contract: transfers of other senders do not get in the way.

A transfer is checked against its sender's nonce and balance and its recipient's
balance. Foreign transfers leave the nonce alone and can only add to the
sender's balance, and while all balances together fit into a `u64` no credit
overflows. So a list that replays from a state still replays after any list of
other senders, and groups of transfers with disjoint senders replay in any
order, whoever the recipients are.
-/

set_option autoImplicit false

namespace ZkRollup

open Foundation

/-- No common sender. -/
def Apart (first second : List Tx) : Prop :=
  ∀ tx ∈ first, ∀ other ∈ second, tx.from ≠ other.from

instance (first second : List Tx) : Decidable (Apart first second) :=
  inferInstanceAs (Decidable (∀ tx ∈ first, ∀ other ∈ second, tx.from ≠ other.from))

theorem Apart.symm {first second : List Tx} (apart : Apart first second) : Apart second first :=
  fun tx member other otherMember same => apart other otherMember tx member same.symm

theorem Apart.append {first second third : List Tx} (left : Apart first third)
    (right : Apart second third) : Apart (first ++ second) third := by
  intro tx member
  rcases List.mem_append.mp member with inFirst | inSecond
  · exact left tx inFirst
  · exact right tx inSecond

/-- Every account that sends in the list can do at least as much as before. -/
def Ledger.Dominates (richer poorer : Ledger) (txs : List Tx) : Prop :=
  ∀ tx ∈ txs, (poorer tx.from).balance ≤ (richer tx.from).balance ∧
    (richer tx.from).nonce = (poorer tx.from).nonce

/-- One and the same transfer keeps the order of two ledgers. -/
theorem Ledger.Dominates.after {richer poorer : Ledger} {txs : List Tx}
    (dominates : richer.Dominates poorer txs) (tx : Tx) :
    (richer.after [tx]).Dominates (poorer.after [tx]) txs := by
  intro other member
  have before := dominates other member
  simp only [Ledger.after, before.2, and_true]
  omega

section

variable [Primitives] {state advanced : State}

namespace State

/-- What is accepted where its sender is poorer is accepted here. -/
theorem Sorted.apply_of_dominates {richer : State} (sorted : richer.Sorted)
    (bounded : richer.total < 2 ^ 64) {txs : List Tx} {tx : Tx} {next : State}
    (member : tx ∈ txs) (dominates : richer.ledger.Dominates state.ledger txs)
    (accepted : state.apply tx = .ok next) : richer.apply tx = .ok (richer.moved tx) := by
  have accepts := (apply_ok.mp accepted).1
  have atSender := dominates tx member
  have pair := sorted.balance_add_balance_le accepts.distinct
  have enough : tx.amount.toNat ≤ (richer.ledger tx.from).balance :=
    accepts.funded.trans atSender.1
  have held := UInt64.le_iff_toNat_le.mp (le_ledger_balance.mp enough)
  exact apply_ok.mpr ⟨{
    distinct := accepts.distinct
    signed := accepts.signed
    nonce := accepts.nonce.trans atSender.2.symm
    funded := enough
    fits := ledger_fits.mpr (by omega) }, rfl⟩

/-- Transfers of other senders leave every sender of the list as able. -/
theorem Sorted.dominates_of_apart (sorted : state.Sorted) {first second : List Tx}
    (apart : Apart first second) (replayed : state.applyAll first = .ok advanced) :
    advanced.ledger.Dominates state.ledger second := by
  intro tx member
  have nothing : sentBy tx.from first = [] := by
    apply List.filter_eq_nil_iff.mpr
    intro other otherMember
    simpa using apart other otherMember tx member
  have small := (state.get tx.from).nonce.toNat_lt
  rw [sorted.applyAll_ledger replayed]
  simp only [Ledger.after, nothing, amounts, List.map_nil, List.sum_nil, List.length_nil,
    Nat.add_zero]
  constructor
  · omega
  · exact Nat.mod_eq_of_lt small

/-- A list still replays after transfers of other senders. -/
theorem Sorted.applyAll_of_apart (sorted : state.Sorted) (bounded : state.total < 2 ^ 64)
    {first second : List Tx} {final : State} (apart : Apart first second)
    (replayed : state.applyAll first = .ok advanced)
    (alone : state.applyAll second = .ok final) :
    ∃ next, advanced.applyAll second = .ok next := by
  have carried : ∀ poorer richer tx next, tx ∈ second →
      (poorer.Sorted ∧ richer.Sorted ∧ richer.total < 2 ^ 64 ∧
        richer.ledger.Dominates poorer.ledger second) →
      State.apply poorer tx = .ok next → ∃ richerNext, State.apply richer tx = .ok richerNext ∧
        (next.Sorted ∧ richerNext.Sorted ∧ richerNext.total < 2 ^ 64 ∧
          richerNext.ledger.Dominates next.ledger second) := by
    rintro poorer richer tx next member ⟨poorerSorted, richerSorted, richerBounded, dominates⟩
      accepted
    have follows := richerSorted.apply_of_dominates richerBounded member dominates accepted
    refine ⟨_, follows, poorerSorted.apply accepted, richerSorted.apply follows, ?_, ?_⟩
    · rw [richerSorted.apply_total follows]
      exact richerBounded
    · rw [richerSorted.apply_ledger follows, poorerSorted.apply_ledger accepted]
      exact dominates.after tx
  have advancedBounded : advanced.total < 2 ^ 64 := by
    rw [sorted.applyAll_total replayed]
    exact bounded
  rcases replay_simulation carried (fun tx member => member)
    ⟨sorted, sorted.applyAll replayed, advancedBounded, sorted.dominates_of_apart apart replayed⟩
    alone with ⟨next, follows, -⟩
  exact ⟨next, follows⟩

end State

/-! ## Two orders of the same transfers -/

omit [Primitives] in
theorem Ledger.after_perm (ledger : Ledger) {txs others : List Tx} (reordered : txs.Perm others) :
    ledger.after txs = ledger.after others := by
  funext addr
  have received : amounts (receivedBy addr txs) = amounts (receivedBy addr others) :=
    ((reordered.filter _).map _).sum_eq
  have sent : amounts (sentBy addr txs) = amounts (sentBy addr others) :=
    ((reordered.filter _).map _).sum_eq
  have count : (sentBy addr txs).length = (sentBy addr others).length :=
    (reordered.filter _).length_eq
  simp only [after, received, sent, count]

/-- If two orders of the same transfers both replay, they lead to the same
account list: the one the ledger and the named addresses determine. -/
theorem State.Sorted.applyAll_perm (sorted : state.Sorted) {txs others : List Tx}
    {final otherFinal : State} (reordered : txs.Perm others)
    (replayed : state.applyAll txs = .ok final)
    (otherReplayed : state.applyAll others = .ok otherFinal) : final = otherFinal := by
  apply (sorted.applyAll replayed).ext (sorted.applyAll otherReplayed)
  · intro addr
    rw [sorted.mem_addresses_applyAll replayed, sorted.mem_addresses_applyAll otherReplayed]
    simp only [reordered.mem_iff]
  · intro addr
    apply State.get_eq_of_ledger_eq
    rw [sorted.applyAll_ledger replayed, sorted.applyAll_ledger otherReplayed,
      Ledger.after_perm _ reordered]

/-- Transfers of disjoint senders commute, whoever receives. -/
theorem disjoint_senders_commute (state : State) (sorted : state.Sorted)
    (bounded : state.total ≤ 2 ^ 64 - 1) (first second : List Tx) (afterFirst afterSecond : State)
    (firstReplays : state.applyAll first = .ok afterFirst)
    (secondReplays : state.applyAll second = .ok afterSecond) (apart : Apart first second) :
    ∃ final otherFinal, state.applyAll (first ++ second) = .ok final ∧
      state.applyAll (second ++ first) = .ok otherFinal ∧
      final.accounts = otherFinal.accounts ∧ final.merkleRoot = otherFinal.merkleRoot := by
  have small : state.total < 2 ^ 64 := by omega
  obtain ⟨final, follows⟩ := sorted.applyAll_of_apart small apart firstReplays secondReplays
  rcases sorted.applyAll_of_apart small apart.symm secondReplays firstReplays with
    ⟨otherFinal, otherFollows⟩
  have firstThenSecond : state.applyAll (first ++ second) = .ok final :=
    replay_append_ok.mpr ⟨afterFirst, firstReplays, follows⟩
  have secondThenFirst : state.applyAll (second ++ first) = .ok otherFinal :=
    replay_append_ok.mpr ⟨afterSecond, secondReplays, otherFollows⟩
  have same := sorted.applyAll_perm List.perm_append_comm firstThenSecond secondThenFirst
  exact ⟨final, otherFinal, firstThenSecond, secondThenFirst, by rw [same], by rw [same]⟩

/-! ## Groups of transfers -/

/-- Groups without a common sender, each of which replays from the state. -/
structure Pending (state : State) (groups : List (List Tx)) : Prop where
  apart : groups.Pairwise Apart
  replays : ∀ group ∈ groups, ∃ final, state.applyAll group = .ok final

namespace Pending

variable {first second : List Tx} {groups : List (List Tx)}

theorem perm {others : List (List Tx)} (pending : Pending state groups)
    (reordered : groups.Perm others) : Pending state others where
  apart := (reordered.pairwise_iff Apart.symm).mp pending.apart
  replays := fun group member => pending.replays group (reordered.mem_iff.mpr member)

theorem nil_cons (pending : Pending state groups) : Pending state ([] :: groups) where
  apart := by
    refine List.pairwise_cons.mpr ⟨?_, pending.apart⟩
    intro group member tx inNil
    cases inNil
  replays := List.forall_mem_cons.mpr ⟨⟨state, rfl⟩, pending.replays⟩

/-- A group grows by a transfer of a sender that no other group has. -/
theorem extend (pending : Pending state (first :: groups)) {tx : Tx}
    (apart : ∀ group ∈ groups, Apart [tx] group)
    (replays : ∃ final, state.applyAll (first ++ [tx]) = .ok final) :
    Pending state ((first ++ [tx]) :: groups) where
  apart := by
    obtain ⟨head, rest⟩ := List.pairwise_cons.mp pending.apart
    exact List.pairwise_cons.mpr
      ⟨fun group member => (head group member).append (apart group member), rest⟩
  replays := List.forall_mem_cons.mpr ⟨replays, (List.forall_mem_cons.mp pending.replays).2⟩

/-- The other groups replay from wherever the first leads. -/
theorem advance (pending : Pending state (first :: groups)) (sorted : state.Sorted)
    (bounded : state.total < 2 ^ 64) (replayed : state.applyAll first = .ok advanced) :
    Pending advanced groups where
  apart := (List.pairwise_cons.mp pending.apart).2
  replays := by
    intro group member
    obtain ⟨final, alone⟩ := pending.replays group (List.mem_cons_of_mem first member)
    exact sorted.applyAll_of_apart bounded ((List.pairwise_cons.mp pending.apart).1 group member)
      replayed alone

/-- The second group can be appended to the first. -/
theorem merge (pending : Pending state (first :: second :: groups)) (sorted : state.Sorted)
    (bounded : state.total < 2 ^ 64) : Pending state ((first ++ second) :: groups) where
  apart := by
    obtain ⟨firstApart, rest⟩ := List.pairwise_cons.mp pending.apart
    obtain ⟨secondApart, others⟩ := List.pairwise_cons.mp rest
    refine List.pairwise_cons.mpr ⟨fun group member => ?_, others⟩
    exact (firstApart group (List.mem_cons_of_mem second member)).append (secondApart group member)
  replays := by
    obtain ⟨middle, replayed⟩ := pending.replays first (by simp)
    obtain ⟨final, follows⟩ := (pending.advance sorted bounded replayed).replays second (by simp)
    refine List.forall_mem_cons.mpr ⟨⟨final, replay_append_ok.mpr ⟨middle, replayed, follows⟩⟩, ?_⟩
    intro group member
    exact pending.replays group (by simp [member])

/-- All groups replay one after the other. -/
theorem flatten (pending : Pending state groups) (sorted : state.Sorted)
    (bounded : state.total < 2 ^ 64) : ∃ final, state.applyAll groups.flatten = .ok final := by
  induction groups generalizing state with
  | nil => exact ⟨state, rfl⟩
  | cons group rest inductionHypothesis =>
      obtain ⟨middle, replayed⟩ := pending.replays group (by simp)
      have bounded' : middle.total < 2 ^ 64 := by
        rw [sorted.applyAll_total replayed]
        exact bounded
      rcases inductionHypothesis (pending.advance sorted bounded replayed)
        (sorted.applyAll replayed) bounded' with ⟨final, follows⟩
      exact ⟨final, replay_append_ok.mpr ⟨middle, replayed, follows⟩⟩

end Pending

end

/-! ## A crossing payment -/

namespace Crossing

open HappyPath (alice bob aliceKey bobKey aliceRS transfer signingDigest)

def bobRS : FixedBytes 64 := .ofNat 64
  0x71717f1ac058559da2f8f1f8bea5d79878061fda7d097be220eced0ecc3cc74a56b8dc9aa98a85dc32551e53e0703f34f0378a87739dc3c0e3d8f75db0300abd

/-- Bob pays alice while alice pays bob. -/
def payment : Tx where
  «from» := bob
  «to» := alice
  amount := 100
  nonce := 0
  signature := bobRS.bytes ++ [1]

def paymentDigest : Hash := .ofNat 32
  0xc214180b247220fd3114a9194fd40a2b051c921b0a90e219264a404ba92950ae

scoped instance primitives : Primitives :=
  .ofTables
    [(transfer.signingPayload, signingDigest), (payment.signingPayload, paymentDigest),
      (aliceKey.bytes.drop 1,
        .ofNat 32 0xb8a0722ae6cb48cde0b4ae1f1a642f0e3c3af545e7acbd38b07251b3990914f1),
      (bobKey.bytes.drop 1,
        .ofNat 32 0xa95905f8dab9c277715d6fd05050a4f4b3f9338c3472dcc01a87c76a144b3c9c)]
    [((signingDigest, aliceRS, 0), aliceKey), ((paymentDigest, bobRS, 1), bobKey)]

def funded : State :=
  ⟨[(alice, { balance := 1000, nonce := 0 }), (bob, { balance := 500, nonce := 0 })]⟩

def afterTransfer : State :=
  ⟨[(alice, { balance := 750, nonce := 1 }), (bob, { balance := 750, nonce := 0 })]⟩

def afterPayment : State :=
  ⟨[(alice, { balance := 1100, nonce := 0 }), (bob, { balance := 400, nonce := 1 })]⟩

end Crossing

open Crossing in
theorem disjoint_senders_commute_crossing :
    ∃ final otherFinal, funded.applyAll ([HappyPath.transfer] ++ [payment]) = .ok final ∧
      funded.applyAll ([payment] ++ [HappyPath.transfer]) = .ok otherFinal ∧
      final.accounts = otherFinal.accounts ∧ final.merkleRoot = otherFinal.merkleRoot :=
  disjoint_senders_commute funded (by decide +kernel) (by decide +kernel) [HappyPath.transfer]
    [payment] afterTransfer afterPayment (by decide +kernel) (by decide +kernel) (by decide +kernel)

end ZkRollup
