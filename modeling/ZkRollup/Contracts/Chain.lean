import ZkRollup.Contracts.Soundness
import ZkRollup.Foundation.Journal

/-!
Contract: settlement is one chain, whatever the verifier does.

Nothing is assumed of the proofs. Each settled batch names the root it starts
from and the root it leads to, the contract stands at a root, and a call that
does not start there reverts. So the events are a path through roots from the
genesis root to `stateRoot`, and the batch numbers are a path of their own.
-/

set_option autoImplicit false

namespace ZkRollup

open Foundation

/-- A call of `submitBatch` by anybody, with the verifier's answers at that
moment. -/
structure SubmitCall where
  verifyProof : VerifyProof
  publicValues : Bytes
  proofBytes : Bytes

namespace SubmitCall

def execute (rollup : Rollup) (call : SubmitCall) : Except RollupRevert (Rollup × BatchSettled) :=
  rollup.submitBatch call.verifyProof call.publicValues call.proofBytes

/-- A settled call in terms of its event alone. -/
theorem execute_ok {rollup next : Rollup} {call : SubmitCall} {event : BatchSettled}
    (settled : call.execute rollup = .ok (next, event)) :
    event.prevRoot = rollup.stateRoot ∧ next.stateRoot = event.newRoot ∧
      event.newRoot ≠ .zero 32 ∧ event.batchNumber = rollup.batchCount + 1 ∧
      next.batchCount = event.batchNumber := by
  obtain ⟨-, values, -, current, nonzero, rfl, rfl⟩ := Rollup.submitBatch_ok.mp settled
  exact ⟨current, rfl, nonzero, rfl, rfl⟩

end SubmitCall

theorem Rollup.deploy_ok {verifier : FixedBytes 20} {programVKey genesisRoot : Hash}
    {rollup : Rollup} (deployed : Rollup.deploy verifier programVKey genesisRoot = .ok rollup) :
    rollup.stateRoot = genesisRoot ∧ rollup.batchCount = 0 := by
  unfold Rollup.deploy at deployed
  by_cases zeroVerifier : verifier = .zero 20
  · rw [if_pos zeroVerifier] at deployed
    cases deployed
  · by_cases zeroKey : programVKey = .zero 32
    · rw [if_neg zeroVerifier, if_pos zeroKey] at deployed
      cases deployed
    · rw [if_neg zeroVerifier, if_neg zeroKey] at deployed
      cases deployed
      exact ⟨rfl, rfl⟩

theorem leads_roots (rollup : Rollup) (calls : List SubmitCall) :
    Leads BatchSettled.prevRoot BatchSettled.newRoot rollup.stateRoot
      (journal (fun rollup call => SubmitCall.execute rollup call) rollup calls).2
      (journal (fun rollup call => SubmitCall.execute rollup call) rollup calls).1.stateRoot := by
  refine leads_journal Rollup.stateRoot ?_ rollup calls
  intro start call next event settled
  have effect := SubmitCall.execute_ok settled
  exact ⟨effect.1, effect.2.1.symm⟩

theorem leads_numbers (rollup : Rollup) (calls : List SubmitCall) :
    Leads (fun event => event.batchNumber - 1) BatchSettled.batchNumber rollup.batchCount
      (journal (fun rollup call => SubmitCall.execute rollup call) rollup calls).2
      (journal (fun rollup call => SubmitCall.execute rollup call) rollup calls).1.batchCount := by
  refine leads_journal Rollup.batchCount ?_ rollup calls
  intro start call next event settled
  obtain ⟨-, -, -, numbered, counted⟩ := SubmitCall.execute_ok settled
  refine ⟨?_, counted.symm⟩
  rw [numbered, UInt64.add_sub_cancel]

/-- The numbers on such a path count up, modulo `2 ^ 64`. -/
theorem batchNumber_of_leads {first last : UInt64} {events : List BatchSettled}
    (path : Leads (fun event => event.batchNumber - 1) BatchSettled.batchNumber first events last)
    (index : Nat) (inside : index < events.length) :
    events[index].batchNumber.toNat = (first.toNat + index + 1) % 2 ^ 64 := by
  have follows : ∀ {before number : UInt64}, number - 1 = before →
      number.toNat = (before.toNat + 1) % 2 ^ 64 := by
    intro before number one
    rw [← one, ← UInt64.toNat_one, ← UInt64.toNat_add, UInt64.sub_add_cancel]
  induction index with
  | zero => exact follows (path.source_zero inside)
  | succ index inductionHypothesis =>
      rw [follows (path.source_succ index inside), inductionHypothesis (by omega)]
      omega

theorem batchCount_of_leads {first last : UInt64} {events : List BatchSettled}
    (path : Leads (fun event => event.batchNumber - 1) BatchSettled.batchNumber first events last) :
    last.toNat = (first.toNat + events.length) % 2 ^ 64 := by
  rw [path.last_eq]
  cases settled : events.getLast? with
  | none =>
      rw [List.getLast?_eq_none_iff.mp settled]
      exact (Nat.mod_eq_of_lt first.toNat_lt).symm
  | some event =>
      rw [List.getLast?_eq_getElem?] at settled
      obtain ⟨inside, rfl⟩ := List.getElem?_eq_some_iff.mp settled
      have numbered := batchNumber_of_leads path (events.length - 1) inside
      have nonempty : events.length - 1 + 1 = events.length := by omega
      rw [Nat.add_assoc, nonempty] at numbered
      exact numbered

/-- For every verifier, genesis root and sequence of calls: the events chain from
the genesis root to the state root and are numbered from one, reverted calls
leave no trace, and a root that batches start from twice has been returned to in
between. -/
theorem settlement_chain (verifier : FixedBytes 20) (programVKey genesisRoot : Hash)
    (rollup : Rollup) (deployed : Rollup.deploy verifier programVKey genesisRoot = .ok rollup)
    (calls : List SubmitCall) (final : Rollup) (events : List BatchSettled)
    (ran : journal (fun rollup call => SubmitCall.execute rollup call) rollup calls =
      (final, events)) :
    (∀ inside : 0 < events.length, events[0].prevRoot = genesisRoot) ∧
    (∀ index, ∀ inside : index + 1 < events.length,
      events[index + 1].prevRoot = events[index].newRoot) ∧
    (∀ index, ∀ inside : index < events.length,
      events[index].batchNumber.toNat = (index + 1) % 2 ^ 64 ∧
        events[index].newRoot ≠ .zero 32) ∧
    final.stateRoot = (events.getLast?.map BatchSettled.newRoot).getD genesisRoot ∧
    final.batchCount.toNat = events.length % 2 ^ 64 ∧
    (∀ settled, accepted (fun rollup call => SubmitCall.execute rollup call) rollup calls =
        settled →
      settled.length = events.length ∧
        journal (fun rollup call => SubmitCall.execute rollup call) rollup settled =
          (final, events)) ∧
    ∀ earlier later, ∀ before : earlier < later, ∀ inside : later < events.length,
      events[earlier].prevRoot = events[later].prevRoot →
      ∃ between, ∃ inBetween : between < events.length, earlier ≤ between ∧ between < later ∧
        events[between].newRoot = events[later].prevRoot := by
  have fresh := Rollup.deploy_ok deployed
  have roots := leads_roots rollup calls
  have numbers := leads_numbers rollup calls
  have onlySettled := journal_accepted (fun rollup call => SubmitCall.execute rollup call)
    rollup calls
  have nonzero := forall_mem_journal (fun rollup call => SubmitCall.execute rollup call)
    (motive := fun event => event.newRoot ≠ .zero 32)
    (fun start call next event settled => (SubmitCall.execute_ok settled).2.2.1) rollup calls
  rw [ran] at roots numbers onlySettled nonzero
  rw [fresh.1] at roots
  rw [fresh.2] at numbers
  refine ⟨roots.source_zero, roots.source_succ, ?_, roots.last_eq, ?_, ?_, ?_⟩
  · intro index inside
    refine ⟨?_, nonzero _ (List.getElem_mem inside)⟩
    rw [batchNumber_of_leads numbers index inside, UInt64.toNat_zero, Nat.zero_add]
  · rw [batchCount_of_leads numbers, UInt64.toNat_zero, Nat.zero_add]
  · rintro settled rfl
    exact ⟨onlySettled.2, onlySettled.1⟩
  · intro earlier later before inside sameRoot
    exact roots.returns inside before

namespace HappyPath

def submitTransfer : SubmitCall where
  verifyProof := settleTransfer.verifyProof
  publicValues := settleTransfer.publicValues
  proofBytes := settleTransfer.proofBytes

def transferSettled : BatchSettled where
  batchNumber := 1
  prevRoot := genesis.merkleRoot
  newRoot := settled.merkleRoot
  batchHash := Batch.hash ⟨[transfer]⟩

end HappyPath

open HappyPath in
/-- The same call twice: the second one is stale. -/
theorem settlement_chain_happyPath :
    deployedAfter.stateRoot = transferSettled.newRoot ∧ deployedAfter.batchCount.toNat = 1 ∧
      transferSettled.batchNumber.toNat = 1 ∧ transferSettled.prevRoot = genesis.merkleRoot := by
  have chain := settlement_chain (.ofNat 20 1) (.ofNat 32 1) genesis.merkleRoot deployed
    (by decide +kernel) [submitTransfer, submitTransfer] deployedAfter [transferSettled]
    (by decide +kernel)
  exact ⟨chain.2.2.2.1, chain.2.2.2.2.1, (chain.2.2.1 0 (by decide)).1, chain.1 (by decide)⟩

end ZkRollup
