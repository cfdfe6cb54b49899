import ZkRollup.Stf.Ledger

/-!
Contract: what every accepted transfer keeps of a sorted state.

On an arbitrary account list none of this holds: the two binary searches may
miss an account that exists and insert it again. On a sorted list the writes
land on the accounts that were read, the list stays sorted, value only moves and
the nonces together grow by one.
-/

set_option autoImplicit false

namespace ZkRollup

open Foundation

/-- The transfer does not push its sender's nonce past `u64::MAX`. -/
def Tx.NonceRoom (tx : Tx) : Prop :=
  tx.nonce.toNat + 1 < 2 ^ 64

instance (tx : Tx) : Decidable tx.NonceRoom :=
  inferInstanceAs (Decidable (_ < _))

variable [Primitives] {state next : State} {tx : Tx}

/-- `apply_tx` over a list, up to the first error. -/
abbrev State.applyAll (state : State) (txs : List Tx) : Except StfError State :=
  replay State.apply state txs

namespace State

omit [Primitives] in
theorem Sorted.moved (sorted : state.Sorted) (tx : Tx) : (state.moved tx).Sorted :=
  (sorted.set _ _).set _ _

omit [Primitives] in
theorem Sorted.mem_addresses_moved (sorted : state.Sorted) (tx : Tx) (addr : Address) :
    addr ∈ (state.moved tx).addresses ↔
      addr ∈ state.addresses ∨ addr = tx.from ∨ addr = tx.to := by
  unfold State.moved
  rw [(sorted.set _ _).mem_addresses_set, sorted.mem_addresses_set]
  tauto

omit [Primitives] in
/-- The two writes move a sum by what they change of the two accounts. -/
theorem Sorted.sumOf_moved (sorted : state.Sorted) (weight : Account → Nat)
    (vanishes : weight default = 0) (distinct : tx.from ≠ tx.to) :
    (state.moved tx).sumOf weight + weight (state.get tx.from) + weight (state.get tx.to) =
      state.sumOf weight +
        weight {
          balance := (state.get tx.from).balance - tx.amount
          nonce := (state.get tx.from).nonce + 1 } +
        weight {
          balance := (state.get tx.to).balance + tx.amount
          nonce := (state.get tx.to).nonce } := by
  have debit := state.sumOf_set weight vanishes tx.from {
    balance := (state.get tx.from).balance - tx.amount
    nonce := (state.get tx.from).nonce + 1 }
  have credit := (state.set tx.from {
    balance := (state.get tx.from).balance - tx.amount
    nonce := (state.get tx.from).nonce + 1 }).sumOf_set weight vanishes tx.to {
      balance := (state.get tx.to).balance + tx.amount
      nonce := (state.get tx.to).nonce }
  rw [sorted.get_set_of_ne distinct.symm] at credit
  unfold State.moved
  omega

/-! ## One transfer -/

theorem Sorted.apply (sorted : state.Sorted) (accepted : state.apply tx = .ok next) :
    next.Sorted := by
  have outcome := apply_ok.mp accepted
  rw [outcome.2]
  exact sorted.moved tx

theorem Sorted.apply_ledger (sorted : state.Sorted) (accepted : state.apply tx = .ok next) :
    next.ledger = state.ledger.after [tx] := by
  have outcome := apply_ok.mp accepted
  rw [outcome.2]
  exact sorted.ledger_moved outcome.1

/-- Value moves; none appears and none disappears. -/
theorem Sorted.apply_total (sorted : state.Sorted) (accepted : state.apply tx = .ok next) :
    next.total = state.total := by
  have outcome := apply_ok.mp accepted
  have accepts := outcome.1
  have moved := sorted.sumOf_moved (fun account => account.balance.toNat) rfl accepts.distinct
  have funded := le_ledger_balance.mp accepts.funded
  have enough := UInt64.le_iff_toNat_le.mp funded
  have fits := ledger_fits.mp accepts.fits
  simp only [UInt64.toNat_sub_of_le _ _ funded, UInt64.toNat_add, Nat.mod_eq_of_lt fits] at moved
  rw [outcome.2]
  show (state.moved tx).sumOf _ = state.sumOf _
  omega

/-- The nonces together grow by one: no state is reached twice. -/
theorem Sorted.apply_nonceSum (sorted : state.Sorted) (accepted : state.apply tx = .ok next)
    (room : tx.NonceRoom) : next.nonceSum = state.nonceSum + 1 := by
  have outcome := apply_ok.mp accepted
  have moved := sorted.sumOf_moved (fun account => account.nonce.toNat) rfl outcome.1.distinct
  have current : tx.nonce.toNat = (state.get tx.from).nonce.toNat := outcome.1.nonce
  have increment : ((state.get tx.from).nonce + 1).toNat = (state.get tx.from).nonce.toNat + 1 := by
    rw [UInt64.toNat_add, ← current]
    exact Nat.mod_eq_of_lt room
  simp only [increment] at moved
  rw [outcome.2]
  show (state.moved tx).sumOf _ = state.sumOf _ + 1
  omega

/-- While all balances together fit into a `u64`, no credit can overflow. -/
theorem Sorted.apply_ne_overflow (sorted : state.Sorted) (bounded : state.total < 2 ^ 64)
    (tx : Tx) : state.apply tx ≠ .error .overflow := by
  intro overflowed
  have failed := Ledger.failedCheck_overflow (apply_error.mp overflowed)
  have pair := sorted.balance_add_balance_le failed.1
  have funded := UInt64.le_iff_toNat_le.mp (le_ledger_balance.mp failed.2.1)
  have tooMuch := mt ledger_fits.mpr (not_lt.mpr failed.2.2)
  omega

/-! ## Many transfers -/

theorem Sorted.applyAll {txs : List Tx} (sorted : state.Sorted)
    (accepted : state.applyAll txs = .ok next) : next.Sorted :=
  replay_invariant (fun _ _ _ start step => start.apply step) sorted accepted

/-- Sortedness together with a total: the invariant that carries every run. -/
theorem Sorted.applyAll_total {txs : List Tx} (sorted : state.Sorted)
    (accepted : state.applyAll txs = .ok next) : next.total = state.total := by
  have both : next.Sorted ∧ next.total = state.total := by
    refine replay_invariant (motive := fun reached =>
      reached.Sorted ∧ reached.total = state.total) ?_ ⟨sorted, rfl⟩ accepted
    intro start input reached kept step
    exact ⟨kept.1.apply step, (kept.1.apply_total step).trans kept.2⟩
  exact both.2

theorem Sorted.applyAll_nonceSum {txs : List Tx} (sorted : state.Sorted)
    (room : ∀ tx ∈ txs, tx.NonceRoom) (accepted : state.applyAll txs = .ok next) :
    next.nonceSum = state.nonceSum + txs.length := by
  induction txs generalizing state with
  | nil =>
      cases accepted
      rfl
  | cons tx rest inductionHypothesis =>
      rcases replay_cons_ok.mp accepted with ⟨middle, first, later⟩
      have grown := sorted.apply_nonceSum first (room tx (by simp))
      have grownMore := inductionHypothesis (sorted.apply first)
        (fun other member => room other (by simp [member])) later
      rw [grownMore, grown, List.length_cons]
      omega

theorem Sorted.applyAll_ledger {txs : List Tx} (sorted : state.Sorted)
    (accepted : state.applyAll txs = .ok next) : next.ledger = state.ledger.after txs := by
  induction txs generalizing state with
  | nil =>
      cases accepted
      exact (ledger_after_nil _).symm
  | cons tx rest inductionHypothesis =>
      rcases replay_cons_ok.mp accepted with ⟨middle, first, later⟩
      rw [inductionHypothesis (sorted.apply first) later, sorted.apply_ledger first,
        ← Ledger.after_append]
      rfl

theorem Sorted.mem_addresses_applyAll {txs : List Tx} (sorted : state.Sorted)
    (accepted : state.applyAll txs = .ok next) (addr : Address) :
    addr ∈ next.addresses ↔
      addr ∈ state.addresses ∨ ∃ tx ∈ txs, addr = tx.from ∨ addr = tx.to := by
  induction txs generalizing state with
  | nil =>
      cases accepted
      simp
  | cons tx rest inductionHypothesis =>
      rcases replay_cons_ok.mp accepted with ⟨middle, first, later⟩
      have outcome := apply_ok.mp first
      rw [inductionHypothesis (sorted.apply first) later, outcome.2, sorted.mem_addresses_moved]
      simp only [List.mem_cons, exists_eq_or_imp, or_assoc]

end State

end ZkRollup
