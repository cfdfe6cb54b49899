import ZkRollup.Foundation.Replay
import ZkRollup.SharedTypes.StateMap
import ZkRollup.Stf.ApplyTx

/-!
Contract: the ledger that `apply_tx` implements.

A ledger is a total map from addresses to a balance and a nonce. It checks a
transfer in the order of the code and over the integers, so nothing in it can
wrap except the nonce. `applyTx_eq` is the only place that runs the code: a
transfer that fails a check leaves the state alone, any other writes the two
accounts.

Owns: the checks, what an accepted transfer does to a sorted state, and the
quantities that every transfer keeps.
-/

set_option autoImplicit false

namespace ZkRollup

open Foundation

/-! ## The abstract ledger -/

structure LedgerAccount where
  balance : Int
  nonce : Nat

abbrev Ledger := Address → LedgerAccount

/-- Absent accounts are `(0, 0)`. -/
def State.ledger (state : State) : Ledger := fun addr =>
  { balance := (state.get addr).balance.toNat, nonce := (state.get addr).nonce.toNat }

theorem State.ledger_nonce_eq {state : State} {addr : Address} {nonce : UInt64} :
    (state.ledger addr).nonce = nonce.toNat ↔ (state.get addr).nonce = nonce :=
  UInt64.toNat_inj

theorem State.ledger_balance_lt {state : State} {addr : Address} {amount : UInt64} :
    (state.ledger addr).balance < amount.toNat ↔ (state.get addr).balance < amount := by
  show ((state.get addr).balance.toNat : Int) < amount.toNat ↔ _
  rw [UInt64.lt_iff_toNat_lt]
  omega

theorem State.le_ledger_balance {state : State} {addr : Address} {amount : UInt64} :
    amount.toNat ≤ (state.ledger addr).balance ↔ amount ≤ (state.get addr).balance := by
  rw [← not_lt, State.ledger_balance_lt, UInt64.not_lt]

theorem State.ledger_fits {state : State} {addr : Address} {amount : UInt64} :
    (state.ledger addr).balance + amount.toNat < 2 ^ 64 ↔
      (state.get addr).balance.toNat + amount.toNat < 2 ^ 64 := by
  show ((state.get addr).balance.toNat : Int) + amount.toNat < 2 ^ 64 ↔ _
  omega

/-- An account is what its ledger entry says: nothing is lost in the widening. -/
theorem State.get_eq_of_ledger_eq {state other : State} {addr : Address}
    (same : state.ledger addr = other.ledger addr) : state.get addr = other.get addr := by
  simp only [State.ledger, LedgerAccount.mk.injEq, Int.natCast_inj, UInt64.toNat_inj] at same
  cases left : state.get addr
  cases right : other.get addr
  simp only [left, right] at same
  rw [same.1, same.2]

section Checks

variable [Primitives]

/-- The signature recovers to the sender over the hash of this very transfer. -/
def Tx.Signed (tx : Tx) : Prop :=
  recoverAddress tx.signingHash tx.signature = .ok tx.from

instance (tx : Tx) : Decidable tx.Signed := by
  unfold Tx.Signed; infer_instance

/-- The first failed check, in the order self-transfer, signature, nonce,
balance, overflow. -/
def Ledger.failedCheck (ledger : Ledger) (tx : Tx) : Option StfError :=
  if tx.from = tx.to then
    some .selfTransfer
  else if ¬ tx.Signed then
    some .badSignature
  else if (ledger tx.from).nonce ≠ tx.nonce.toNat then
    some (.nonceMismatch (.ofNat (ledger tx.from).nonce) tx.nonce)
  else if (ledger tx.from).balance < tx.amount.toNat then
    some (.insufficientBalance (.ofNat (ledger tx.from).balance.toNat) tx.amount)
  else if 2 ^ 64 ≤ (ledger tx.to).balance + tx.amount.toNat then
    some .overflow
  else
    none

/-- Every check of a transfer passes. -/
structure Ledger.Accepts (ledger : Ledger) (tx : Tx) : Prop where
  distinct : tx.from ≠ tx.to
  signed : tx.Signed
  nonce : tx.nonce.toNat = (ledger tx.from).nonce
  funded : tx.amount.toNat ≤ (ledger tx.from).balance
  fits : (ledger tx.to).balance + tx.amount.toNat < 2 ^ 64

theorem Ledger.failedCheck_eq_none {ledger : Ledger} {tx : Tx} :
    ledger.failedCheck tx = none ↔ ledger.Accepts tx := by
  unfold failedCheck
  constructor
  · intro passed
    split_ifs at passed with same signed nonce funded fits
    exact {
      distinct := same
      signed := signed
      nonce := (not_not.mp nonce).symm
      funded := not_lt.mp funded
      fits := not_le.mp fits }
  · intro accepts
    rw [if_neg accepts.distinct, if_neg (not_not.mpr accepts.signed),
      if_neg (not_not.mpr accepts.nonce.symm), if_neg (not_lt.mpr accepts.funded),
      if_neg (not_le.mpr accepts.fits)]

/-- A credit is only tried after every other check has passed. -/
theorem Ledger.failedCheck_overflow {ledger : Ledger} {tx : Tx}
    (failed : ledger.failedCheck tx = some .overflow) :
    tx.from ≠ tx.to ∧ tx.amount.toNat ≤ (ledger tx.from).balance ∧
      2 ^ 64 ≤ (ledger tx.to).balance + tx.amount.toNat := by
  unfold failedCheck at failed
  split_ifs at failed with same signed nonce short outOfRange
  · cases failed
  · cases failed
  · cases failed
  · exact ⟨same, not_lt.mp short, outOfRange⟩
  · cases failed

/-- The nonce check fails only on another nonce than the account's. -/
theorem Ledger.failedCheck_nonceMismatch {ledger : Ledger} {tx : Tx} {expected got : UInt64}
    (failed : ledger.failedCheck tx = some (.nonceMismatch expected got)) :
    (ledger tx.from).nonce ≠ tx.nonce.toNat := by
  unfold failedCheck at failed
  split_ifs at failed with same signed nonce short outOfRange
  · cases failed
  · exact nonce
  · cases failed
  · cases failed
  · cases failed

/-! ## The code makes these checks -/

/-- Both writes of an accepted transfer. -/
def State.moved (state : State) (tx : Tx) : State :=
  (state.set tx.from {
    balance := (state.get tx.from).balance - tx.amount
    nonce := (state.get tx.from).nonce + 1 }).set tx.to {
      balance := (state.get tx.to).balance + tx.amount
      nonce := (state.get tx.to).nonce }

/-- `apply_tx` is its checks followed by its writes. -/
theorem applyTx_eq (tx : Tx) (state : State) :
    (applyTx tx).run state =
      match state.ledger.failedCheck tx with
      | some failure => .error failure state
      | none => .ok () (state.moved tx) := by
  unfold applyTx Ledger.failedCheck
  by_cases same : tx.from = tx.to
  · simp only [if_pos same, EStateM.run_bind, EStateM.run_throw]
  simp only [if_neg same, EStateM.run_bind]
  cases recovered : recoverAddress tx.signingHash tx.signature with
  | error failure =>
      have unsigned : ¬ tx.Signed := by simp [Tx.Signed, recovered]
      simp only [if_pos unsigned, Except.mapError, run_ofExcept_error]
      rfl
  | ok signer =>
      simp only [Except.mapError, run_ofExcept_ok]
      by_cases own : signer = tx.from
      · have signed : tx.Signed := by simp [Tx.Signed, recovered, own]
        simp only [own, signed, ne_eq, not_true_eq_false, if_false, EStateM.run_bind,
          EStateM.run_get, State.ledger_nonce_eq, State.ledger_balance_lt]
        by_cases nonce : (state.get tx.from).nonce = tx.nonce
        · simp only [nonce, not_true_eq_false, if_false]
          by_cases short : (state.get tx.from).balance < tx.amount
          · simp only [if_pos short, EStateM.run_bind, EStateM.run_throw]
            simp [State.ledger]
          simp only [if_neg short, EStateM.run_bind, EStateM.run_get]
          by_cases fits : (state.get tx.to).balance.toNat + tx.amount.toNat < 2 ^ 64
          · have inRange := not_le.mpr (State.ledger_fits.mpr fits)
            simp only [checkedAdd, if_pos fits, if_neg inRange, okOr, run_ofExcept_ok,
              EStateM.run_modify, State.moved, nonce]
          · have outOfRange := not_lt.mp (mt State.ledger_fits.mp fits)
            simp only [checkedAdd, if_neg fits, if_pos outOfRange, okOr, run_ofExcept_error]
        · simp only [if_pos nonce, EStateM.run_bind, EStateM.run_throw]
          simp [State.ledger]
      · have unsigned : ¬ tx.Signed := by simp [Tx.Signed, recovered, own]
        simp only [if_pos own, if_pos unsigned, ne_eq, EStateM.run_bind, EStateM.run_throw]

theorem State.apply_eq (state : State) (tx : Tx) :
    state.apply tx =
      match state.ledger.failedCheck tx with
      | some failure => .error failure
      | none => .ok (state.moved tx) := by
  unfold State.apply
  rw [applyTx_eq]
  cases state.ledger.failedCheck tx <;> rfl

theorem State.apply_ok {state next : State} {tx : Tx} :
    state.apply tx = .ok next ↔ state.ledger.Accepts tx ∧ next = state.moved tx := by
  rw [State.apply_eq, ← Ledger.failedCheck_eq_none]
  cases state.ledger.failedCheck tx <;> simp [eq_comm]

theorem State.apply_error {state : State} {tx : Tx} {failure : StfError} :
    state.apply tx = .error failure ↔ state.ledger.failedCheck tx = some failure := by
  rw [State.apply_eq]
  cases state.ledger.failedCheck tx <;> simp

/-- `apply_tx` leaves the state alone on every error branch. -/
theorem applyTx_realizes : Realizes applyTx State.apply := by
  intro tx state
  rw [applyTx_eq, State.apply_eq]
  cases state.ledger.failedCheck tx <;> rfl

end Checks

/-! ## Histories -/

/-- The transfers out of an account, in order. -/
def sentBy (addr : Address) (txs : List Tx) : List Tx :=
  txs.filter fun tx => tx.from = addr

/-- The transfers into an account, in order. -/
def receivedBy (addr : Address) (txs : List Tx) : List Tx :=
  txs.filter fun tx => tx.to = addr

/-- The amounts together, over the natural numbers. -/
def amounts (txs : List Tx) : Nat :=
  (txs.map fun tx => tx.amount.toNat).sum

@[simp] theorem sentBy_append (addr : Address) (first second : List Tx) :
    sentBy addr (first ++ second) = sentBy addr first ++ sentBy addr second :=
  List.filter_append _ _

@[simp] theorem receivedBy_append (addr : Address) (first second : List Tx) :
    receivedBy addr (first ++ second) = receivedBy addr first ++ receivedBy addr second :=
  List.filter_append _ _

@[simp] theorem amounts_append (first second : List Tx) :
    amounts (first ++ second) = amounts first + amounts second := by
  simp [amounts]

theorem sentBy_singleton (addr : Address) (tx : Tx) :
    sentBy addr [tx] = if tx.from = addr then [tx] else [] := by
  simp [sentBy, List.filter_cons]

theorem receivedBy_singleton (addr : Address) (tx : Tx) :
    receivedBy addr [tx] = if tx.to = addr then [tx] else [] := by
  simp [receivedBy, List.filter_cons]

/-- The ledger after some transfers: what was there, plus what came in, minus
what went out; the nonce counts what went out, modulo `2 ^ 64`. -/
def Ledger.after (ledger : Ledger) (txs : List Tx) : Ledger := fun addr =>
  { balance := (ledger addr).balance + amounts (receivedBy addr txs) - amounts (sentBy addr txs)
    nonce := ((ledger addr).nonce + (sentBy addr txs).length) % 2 ^ 64 }

theorem Ledger.after_append (ledger : Ledger) (first second : List Tx) :
    ledger.after (first ++ second) = (ledger.after first).after second := by
  funext addr
  simp only [after, sentBy_append, receivedBy_append, amounts_append, List.length_append,
    LedgerAccount.mk.injEq]
  omega

theorem State.ledger_after_nil (state : State) : state.ledger.after [] = state.ledger := by
  funext addr
  have small := (state.get addr).nonce.toNat_lt
  simp only [Ledger.after, ledger, sentBy, receivedBy, amounts, List.filter_nil, List.map_nil,
    List.sum_nil, List.length_nil, LedgerAccount.mk.injEq]
  omega

variable [Primitives]

/-- Both writes of an accepted transfer land on the accounts that were read. -/
theorem State.Sorted.ledger_moved {state : State} (sorted : state.Sorted) {tx : Tx}
    (accepts : state.ledger.Accepts tx) :
    (state.moved tx).ledger = state.ledger.after [tx] := by
  have afterDebit := sorted.set tx.from {
    balance := (state.get tx.from).balance - tx.amount
    nonce := (state.get tx.from).nonce + 1 }
  have funded := State.le_ledger_balance.mp accepts.funded
  have fits := State.ledger_fits.mp accepts.fits
  funext addr
  by_cases atRecipient : addr = tx.to
  · subst atRecipient
    have account : (state.moved tx).get tx.to = {
        balance := (state.get tx.to).balance + tx.amount
        nonce := (state.get tx.to).nonce } := afterDebit.get_set_self _ _
    have small := (state.get tx.to).nonce.toNat_lt
    simp only [ledger, account, Ledger.after, sentBy_singleton, receivedBy_singleton,
      if_neg accepts.distinct, if_true, UInt64.toNat_add, amounts, List.map_cons, List.map_nil,
      List.sum_cons, List.sum_nil, List.length_nil, LedgerAccount.mk.injEq]
    omega
  · have skipCredit : (state.moved tx).get addr = (state.set tx.from {
        balance := (state.get tx.from).balance - tx.amount
        nonce := (state.get tx.from).nonce + 1 }).get addr :=
      afterDebit.get_set_of_ne atRecipient _
    by_cases atSender : addr = tx.from
    · subst atSender
      simp only [ledger, skipCredit, sorted.get_set_self, Ledger.after, sentBy_singleton,
        receivedBy_singleton, if_neg (Ne.symm atRecipient), if_true, UInt64.toNat_add,
        UInt64.toNat_sub_of_le _ _ funded, amounts, List.map_cons, List.map_nil, List.sum_cons,
        List.sum_nil, List.length_cons, List.length_nil, LedgerAccount.mk.injEq]
      have enough : tx.amount.toNat ≤ (state.get tx.from).balance.toNat :=
        UInt64.le_iff_toNat_le.mp funded
      constructor
      · omega
      · rfl
    · have small := (state.get addr).nonce.toNat_lt
      simp only [ledger, skipCredit, sorted.get_set_of_ne atSender, Ledger.after,
        sentBy_singleton, receivedBy_singleton, if_neg (Ne.symm atRecipient),
        if_neg (Ne.symm atSender), amounts, List.map_nil, List.sum_nil, List.length_nil,
        LedgerAccount.mk.injEq]
      omega

end ZkRollup
