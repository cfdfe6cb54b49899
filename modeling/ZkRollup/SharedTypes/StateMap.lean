import ZkRollup.Foundation.SortedAssoc
import ZkRollup.SharedTypes.Types

/-!
Contract: a sorted `State` is a finite map from addresses to accounts.

`State::get` and `State::set` search by bisection. On a list sorted by address
they are the lookup and the update of the map; every later proof uses the laws
below and none looks at an index again.

Owns: `State.Sorted`, the get/set laws, extensionality, and the sums of a
quantity over all accounts.
-/

set_option autoImplicit false

namespace ZkRollup

open Foundation

namespace State

/-- Strictly increasing by address, so without duplicates. -/
def Sorted (state : State) : Prop :=
  KeysIncrease state.accounts

instance (state : State) : Decidable state.Sorted :=
  inferInstanceAs (Decidable (KeysIncrease state.accounts))

/-- The addresses that have an entry. -/
def addresses (state : State) : List Address :=
  state.accounts.map Prod.fst

theorem new_sorted : new.Sorted :=
  KeysIncrease.nil

variable {state : State}

theorem get_eq_searchLookup (state : State) (addr : Address) :
    state.get addr = (searchLookup state.accounts addr).getD default := by
  unfold State.get searchLookup
  cases binarySearchByKey state.accounts addr Prod.fst <;> rfl

theorem Sorted.get_eq_lookup (sorted : state.Sorted) (addr : Address) :
    state.get addr = (state.accounts.lookup addr).getD default := by
  rw [get_eq_searchLookup, KeysIncrease.search_lookup sorted addr]

theorem Sorted.set_accounts (sorted : state.Sorted) (addr : Address) (account : Account) :
    (state.set addr account).accounts = upsert addr account state.accounts := by
  rw [← KeysIncrease.search_upsert sorted addr account]
  unfold State.set
  cases binarySearchByKey state.accounts addr Prod.fst <;> rfl

theorem Sorted.set (sorted : state.Sorted) (addr : Address) (account : Account) :
    (state.set addr account).Sorted := by
  unfold Sorted
  rw [sorted.set_accounts]
  exact KeysIncrease.upsert sorted addr account

theorem Sorted.get_set_self (sorted : state.Sorted) (addr : Address) (account : Account) :
    (state.set addr account).get addr = account := by
  rw [(sorted.set addr account).get_eq_lookup, sorted.set_accounts, lookup_upsert_self]
  rfl

theorem Sorted.get_set_of_ne (sorted : state.Sorted) {addr other : Address}
    (different : other ≠ addr) (account : Account) :
    (state.set addr account).get other = state.get other := by
  rw [(sorted.set addr account).get_eq_lookup, sorted.set_accounts,
    lookup_upsert_of_ne different, sorted.get_eq_lookup]

theorem Sorted.mem_addresses_set (sorted : state.Sorted) (addr other : Address)
    (account : Account) :
    other ∈ (state.set addr account).addresses ↔ other = addr ∨ other ∈ state.addresses := by
  unfold addresses
  rw [sorted.set_accounts, mem_keys_upsert]

/-- Two sorted states with the same addresses and the same accounts at them are
the same list. -/
theorem Sorted.ext {other : State} (sorted : state.Sorted) (otherSorted : other.Sorted)
    (sameAddresses : ∀ addr, addr ∈ state.addresses ↔ addr ∈ other.addresses)
    (sameAccounts : ∀ addr, state.get addr = other.get addr) : state = other := by
  have sameLookups : ∀ addr, state.accounts.lookup addr = other.accounts.lookup addr := by
    intro addr
    have members := sameAddresses addr
    have accounts := sameAccounts addr
    unfold addresses at members
    rw [mem_keys_iff_lookup, mem_keys_iff_lookup] at members
    rw [sorted.get_eq_lookup, otherSorted.get_eq_lookup] at accounts
    cases left : state.accounts.lookup addr with
    | none =>
        rw [left] at members
        by_contra different
        exact members.mpr (fun absent => different absent.symm) rfl
    | some account =>
        rw [left] at members accounts
        cases right : other.accounts.lookup addr with
        | none => exact absurd right (members.mp (by simp))
        | some otherAccount =>
            rw [right] at accounts
            exact congrArg some accounts
  have sameList := KeysIncrease.ext sorted otherSorted sameLookups
  cases state
  cases other
  subst sameList
  rfl

/-! ## Writes on any list -/

/-- A write inserts an entry or leaves all other accounts alone. On an unsorted
list an insertion may hide them from the search. -/
theorem set_inserts_or_keeps (state : State) (addr : Address) (account : Account) :
    (state.set addr account).accounts.length = state.accounts.length + 1 ∨
      ((state.set addr account).accounts.length = state.accounts.length ∧
        ∀ other, other ≠ addr → (state.set addr account).get other = state.get other) := by
  cases answer : binarySearchByKey state.accounts addr Prod.fst with
  | err index =>
      left
      unfold State.set
      rw [answer]
      exact List.length_insertIdx_of_le_length (Nat.le_of_lt_succ index.isLt) _
  | ok index =>
      right
      have written : state.set addr account =
          ⟨state.accounts.modify index fun entry => (entry.1, account)⟩ := by
        unfold State.set
        rw [answer]
      rw [written]
      refine ⟨List.length_modify _ _ _, fun other different => ?_⟩
      rw [get_eq_searchLookup, get_eq_searchLookup, searchLookup_modify_of_ne answer different account]

/-! ## Histories of writes -/

/-- Calls of `set`, one after the other. -/
def setAll (state : State) (writes : List (Address × Account)) : State :=
  writes.foldl (fun state write => state.set write.1 write.2) state

theorem Sorted.setAll_accounts (sorted : state.Sorted) (writes : List (Address × Account)) :
    (state.setAll writes).accounts = upsertAll state.accounts writes := by
  induction writes generalizing state with
  | nil => rfl
  | cons write rest inductionHypothesis =>
      have step := inductionHypothesis (sorted.set write.1 write.2)
      rw [sorted.set_accounts] at step
      exact step

theorem Sorted.setAll (sorted : state.Sorted) (writes : List (Address × Account)) :
    (state.setAll writes).Sorted := by
  unfold Sorted
  rw [sorted.setAll_accounts]
  exact KeysIncrease.upsertAll sorted writes

/-- Only the last write to each address leaves a trace. -/
theorem Sorted.setAll_congr (sorted : state.Sorted) {writes others : List (Address × Account)}
    (same : ∀ addr, lastWrite writes addr = lastWrite others addr) :
    state.setAll writes = state.setAll others := by
  have sameAccounts : (state.setAll writes).accounts = (state.setAll others).accounts := by
    rw [sorted.setAll_accounts, sorted.setAll_accounts]
    exact KeysIncrease.upsertAll_congr sorted same
  exact congrArg State.mk sameAccounts

/-! ## Sums over all accounts -/

/-- The sum of a quantity over the account list, over the natural numbers. -/
def sumOf (weight : Account → Nat) (state : State) : Nat :=
  (state.accounts.map fun entry => weight entry.2).sum

/-- All balances together. -/
def total (state : State) : Nat :=
  state.sumOf fun account => account.balance.toNat

/-- All nonces together: the number of transfers ever applied, up to a constant. -/
def nonceSum (state : State) : Nat :=
  state.sumOf fun account => account.nonce.toNat

/-- A write moves the sum by the change of the written account, on any list: it
lands where the same search reads. The quantity must vanish on an absent
account. -/
theorem sumOf_set (state : State) (weight : Account → Nat) (vanishes : weight default = 0)
    (addr : Address) (account : Account) :
    (state.set addr account).sumOf weight + weight (state.get addr) =
      state.sumOf weight + weight account := by
  unfold State.set State.get sumOf
  cases binarySearchByKey state.accounts addr Prod.fst with
  | ok index =>
      exact sum_map_modify (fun entry => weight entry.2) index.isLt fun entry => (entry.1, account)
  | err index =>
      have inserted := List.perm_insertIdx (addr, account) state.accounts
        (Nat.le_of_lt_succ index.isLt)
      show ((state.accounts.insertIdx index (addr, account)).map _).sum + weight default = _
      rw [(inserted.map _).sum_eq, vanishes, List.map_cons, List.sum_cons, Nat.add_zero]
      exact Nat.add_comm _ _

/-- Two different accounts together stay below the sum over all of them. -/
theorem Sorted.weight_add_weight_le (sorted : state.Sorted) (weight : Account → Nat)
    (vanishes : weight default = 0) {first second : Address} (different : first ≠ second) :
    weight (state.get first) + weight (state.get second) ≤ state.sumOf weight := by
  -- Clear both accounts in turn; what disappears from the sum is what they held.
  have clearFirst := state.sumOf_set weight vanishes first default
  have clearSecond := (state.set first default).sumOf_set weight vanishes second default
  rw [sorted.get_set_of_ne different.symm] at clearSecond
  omega

theorem Sorted.balance_add_balance_le (sorted : state.Sorted) {first second : Address}
    (different : first ≠ second) :
    (state.get first).balance.toNat + (state.get second).balance.toNat ≤ state.total :=
  sorted.weight_add_weight_le (fun account => account.balance.toNat) rfl different

end State

end ZkRollup
