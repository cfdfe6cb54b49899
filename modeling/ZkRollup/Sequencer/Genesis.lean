import ZkRollup.Foundation.Replay
import ZkRollup.SharedTypes.StateMap

/-!
Contract: the genesis file after JSON parsing, and the state it describes
(`sequencer/src/genesis.rs`).
-/

set_option autoImplicit false

namespace ZkRollup

open Foundation

structure GenesisAccount where
  /-- UTF-8 text. -/
  address : Bytes
  balance : UInt64
  nonce : UInt64 := 0
deriving DecidableEq

structure Genesis where
  accounts : List GenesisAccount
deriving DecidableEq

/-- `bad genesis address {address}: {failure:?}`. -/
structure GenesisError where
  address : Bytes
  failure : Hex.FromHexError
deriving DecidableEq

/-- One round of the loop of `into_state`. -/
def GenesisAccount.write (state : State) (entry : GenesisAccount) : Except GenesisError State :=
  match Address.fromHex entry.address with
  | .error failure => .error ⟨entry.address, failure⟩
  | .ok addr => .ok (state.set addr { balance := entry.balance, nonce := entry.nonce })

def Genesis.intoState (genesis : Genesis) : Except GenesisError State :=
  replay GenesisAccount.write State.new genesis.accounts

/-- What an entry writes, if its address parses. -/
def GenesisAccount.parsed (entry : GenesisAccount) : Option (Address × Account) :=
  match Address.fromHex entry.address with
  | .ok addr => some (addr, { balance := entry.balance, nonce := entry.nonce })
  | .error _ => none

/-- All addresses of the file parse. -/
def Genesis.Parses (genesis : Genesis) : Prop :=
  ∀ entry ∈ genesis.accounts, ∃ addr, Address.fromHex entry.address = .ok addr

/-- A loop that parses each entry and writes it builds the state of the parsed
entries, whatever its error looks like. -/
theorem Genesis.Parses.replay {ε : Type} {genesis : Genesis} (parses : genesis.Parses)
    (write : State → GenesisAccount → Except ε State)
    (writes : ∀ state entry addr, Address.fromHex entry.address = .ok addr →
      write state entry = .ok (state.set addr { balance := entry.balance, nonce := entry.nonce })) :
    Foundation.replay write State.new genesis.accounts =
      .ok (State.new.setAll (genesis.accounts.filterMap GenesisAccount.parsed)) := by
  unfold State.setAll
  rw [List.foldl_filterMap]
  apply replay_of_forall_ok
  intro entry member state
  rcases parses entry member with ⟨addr, parsed⟩
  simp only [writes state entry addr parsed, GenesisAccount.parsed, parsed]

theorem Genesis.Parses.intoState {genesis : Genesis} (parses : genesis.Parses) :
    genesis.intoState = .ok (State.new.setAll (genesis.accounts.filterMap GenesisAccount.parsed)) := by
  apply parses.replay GenesisAccount.write
  intro state entry addr parsed
  simp only [GenesisAccount.write, parsed]

theorem GenesisAccount.write_sorted {state next : State} {entry : GenesisAccount}
    (sorted : state.Sorted) (written : entry.write state = .ok next) : next.Sorted := by
  unfold write at written
  cases parsed : Address.fromHex entry.address with
  | error failure =>
      rw [parsed] at written
      cases written
  | ok addr =>
      rw [parsed] at written
      cases written
      exact sorted.set addr _

/-- Entries may repeat an address or come in any order: the state is sorted. -/
theorem Genesis.intoState_sorted {genesis : Genesis} {state : State}
    (parsed : genesis.intoState = .ok state) : state.Sorted :=
  replay_invariant (fun _ _ _ sorted written => GenesisAccount.write_sorted sorted written)
    State.new_sorted parsed

end ZkRollup
