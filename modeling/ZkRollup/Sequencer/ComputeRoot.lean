import ZkRollup.Sequencer.Conservation

/-!
Contract: a state built by writes is a canonical sorted map, so the genesis root
is a function of the genesis accounts (`sequencer/src/bin/compute_root.rs`).

The deploy flow computes the root with a tool of its own, which parses the file
into a type of its own and repeats the loop of `into_state`. That both agree,
and that the order of the file does not matter, comes down to one fact: the list
remembers nothing but the last write to each address.
-/

set_option autoImplicit false

namespace ZkRollup

open Foundation

/-! ## The tool -/

namespace ComputeRoot

/-- `bad address {address}: {failure:?}`. -/
structure BadAddress where
  address : Bytes
  failure : Hex.FromHexError
deriving DecidableEq

/-- One round of the loop of `main`. -/
def writeAccount (state : State) (entry : GenesisAccount) : Except BadAddress State :=
  match Address.fromHex entry.address with
  | .error failure => .error ⟨entry.address, failure⟩
  | .ok addr => .ok (state.set addr { balance := entry.balance, nonce := entry.nonce })

/-- `main` after the file is parsed: the line it prints. -/
def main [Primitives] (genesis : Genesis) : Except BadAddress Bytes :=
  match replay writeAccount State.new genesis.accounts with
  | .error failure => .error failure
  | .ok state => .ok ([0x30, 0x78] ++ Hex.encode state.merkleRoot.bytes ++ [0x0A])

end ComputeRoot

section

variable [Primitives]

theorem Genesis.Parses.computeRoot {genesis : Genesis} (parses : genesis.Parses) {state : State}
    (built : genesis.intoState = .ok state) :
    ComputeRoot.main genesis =
      .ok ([0x30, 0x78] ++ Hex.encode state.merkleRoot.bytes ++ [0x0A]) := by
  have sameLoop := parses.replay ComputeRoot.writeAccount fun state entry addr parsed => by
    simp only [ComputeRoot.writeAccount, parsed]
  rw [parses.intoState] at built
  cases built
  simp only [ComputeRoot.main, sameLoop]

omit [Primitives] in
/-- A file whose addresses parse and differ builds the same state in any order. -/
theorem Genesis.Parses.intoState_perm {genesis reordered : Genesis} (parses : genesis.Parses)
    (distinct : genesis.accounts.Pairwise fun left right =>
      Address.fromHex left.address ≠ Address.fromHex right.address)
    (perm : genesis.accounts.Perm reordered.accounts) :
    reordered.Parses ∧ reordered.intoState = genesis.intoState := by
  have reorderedParses : reordered.Parses :=
    fun entry member => parses entry (perm.mem_iff.mpr member)
  have distinctKeys : ((genesis.accounts.filterMap GenesisAccount.parsed).map Prod.fst).Nodup := by
    refine List.pairwise_map.mpr (List.Pairwise.filterMap _ ?_ distinct)
    intro left right different leftWrite leftParsed rightWrite rightParsed same
    unfold GenesisAccount.parsed at leftParsed rightParsed
    cases left : Address.fromHex left.address with
    | error failure => simp [left] at leftParsed
    | ok leftAddr =>
        cases right : Address.fromHex right.address with
        | error failure => simp [right] at rightParsed
        | ok rightAddr =>
            simp only [left, right, Option.some.injEq] at leftParsed rightParsed
            rw [← leftParsed, ← rightParsed] at same
            exact different (left.trans ((congrArg Except.ok same).trans right.symm))
  refine ⟨reorderedParses, ?_⟩
  rw [parses.intoState, reorderedParses.intoState,
    State.new_sorted.setAll_congr (lastWrite_perm distinctKeys (perm.filterMap _))]

/-- Calls of `apply_tx`, failing ones included, one after the other. -/
def State.applyCalls (state : State) (txs : List Tx) : State :=
  txs.foldl (fun state tx => (attempt (applyTx tx) state).2) state

theorem State.Sorted.applyCalls {state : State} (sorted : state.Sorted) (txs : List Tx) :
    (state.applyCalls txs).Sorted := by
  induction txs generalizing state with
  | nil => exact sorted
  | cons tx rest inductionHypothesis =>
      apply inductionHypothesis
      show (attempt (applyTx tx) state).2.Sorted
      rw [applyTx_realizes.attempt]
      cases accepted : state.apply tx with
      | ok next => exact sorted.apply accepted
      | error failure => exact sorted

/-- Whatever is written and applied, the list stays a sorted map: reads return
the last write, equal last writes make equal lists and roots, and a genesis file
with distinct addresses has one root, in any order and for both tools. -/
theorem state_is_canonical_map :
    (∀ writes txs, ((State.new.setAll writes).applyCalls txs).Sorted) ∧
    (∀ writes txs addr account,
      (((State.new.setAll writes).applyCalls txs).set addr account).get addr = account ∧
      ∀ other, other ≠ addr →
        (((State.new.setAll writes).applyCalls txs).set addr account).get other =
          ((State.new.setAll writes).applyCalls txs).get other) ∧
    (∀ writes others, (∀ addr, lastWrite writes addr = lastWrite others addr) →
      (State.new.setAll writes).accounts = (State.new.setAll others).accounts ∧
        (State.new.setAll writes).merkleRoot = (State.new.setAll others).merkleRoot) ∧
    ∀ genesis reordered : Genesis, genesis.Parses →
      (genesis.accounts.Pairwise fun left right =>
        Address.fromHex left.address ≠ Address.fromHex right.address) →
      genesis.accounts.Perm reordered.accounts →
      ∃ state, genesis.intoState = .ok state ∧ reordered.intoState = .ok state ∧
        ComputeRoot.main genesis =
          .ok ([0x30, 0x78] ++ Hex.encode state.merkleRoot.bytes ++ [0x0A]) ∧
        ComputeRoot.main reordered = ComputeRoot.main genesis := by
  have sorted : ∀ writes txs, ((State.new.setAll writes).applyCalls txs).Sorted :=
    fun writes txs => (State.new_sorted.setAll writes).applyCalls txs
  refine ⟨sorted, ?_, ?_, ?_⟩
  · intro writes txs addr account
    exact ⟨(sorted writes txs).get_set_self addr account,
      fun other different => (sorted writes txs).get_set_of_ne different account⟩
  · intro writes others same
    rw [State.new_sorted.setAll_congr same]
    exact ⟨rfl, rfl⟩
  · intro genesis reordered parses distinct perm
    obtain ⟨reorderedParses, sameState⟩ := parses.intoState_perm distinct perm
    have built := parses.intoState
    have rebuilt := sameState.trans built
    refine ⟨_, built, rebuilt, parses.computeRoot built, ?_⟩
    rw [parses.computeRoot built, reorderedParses.computeRoot rebuilt]

end

namespace HappyPath

/-- The test genesis with its entries swapped. -/
def swappedFile : Genesis where
  accounts := genesisFile.accounts.reverse

end HappyPath

open HappyPath in
theorem state_is_canonical_map_happyPath :
    ∃ state, genesisFile.intoState = .ok state ∧ swappedFile.intoState = .ok state ∧
      ComputeRoot.main swappedFile = ComputeRoot.main genesisFile := by
  have parses : genesisFile.Parses := by
    intro entry member
    rcases List.mem_pair.mp member with rfl | rfl
    · exact ⟨alice, by decide +kernel⟩
    · exact ⟨bob, by decide +kernel⟩
  rcases state_is_canonical_map.2.2.2 genesisFile swappedFile parses (by decide +kernel)
    (List.reverse_perm _).symm with ⟨state, built, rebuilt, -, sameLine⟩
  exact ⟨state, built, rebuilt, sameLine⟩

end ZkRollup
