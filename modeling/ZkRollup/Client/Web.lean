import ZkRollup.Sequencer.Pending
import ZkRollup.Sequencer.Queries
import ZkRollup.System.Acceptance
import ZkRollup.System.Reads

/-!
Contract: the transfer form of the web client (`web/app.tsx`) against the
sequencer it talks to; the demo script signs its transfers the same way
(`index.ts`).

The client picks the nonce from what `/state` and `/mempool` have told it,
compares addresses as lower-case texts, signs a digest it computes itself and
sends numbers through JSON. The libraries for accounts and for JSON are outside.

Owns: in any state of any run without a failed commit, the request is accepted
exactly if the transfer can be paid for.
-/

set_option autoImplicit false

namespace ZkRollup

open Foundation

namespace Web

/-! ## The libraries -/

/-- An account of viem: the text of its address and its signatures as texts. -/
structure Signer where
  address : Bytes
  sign : Hash → Bytes

/-- Numbers between `u64` and JavaScript: what `JSON.parse` makes of one, and what
the other side reads from the JSON text of `Number(value)`, if it can. -/
structure Numbers where
  parse : UInt64 → Nat
  stringify : (value : Nat) → Option UInt64

/-- Integers up to `2 ^ 53` are exact. -/
structure Numbers.Documented (numbers : Numbers) : Prop where
  parse : ∀ value : UInt64, value.toNat ≤ 2 ^ 53 → numbers.parse value = value.toNat
  stringify : ∀ value, value ≤ 2 ^ 53 → numbers.stringify value = some (UInt64.ofNat value)

/-- The address is a prefixed text in some mixed case. -/
def Signer.Named (account : Signer) (addr : Address) : Prop :=
  ∃ digits, account.address = [0x30, 0x78] ++ digits ∧ digits.map Hex.lower = Hex.encode addr.bytes

/-- The signature of this digest recovers to the address. -/
def Signer.Signs [Primitives] (account : Signer) (addr : Address) (hash : Hash) : Prop :=
  ∃ signature, account.sign hash = hex0x signature ∧ signature.length = 65 ∧
    recoverAddress hash signature = .ok addr

/-! ## The form -/

/-- `hexToBytes` on a text of even length; it throws on other characters. -/
def hexToBytes (text : Bytes) : Option Bytes :=
  (Hex.decode (text.drop 2)).toOption

/-- `numberToBytes(value, { size: 8 })`; it throws on numbers that do not fit. -/
def numberToBytes (value : Nat) : Option Bytes :=
  if value < 2 ^ 64 then some (beBytes 8 value) else none

/-- What the last `refresh` has stored. -/
structure View where
  accounts : Bytes → Option AccountResponse
  mempool : List MempoolEntry

def refresh {Wallet : Type} (ctx : AppCtx Wallet) (alice bob : Signer) : View where
  accounts key :=
    if key = alice.address.map Hex.lower ∨ key = bob.address.map Hex.lower then
      (ctx.account key).toOption
    else none
  mempool := ctx.mempool

section

variable [Primitives]

def signingHash («from» «to» : Bytes) (amount nonce : Nat) : Option Hash := do
  let fromBytes ← hexToBytes «from»
  let toBytes ← hexToBytes «to»
  let amountBytes ← numberToBytes amount
  let nonceBytes ← numberToBytes nonce
  return keccak256 (fromBytes ++ toBytes ++ amountBytes ++ nonceBytes)

/-- The body of `POST /tx` that the other side reads, if there is one. -/
def signedRequest (numbers : Numbers) (account : Signer) («to» : Bytes) (amount nonce : Nat) :
    Option TxRequest := do
  let hash ← signingHash account.address «to» amount nonce
  return {
    «from» := account.address
    «to»
    amount := ← numbers.stringify amount
    nonce := ← numbers.stringify nonce
    signature := account.sign hash }

/-- Nothing is sent if the account is not known yet. -/
def submitTransfer (numbers : Numbers) (view : View) (fromAcc toAcc : Signer) (amount : Nat) :
    Option TxRequest := do
  let fromAddr := fromAcc.address.map Hex.lower
  let acc ← view.accounts fromAddr
  let pending := (view.mempool.filter fun entry => entry.from.map Hex.lower = fromAddr).length
  let nonce := numbers.parse acc.nonce + pending
  signedRequest numbers fromAcc toAcc.address amount nonce

/-! ## Texts and numbers -/

omit [Primitives] in
theorem Signer.Named.lower {account : Signer} {addr : Address} (named : account.Named addr) :
    account.address.map Hex.lower = Address.toHex addr := by
  obtain ⟨digits, spelled, same⟩ := named
  rw [spelled, List.map_append, same]
  rfl

omit [Primitives] in
theorem Signer.Named.fromHex {account : Signer} {addr : Address} (named : account.Named addr) :
    Address.fromHex account.address = .ok addr := by
  obtain ⟨digits, spelled, same⟩ := named
  rw [spelled]
  exact Address.fromHex_eq_ok.mpr same

omit [Primitives] in
theorem Signer.Named.hexToBytes {account : Signer} {addr : Address} (named : account.Named addr) :
    Web.hexToBytes account.address = some addr.bytes := by
  obtain ⟨digits, spelled, same⟩ := named
  rw [spelled]
  show (Hex.decode digits).toOption = some addr.bytes
  rw [Hex.decode_eq_ok.mpr same]
  rfl

omit [Primitives] in
theorem map_lower_toHex (addr : Address) :
    (Address.toHex addr).map Hex.lower = Address.toHex addr := by
  unfold Address.toHex
  rw [List.map_append, Hex.map_lower_encode]
  rfl

/-- The client's digest is the one the transition function recovers from. -/
theorem signingHash_eq {fromAcc toAcc : Signer} {tx : Tx} (fromNamed : fromAcc.Named tx.from)
    (toNamed : toAcc.Named tx.to) :
    signingHash fromAcc.address toAcc.address tx.amount.toNat tx.nonce.toNat =
      some tx.signingHash := by
  have amount := tx.amount.toNat_lt
  have nonce := tx.nonce.toNat_lt
  simp only [signingHash, fromNamed.hexToBytes, toNamed.hexToBytes, numberToBytes, if_pos amount,
    if_pos nonce, Option.bind_eq_bind, Option.bind_some]
  rfl

/-- A signed request is parsed to the transfer it was made for. -/
theorem signedRequest_intoTx {numbers : Numbers} (documented : numbers.Documented)
    {fromAcc toAcc : Signer} {sender receiver : Address} (fromNamed : fromAcc.Named sender)
    (toNamed : toAcc.Named receiver) {amount nonce : Nat} (small : amount ≤ 2 ^ 53)
    (countable : nonce ≤ 2 ^ 53)
    (signs : ∀ hash, signingHash fromAcc.address toAcc.address amount nonce = some hash →
      fromAcc.Signs sender hash) :
    ∃ request tx, signedRequest numbers fromAcc toAcc.address amount nonce = some request ∧
      request.intoTx = .ok tx ∧ tx.from = sender ∧ tx.to = receiver ∧
      tx.amount.toNat = amount ∧ tx.nonce.toNat = nonce ∧ tx.Signed := by
  have amountBack : (UInt64.ofNat amount).toNat = amount := by
    rw [UInt64.toNat_ofNat', Nat.mod_eq_of_lt (by omega)]
  have nonceBack : (UInt64.ofNat nonce).toNat = nonce := by
    rw [UInt64.toNat_ofNat', Nat.mod_eq_of_lt (by omega)]
  have digest : ∀ signature, signingHash fromAcc.address toAcc.address amount nonce =
      some (Tx.signingHash {
        «from» := sender, «to» := receiver
        amount := UInt64.ofNat amount, nonce := UInt64.ofNat nonce, signature }) := by
    intro signature
    rw [← signingHash_eq fromNamed toNamed, amountBack, nonceBack]
  obtain ⟨signature, signed, sized, recovers⟩ := signs _ (digest [])
  refine ⟨{
      «from» := fromAcc.address, «to» := toAcc.address
      amount := UInt64.ofNat amount, nonce := UInt64.ofNat nonce
      signature := hex0x signature }, {
      «from» := sender, «to» := receiver
      amount := UInt64.ofNat amount, nonce := UInt64.ofNat nonce, signature },
    ?_, ?_, rfl, rfl, amountBack, nonceBack, recovers⟩
  · simp only [signedRequest, digest [], documented.stringify _ small, documented.stringify _ countable,
      Option.bind_eq_bind, Option.bind_some, signed]
    rfl
  · have decoded : Hex.decode (stripHexPrefix (hex0x signature)) = .ok signature :=
      Hex.decode_encode signature
    simp only [TxRequest.intoTx, fromNamed.fromHex, toNamed.fromHex, decoded, Except.mapError,
      bind, Except.bind, sized, ne_eq, not_true_eq_false, if_false]
    rfl

/-! ## The sequencer's side -/

/-- On agreeing layers the speculative nonce counts the mempool. -/
theorem speculative_nonce {sequencer : SequencerState} (sorted : sequencer.canonicalState.Sorted)
    (consistent : sequencer.Consistent) (addr : Address) :
    (sequencer.speculativeState.ledger addr).nonce = sequencer.clientNonce addr % 2 ^ 64 := by
  rw [sorted.applyAll_ledger consistent.pending]
  rfl

/-- `/tx` takes a signed transfer at the nonce of the form exactly if it is paid
for and the credit fits. -/
theorem submitTx_accepts_iff {sequencer : SequencerState}
    (sorted : sequencer.canonicalState.Sorted) (consistent : sequencer.Consistent)
    {request : TxRequest} {tx : Tx} (parsed : request.intoTx = .ok tx) (signed : tx.Signed)
    (distinct : tx.from ≠ tx.to) (chosen : tx.nonce.toNat = sequencer.clientNonce tx.from) :
    (∃ response after, (submitTx request).run sequencer = .ok response after) ↔
      tx.amount.toNat ≤ (sequencer.speculativeState.get tx.from).balance.toNat ∧
        (sequencer.speculativeState.get tx.to).balance.toNat + tx.amount.toNat < 2 ^ 64 := by
  have expected := speculative_nonce sorted consistent tx.from
  rw [← chosen, Nat.mod_eq_of_lt tx.nonce.toNat_lt] at expected
  constructor
  · rintro ⟨response, after, accepted⟩
    obtain ⟨other, otherParsed, admitted, -⟩ := submitTx_ok.mp accepted
    rw [parsed] at otherParsed
    cases otherParsed
    obtain ⟨extended, applied, -⟩ := SequencerState.admission_ok.mp admitted
    have accepts := (State.apply_ok.mp applied).1
    exact ⟨State.le_ledger_balance.mp accepts.funded, State.ledger_fits.mp accepts.fits⟩
  · rintro ⟨funded, fits⟩
    have accepts : sequencer.speculativeState.ledger.Accepts tx := {
      distinct, signed, nonce := expected.symm
      funded := State.le_ledger_balance.mpr funded
      fits := State.ledger_fits.mpr fits }
    have applied := State.apply_ok.mpr ⟨accepts, rfl⟩
    exact ⟨_, _, submitTx_ok.mpr ⟨tx, parsed, SequencerState.admission_ok.mpr ⟨_, applied, rfl⟩, rfl⟩⟩

/-- In every state of every run in which no commit has failed: the request that
the form builds from the answers of that state is well formed, signed, and at the
nonce behind the sender's pending transfers, and it is accepted exactly if the
sender's speculative balance covers it and the receiver's can take it. -/
theorem form_transfer_accepted_iff {Wallet : Type} (genesis : Genesis) (start : State)
    (loaded : genesis.intoState = .ok start) (rollup : Rollup) (system : System)
    (run : Run System.step (fun _ _ => True) (System.initial start rollup) system)
    (intact : system.Intact) (ctx : AppCtx Wallet) (numbers : Numbers)
    (documented : numbers.Documented) (fromAcc toAcc : Signer) (sender receiver : Address)
    (fromNamed : fromAcc.Named sender) (toNamed : toAcc.Named receiver)
    (distinct : sender ≠ receiver) (amount : Nat) (small : amount ≤ 2 ^ 53)
    (countable : system.sequencer.clientNonce sender ≤ 2 ^ 53)
    (signs : ∀ hash, signingHash fromAcc.address toAcc.address amount
      (system.sequencer.clientNonce sender) = some hash → fromAcc.Signs sender hash) :
    ∃ request tx,
      submitTransfer numbers (refresh (ctx.during system.sequencer) fromAcc toAcc) fromAcc toAcc
        amount = some request ∧
      request.intoTx = .ok tx ∧ tx.from = sender ∧ tx.to = receiver ∧ tx.amount.toNat = amount ∧
      tx.nonce.toNat = system.sequencer.clientNonce sender ∧ tx.Signed ∧
      ((∃ response after, (submitTx request).run system.sequencer = .ok response after) ↔
        amount ≤ (system.sequencer.speculativeState.get sender).balance.toNat ∧
          (system.sequencer.speculativeState.get receiver).balance.toNat + amount < 2 ^ 64) := by
  have admits := System.admits_of_run (Genesis.intoState_sorted loaded) run
  obtain ⟨request, tx, built, parsed, rfl, rfl, rfl, chosen, signed⟩ :=
    signedRequest_intoTx documented fromNamed toNamed small countable signs
  refine ⟨request, tx, ?_, parsed, rfl, rfl, rfl, chosen, signed,
    submitTx_accepts_iff admits.based.canonical (admits.consistent intact) parsed signed distinct
      chosen⟩
  have known : (refresh (ctx.during system.sequencer) fromAcc toAcc).accounts
      (Address.toHex tx.from) = some {
        address := Address.toHex tx.from
        balance := (system.sequencer.canonicalState.get tx.from).balance
        nonce := (system.sequencer.canonicalState.get tx.from).nonce } := by
    simp only [refresh, fromNamed.lower, true_or, if_true]
    rw [AppCtx.account_eq_ok.mpr ⟨tx.from, Address.fromHex_toHex _, rfl⟩]
    rfl
  have counted : ((refresh (ctx.during system.sequencer) fromAcc toAcc).mempool.filter fun entry =>
      entry.from.map Hex.lower = Address.toHex tx.from).length =
        (sentBy tx.from system.sequencer.mempool).length := by
    refine Eq.trans ?_ (AppCtx.mempool_filter (ctx.during system.sequencer) tx.from)
    congr 1
    refine List.filter_congr fun entry member => ?_
    obtain ⟨pending, -, rfl⟩ := List.mem_map.mp member
    simp only [map_lower_toHex]
  have nonce : numbers.parse (system.sequencer.canonicalState.get tx.from).nonce =
      (system.sequencer.canonicalState.get tx.from).nonce.toNat := by
    refine documented.parse _ ?_
    unfold SequencerState.clientNonce at countable
    omega
  simp only [submitTransfer, fromNamed.lower, known, Option.bind_eq_bind, Option.bind_some, counted,
    nonce]
  exact built

end

end Web

namespace Resubmission

/-- The two wallets, with the mixed case of their addresses. -/
def aliceSigner : Web.Signer where
  address := utf8 "0x1a642f0E3c3aF545E7AcBD38b07251B3990914F1"
  sign _ := hex0x (secondRS.bytes ++ [27])

def bobSigner : Web.Signer where
  address := utf8 "0x5050A4F4b3f9338C3472dcC01A87C76A144b3c9c"
  sign _ := hex0x []

/-- Whatever is beyond `2 ^ 53` is no number here. -/
def numbers : Web.Numbers where
  parse value := value.toNat
  stringify value := if value ≤ 2 ^ 53 then some (UInt64.ofNat value) else none

theorem numbers_documented : numbers.Documented where
  parse _ _ := rfl
  stringify _ small := if_pos small

end Resubmission

open Resubmission in
open HappyPath (genesisFile genesis deployed transferRequest submitted context alice bob) in
/-- A second transfer from the form while the first one waits in the mempool. -/
theorem Web.form_transfer_accepted_iff_resubmission :
    ∃ request tx, Web.submitTransfer numbers
        (Web.refresh (context.during submitted.sequencer) aliceSigner bobSigner) aliceSigner
        bobSigner 250 = some request ∧ request.intoTx = .ok tx ∧ tx.nonce = 1 ∧
      ∃ response after, (submitTx request).run submitted.sequencer = .ok response after := by
  obtain ⟨request, tx, built, parsed, -, -, -, nonce, -, accepted⟩ :=
    Web.form_transfer_accepted_iff genesisFile genesis (by decide +kernel) deployed submitted
      (Run.of_events [.submitTx transferRequest] (by simp) (by decide +kernel))
      (fun request member => by cases member) context numbers numbers_documented aliceSigner
      bobSigner alice bob ⟨_, rfl, by decide +kernel⟩ ⟨_, rfl, by decide +kernel⟩
      (by decide +kernel) 250 (by decide) (by decide +kernel) (by
        intro hash digest
        have same : Web.signingHash aliceSigner.address bobSigner.address 250 1 =
            some secondDigest := by decide +kernel
        obtain rfl := Option.some.inj (same.symm.trans digest)
        exact ⟨secondRS.bytes ++ [27], rfl, by decide +kernel, by decide +kernel⟩)
  have behind : submitted.sequencer.clientNonce alice = 1 := by decide +kernel
  exact ⟨request, tx, built, parsed, UInt64.toNat_inj.mp (nonce.trans behind),
    accepted.mpr (by decide +kernel)⟩

end ZkRollup
