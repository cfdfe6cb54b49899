import Mathlib.Data.List.Range
import Mathlib.Data.List.Dedup
import ZkRollup.Stf.ApplyBatch

/-!
Contract: a signature authorises at most one debit.

The transfers an account sends carry consecutive nonces, starting at the nonce
the account had. That one fact rules out replays: whatever is accepted is below
the next expected nonce for good. Key recovery stays an arbitrary function; all
that is used of it is that `apply_tx` compares its answer with the sender.
-/

set_option autoImplicit false

namespace ZkRollup

open Foundation

section

variable [Primitives]

/-! ## Definitions -/

/-- The state behind a list of batches, each applied to the state the one
before it produced. -/
def State.applyBatches (state : State) (batches : List Batch) : Except StfError State :=
  replay (fun prev batch => (applyBatch prev batch).map ApplyOutput.newState) state batches

/-- A 65-byte signature that recovers to the address over the hash of the four
signed fields of this very transfer. -/
def Tx.AuthorisedBy (tx : Tx) (addr : Address) : Prop :=
  tx.from = addr ∧ tx.signature.length = 65 ∧
    recoverAddress (keccak256 tx.signingPayload) tx.signature = .ok addr

instance (tx : Tx) (addr : Address) : Decidable (tx.AuthorisedBy addr) := by
  unfold Tx.AuthorisedBy; infer_instance

/-- Everything an account loses along a run, step by step. -/
def State.debited (addr : Address) : State → List Tx → Nat
  | _, [] => 0
  | state, tx :: rest =>
      match state.apply tx with
      | .ok next =>
          (state.get addr).balance.toNat - (next.get addr).balance.toNat +
            State.debited addr next rest
      | .error _ => 0

/-- The distinct nonces for which the run carries such a signature. -/
def signedNonces (addr : Address) (txs : List Tx) : List UInt64 :=
  ((txs.filter fun tx => tx.AuthorisedBy addr).map Tx.nonce).dedup

/-- The amount signed for a nonce, in the transfer of the run that carries it. -/
def signedAmount (addr : Address) (txs : List Tx) (nonce : UInt64) : Nat :=
  match (sentBy addr txs).find? fun tx => tx.nonce = nonce with
  | some tx => tx.amount.toNat
  | none => 0

/-- What holds of an account in a run of accepted transfers. -/
structure Authorised (start : State) (txs : List Tx) (addr : Address) : Prop where
  /-- No two of its transfers carry one nonce. -/
  noncesDistinct : ((sentBy addr txs).map Tx.nonce).Nodup
  /-- A step that lowers its balance or changes its nonce is its own signed transfer. -/
  stepsSigned : ∀ before tx after reached next, txs = before ++ tx :: after →
    start.applyAll before = .ok reached → reached.apply tx = .ok next →
    (next.get addr).balance < (reached.get addr).balance ∨
      (next.get addr).nonce ≠ (reached.get addr).nonce →
    tx.AuthorisedBy addr
  /-- It never loses more than it signed for, nonce by nonce. -/
  debitsSigned : State.debited addr start txs ≤
    ((signedNonces addr txs).map (signedAmount addr txs)).sum
  /-- What it sent once is never accepted again, whatever the signature bytes. -/
  noReplay : ∀ before tx between after reached, txs = before ++ tx :: (between ++ after) →
    start.applyAll (before ++ tx :: between) = .ok reached → tx.from = addr →
    ∀ resubmitted : Tx, resubmitted.from = tx.from → resubmitted.nonce = tx.nonce →
    ∀ next, reached.apply resubmitted ≠ .ok next

/-! ## Recovery -/

theorem recoverAddress_length {msgHash : Hash} {signature : Bytes} {addr : Address}
    (recovered : recoverAddress msgHash signature = .ok addr) : signature.length = 65 := by
  by_contra other
  unfold recoverAddress at recovered
  rw [dif_neg other] at recovered
  cases recovered

theorem Ledger.Accepts.authorised {ledger : Ledger} {tx : Tx} (accepts : ledger.Accepts tx) :
    tx.AuthorisedBy tx.from :=
  ⟨rfl, recoverAddress_length accepts.signed, accepts.signed⟩

/-! ## Consecutive nonces -/

variable {start final : State} {txs : List Tx}

/-- The effect of one accepted transfer on the account of one address. Only the
nonce can wrap. -/
theorem State.Sorted.apply_account_wrapping {next : State} {tx : Tx} (sorted : start.Sorted)
    (accepted : start.apply tx = .ok next) (addr : Address) :
    ((next.get addr).nonce.toNat =
        ((start.get addr).nonce.toNat + if tx.from = addr then 1 else 0) % 2 ^ 64) ∧
      (next.get addr).balance.toNat + (if tx.from = addr then tx.amount.toNat else 0) =
        (start.get addr).balance.toNat + if tx.to = addr then tx.amount.toNat else 0 := by
  have moved := congrFun (sorted.apply_ledger accepted) addr
  have distinct := (State.apply_ok.mp accepted).1.distinct
  simp only [State.ledger, Ledger.after, sentBy_singleton, receivedBy_singleton,
    LedgerAccount.mk.injEq] at moved
  by_cases sender : tx.from = addr
  · have recipient : ¬ tx.to = addr := fun same => distinct (sender.trans same.symm)
    simp only [if_pos sender, if_neg recipient, amounts, List.map_cons, List.map_nil,
      List.sum_cons, List.sum_nil, List.length_cons, List.length_nil] at moved ⊢
    omega
  · by_cases recipient : tx.to = addr
    · simp only [if_neg sender, if_pos recipient, amounts, List.map_cons, List.map_nil,
        List.sum_cons, List.sum_nil, List.length_nil] at moved ⊢
      omega
    · simp only [if_neg sender, if_neg recipient, amounts, List.map_nil, List.sum_nil,
        List.length_nil] at moved ⊢
      omega

theorem State.Sorted.apply_account {next : State} {tx : Tx} (sorted : start.Sorted)
    (accepted : start.apply tx = .ok next) (room : tx.NonceRoom) (addr : Address) :
    ((next.get addr).nonce.toNat =
        (start.get addr).nonce.toNat + if tx.from = addr then 1 else 0) ∧
      (next.get addr).balance.toNat + (if tx.from = addr then tx.amount.toNat else 0) =
        (start.get addr).balance.toNat + if tx.to = addr then tx.amount.toNat else 0 := by
  have wrapping := sorted.apply_account_wrapping accepted addr
  have atNonce : tx.nonce.toNat = (start.get tx.from).nonce.toNat :=
    (State.apply_ok.mp accepted).1.nonce
  have small := (start.get addr).nonce.toNat_lt
  unfold Tx.NonceRoom at room
  refine ⟨wrapping.1.trans (Nat.mod_eq_of_lt ?_), wrapping.2⟩
  by_cases sender : tx.from = addr
  · rw [if_pos sender, ← sender, ← atNonce]
    exact room
  · rw [if_neg sender]
    exact small

/-- The nonces an account sends count up from the nonce it had, and its nonce
ends one past the last. -/
theorem State.Sorted.sent_nonces (sorted : start.Sorted) (room : ∀ tx ∈ txs, tx.NonceRoom)
    (accepted : start.applyAll txs = .ok final) (addr : Address) :
    (sentBy addr txs).map (fun tx => tx.nonce.toNat) =
        List.range' (start.get addr).nonce.toNat (sentBy addr txs).length ∧
      (final.get addr).nonce.toNat =
        (start.get addr).nonce.toNat + (sentBy addr txs).length := by
  induction txs generalizing start with
  | nil =>
      cases accepted
      exact ⟨rfl, rfl⟩
  | cons tx rest inductionHypothesis =>
      rcases replay_cons_ok.mp accepted with ⟨next, first, later⟩
      have atHead := (sorted.apply_account first (room tx (by simp)) addr).1
      have inRest := inductionHypothesis (sorted.apply first)
        (fun other member => room other (by simp [member])) later
      by_cases sender : tx.from = addr
      · have nonce : tx.nonce.toNat = (start.get tx.from).nonce.toNat :=
          (State.apply_ok.mp first).1.nonce
        have head : sentBy addr (tx :: rest) = tx :: sentBy addr rest := by
          simp [sentBy, sender]
        rw [if_pos sender] at atHead
        rw [sender] at nonce
        rw [head, List.map_cons, List.length_cons, List.range'_succ, inRest.1, inRest.2, atHead,
          nonce]
        exact ⟨rfl, by omega⟩
      · have head : sentBy addr (tx :: rest) = sentBy addr rest := by
          simp [sentBy, sender]
        rw [if_neg sender, Nat.add_zero] at atHead
        rw [head, inRest.1, inRest.2, atHead]
        exact ⟨rfl, rfl⟩

/-- Nonces only grow along a run. -/
theorem State.Sorted.nonce_le (sorted : start.Sorted) (room : ∀ tx ∈ txs, tx.NonceRoom)
    (accepted : start.applyAll txs = .ok final) (addr : Address) :
    (start.get addr).nonce.toNat ≤ (final.get addr).nonce.toNat := by
  rw [(sorted.sent_nonces room accepted addr).2]
  exact Nat.le_add_right _ _

/-- What a run has applied lies between the nonces before and after it. -/
theorem State.Sorted.nonce_of_applied (sorted : start.Sorted) (room : ∀ tx ∈ txs, tx.NonceRoom)
    (accepted : start.applyAll txs = .ok final) {tx : Tx} (member : tx ∈ txs) :
    (start.get tx.from).nonce.toNat ≤ tx.nonce.toNat ∧
      tx.nonce.toNat < (final.get tx.from).nonce.toNat := by
  have nonces := sorted.sent_nonces room accepted tx.from
  have sent : tx ∈ sentBy tx.from txs := List.mem_filter.mpr ⟨member, by simp⟩
  have inRange : tx.nonce.toNat ∈ (sentBy tx.from txs).map fun tx => tx.nonce.toNat :=
    List.mem_map.mpr ⟨tx, sent, rfl⟩
  rw [nonces.1, List.mem_range'_1] at inRange
  rw [nonces.2]
  exact inRange

/-- After a run that is shorter than `2 ^ 64`, no nonce of it is expected again,
even if nonces have wrapped on the way. -/
theorem State.Sorted.nonce_not_repeated (sorted : start.Sorted)
    (accepted : start.applyAll txs = .ok final) (short : txs.length < 2 ^ 64) {tx next : Tx}
    (member : tx ∈ txs) (sameSender : next.from = tx.from)
    (expected : (final.get next.from).nonce = next.nonce) : next.nonce ≠ tx.nonce := by
  intro sameNonce
  rcases List.append_of_mem member with ⟨before, after, rfl⟩
  rcases replay_append_ok.mp accepted with ⟨middle, first, later⟩
  rcases replay_cons_ok.mp later with ⟨afterTx, atTx, -⟩
  have nonce : tx.nonce.toNat = (middle.ledger tx.from).nonce := (State.apply_ok.mp atTx).1.nonce
  have nonceAgain : (final.ledger tx.from).nonce = tx.nonce.toNat := by
    rw [← sameNonce, ← sameSender, ← expected]
    rfl
  have inBetween : (sentBy tx.from (before ++ tx :: after)).length =
      (sentBy tx.from before).length + 1 + (sentBy tx.from after).length := by
    rw [sentBy_append, List.length_append]
    simp [sentBy]
    omega
  have bound : (sentBy tx.from (before ++ tx :: after)).length ≤
      (before ++ tx :: after).length := List.length_filter_le _ _
  rw [sorted.applyAll_ledger first] at nonce
  rw [sorted.applyAll_ledger accepted] at nonceAgain
  simp only [Ledger.after] at nonce nonceAgain
  omega

theorem State.Sorted.sent_nonces_nodup (sorted : start.Sorted)
    (room : ∀ tx ∈ txs, tx.NonceRoom) (accepted : start.applyAll txs = .ok final)
    (addr : Address) : ((sentBy addr txs).map Tx.nonce).Nodup := by
  have distinct : ((sentBy addr txs).map fun tx => tx.nonce.toNat).Nodup := by
    rw [(sorted.sent_nonces room accepted addr).1]
    exact List.nodup_range'
  have image : (sentBy addr txs).map (fun tx => tx.nonce.toNat) =
      ((sentBy addr txs).map Tx.nonce).map UInt64.toNat := by
    rw [List.map_map]
    rfl
  rw [image] at distinct
  exact distinct.of_map UInt64.toNat

omit [Primitives] in
private theorem nodup_of_sent_nodup {txs : List Tx}
    (distinct : ∀ addr, ((sentBy addr txs).map Tx.nonce).Nodup) :
    (txs.map fun tx => (tx.from, tx.nonce)).Nodup := by
  induction txs with
  | nil => exact List.nodup_nil
  | cons head rest inductionHypothesis =>
      rw [List.map_cons, List.nodup_cons]
      constructor
      · intro member
        rcases List.mem_map.mp member with ⟨other, inRest, same⟩
        have atHead := distinct head.from
        have split : sentBy head.from (head :: rest) = head :: sentBy head.from rest := by
          simp [sentBy]
        rw [split, List.map_cons, List.nodup_cons] at atHead
        rw [Prod.mk.injEq] at same
        apply atHead.1
        rw [← same.2]
        exact List.mem_map_of_mem (List.mem_filter.mpr ⟨inRest, by simp [same.1]⟩)
      · refine inductionHypothesis fun addr => (distinct addr).sublist ?_
        exact ((List.sublist_cons_self head rest).filter _).map _

/-- No sender uses a nonce twice in a run. -/
theorem State.Sorted.sender_nonces_nodup (sorted : start.Sorted)
    (room : ∀ tx ∈ txs, tx.NonceRoom) (accepted : start.applyAll txs = .ok final) :
    (txs.map fun tx => (tx.from, tx.nonce)).Nodup :=
  nodup_of_sent_nodup (sorted.sent_nonces_nodup room accepted)

/-- No transfer is accepted twice in a run. -/
theorem State.Sorted.applyAll_nodup (sorted : start.Sorted)
    (room : ∀ tx ∈ txs, tx.NonceRoom) (accepted : start.applyAll txs = .ok final) :
    txs.Nodup :=
  (sorted.sender_nonces_nodup room accepted).of_map _

/-! ## Debits -/

/-- An account loses exactly what it sent. -/
theorem State.Sorted.debited_eq (sorted : start.Sorted) (room : ∀ tx ∈ txs, tx.NonceRoom)
    (accepted : start.applyAll txs = .ok final) (addr : Address) :
    State.debited addr start txs = amounts (sentBy addr txs) := by
  induction txs generalizing start with
  | nil => rfl
  | cons tx rest inductionHypothesis =>
      rcases replay_cons_ok.mp accepted with ⟨next, first, later⟩
      have atHead := (sorted.apply_account first (room tx (by simp)) addr).2
      have distinct := (State.apply_ok.mp first).1.distinct
      have inRest := inductionHypothesis (sorted.apply first)
        (fun other member => room other (by simp [member])) later
      have split : amounts (sentBy addr (tx :: rest)) =
          (if tx.from = addr then tx.amount.toNat else 0) + amounts (sentBy addr rest) := by
        by_cases sender : tx.from = addr <;> simp [sentBy, sender, amounts]
      simp only [State.debited, first]
      rw [inRest, split]
      by_cases sender : tx.from = addr
      · have recipient : ¬ tx.to = addr := fun same => distinct (sender.trans same.symm)
        rw [if_pos sender, if_neg recipient] at atHead
        rw [if_pos sender]
        omega
      · rw [if_neg sender] at atHead ⊢
        omega

/-- All transfers of an accepted run are authorised by their senders. -/
theorem authorised_of_applyAll (accepted : start.applyAll txs = .ok final) :
    ∀ tx ∈ txs, tx.AuthorisedBy tx.from := by
  induction txs generalizing start with
  | nil => simp
  | cons tx rest inductionHypothesis =>
      rcases replay_cons_ok.mp accepted with ⟨next, first, later⟩
      intro other member
      rcases List.mem_cons.mp member with rfl | inRest
      · exact (State.apply_ok.mp first).1.authorised
      · exact inductionHypothesis later other inRest

omit [Primitives] in
private theorem find_nonce_of_nodup {txs : List Tx} (distinct : (txs.map Tx.nonce).Nodup)
    {tx : Tx} (member : tx ∈ txs) :
    txs.find? (fun other => other.nonce = tx.nonce) = some tx := by
  induction txs with
  | nil => cases member
  | cons head rest inductionHypothesis =>
      rw [List.map_cons, List.nodup_cons] at distinct
      rcases List.mem_cons.mp member with rfl | inRest
      · simp
      · have other : ¬ head.nonce = tx.nonce := by
          intro same
          exact distinct.1 (same ▸ List.mem_map_of_mem inRest)
        rw [List.find?_cons_of_neg (by simpa using other)]
        exact inductionHypothesis distinct.2 inRest

/-- Summing over the signed nonces counts every sent transfer once. -/
theorem signedAmount_sum {addr : Address} (distinct : ((sentBy addr txs).map Tx.nonce).Nodup)
    (authorised : ∀ tx ∈ txs, tx.AuthorisedBy tx.from) :
    ((signedNonces addr txs).map (signedAmount addr txs)).sum = amounts (sentBy addr txs) := by
  have allSigned : txs.filter (fun tx => tx.AuthorisedBy addr) = sentBy addr txs := by
    apply List.filter_congr
    intro tx member
    apply decide_eq_decide.mpr
    exact ⟨fun signed => signed.1, fun sender => sender ▸ authorised tx member⟩
  unfold signedNonces amounts
  rw [allSigned, distinct.dedup, List.map_map]
  congr 1
  apply List.map_congr_left
  intro tx member
  simp only [Function.comp_apply, signedAmount, find_nonce_of_nodup distinct member]

/-! ## Runs of batches -/

/-- How transfers are split into batches does not matter. -/
theorem State.applyBatches_ok {batches : List Batch} :
    start.applyBatches batches = .ok final ↔
      start.applyAll (batches.flatMap Batch.txs) = .ok final := by
  induction batches generalizing start with
  | nil => rfl
  | cons batch rest inductionHypothesis =>
      unfold State.applyBatches at inductionHypothesis ⊢
      rw [List.flatMap_cons, replay_append_ok, replay_cons_ok]
      apply exists_congr
      intro middle
      rw [inductionHypothesis]
      apply and_congr_left'
      rw [applyBatch_eq]
      cases answer : start.applyAll batch.txs <;> simp [Except.map, answer]

theorem State.Sorted.noReplay (sorted : start.Sorted) {before between : List Tx}
    {tx resubmitted : Tx} {reached next : State} (sameSender : resubmitted.from = tx.from)
    (sameNonce : resubmitted.nonce = tx.nonce)
    (room : ∀ other ∈ before ++ tx :: between, other.NonceRoom)
    (accepted : start.applyAll (before ++ tx :: between) = .ok reached) :
    reached.apply resubmitted ≠ .ok next := by
  intro again
  rcases replay_append_ok.mp accepted with ⟨atTx, first, later⟩
  rcases replay_cons_ok.mp later with ⟨afterTx, step, rest⟩
  have expected : tx.nonce.toNat = (atTx.get tx.from).nonce.toNat :=
    (State.apply_ok.mp step).1.nonce
  have expectedAgain : resubmitted.nonce.toNat = (reached.get resubmitted.from).nonce.toNat :=
    (State.apply_ok.mp again).1.nonce
  have atTxSorted := sorted.applyAll first
  have bumped := (atTxSorted.apply_account step (room tx (by simp)) tx.from).1
  have grown := ((atTxSorted.apply step).sent_nonces
    (fun other member => room other (by simp [member])) rest tx.from).2
  rw [if_pos rfl] at bumped
  rw [sameNonce, sameSender] at expectedAgain
  omega

/-- Whatever key recovery is: in every run of batches that keeps nonces below
`u64::MAX`, every address spends only what it signed for, once for each nonce. -/
theorem applyBatches_authorised (start final : State) (batches : List Batch)
    (sorted : start.Sorted) (room : ∀ batch ∈ batches, ∀ tx ∈ batch.txs, tx.NonceRoom)
    (accepted : start.applyBatches batches = .ok final) (addr : Address) :
    Authorised start (batches.flatMap Batch.txs) addr := by
  have replayed := State.applyBatches_ok.mp accepted
  have roomAll : ∀ tx ∈ batches.flatMap Batch.txs, tx.NonceRoom := by
    intro tx member
    rcases List.mem_flatMap.mp member with ⟨batch, inBatches, inBatch⟩
    exact room batch inBatches tx inBatch
  have distinct := sorted.sent_nonces_nodup roomAll replayed addr
  exact {
    noncesDistinct := distinct
    stepsSigned := by
      intro before tx after reached next split first step changed
      have txRoom := roomAll tx (by rw [split]; simp)
      have account := (sorted.applyAll first).apply_account step txRoom addr
      have signed := (State.apply_ok.mp step).1.authorised
      by_cases sender : tx.from = addr
      · rw [← sender]
        exact signed
      · simp only [if_neg sender, Nat.add_zero, UInt64.toNat_inj] at account
        rcases changed with lowered | renonced
        · have below := UInt64.lt_iff_toNat_lt.mp lowered
          omega
        · exact absurd account.1 renonced
    debitsSigned := by
      rw [sorted.debited_eq roomAll replayed addr,
        signedAmount_sum distinct (authorised_of_applyAll replayed)]
    noReplay := by
      intro before tx between after reached split first own resubmitted sameSender sameNonce next
      refine sorted.noReplay sameSender sameNonce ?_ first
      intro other member
      apply roomAll
      rw [split]
      simp only [List.mem_append, List.mem_cons] at member ⊢
      tauto }

end

open DemoTransfers in
/-- Two batches: alice pays bob, then pays him again and is paid back. -/
theorem applyBatches_authorised_demo :
    Authorised genesis [first, second, back] HappyPath.alice ∧
      Authorised genesis [first, second, back] HappyPath.bob :=
  have authorised := applyBatches_authorised genesis paidBack [⟨[first]⟩, ⟨[second, back]⟩]
    (by decide +kernel) (by decide +kernel) (by decide +kernel)
  ⟨authorised HappyPath.alice, authorised HappyPath.bob⟩

end ZkRollup
