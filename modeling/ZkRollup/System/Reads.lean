import ZkRollup.Sequencer.Queries
import ZkRollup.System.Acceptance
import ZkRollup.System.Answers

/-!
Contract: what a client can conclude from reads at different moments.

A client reads `/info` and `/state` in separate requests, and others may commit
in between. The counter in `/info` tells: it moves with every commit and with
nothing else, so reads between two equal counts are reads of one state, the one
whose root `/info` gives.

This fails behind a commit that has failed, which moves the state without the
counter, and after a full turn of the counter.
-/

set_option autoImplicit false

namespace ZkRollup

open Foundation

section

variable [Primitives] {start : State} {system next : System}

namespace System

/-- A commit that fails is never forgotten. -/
theorem Intact.inherited {event : Event} (intact : next.Intact)
    (stepped : system.step event = some next) : system.Intact := by
  cases transition_of_step stepped with
  | unchanged => exact intact
  | admitted => exact intact
  | drained nonempty => exact fun request member => intact request (List.mem_append_left _ member)
  | arrived index arrival request moved found arrives =>
      exact intact.of_set found rfl arrives.not_commitFailed
  | locked index request moved sequencer found writes =>
      exact intact.of_set found rfl writes.not_commitFailed
  | settled index verifyProof request submission rollup event found standing accepted =>
      exact intact.of_set found rfl (intact.moved { request with l1 := .settled } found rfl)
  | reverted index verifyProof request submission found standing =>
      exact intact.of_set found rfl (intact.moved { request with l1 := .reverted } found rfl)
  | foreignSettled => exact intact

/-- A step that leaves the canonical state alone, or commits. -/
theorem canonical_of_step {event : Event} (stepped : system.step event = some next)
    (intact : next.Intact) :
    next.sequencer.canonicalState = system.sequencer.canonicalState ∧
        next.commits = system.commits ∨
      system.commits.length < next.commits.length := by
  cases transition_of_step stepped with
  | admitted request tx sequencer parsed accepted =>
      obtain ⟨extended, -, rfl⟩ := SequencerState.admission_ok.mp accepted
      exact Or.inl ⟨rfl, rfl⟩
  | locked index request moved sequencer found writes =>
      cases writes with
      | restored message standing =>
          exact Or.inl ⟨SequencerState.restoreMempool_canonicalState _ _, List.append_nil _⟩
      | committed prove submission outcome after standing commits =>
          exact Or.inr (by simp [BatchRequest.newCommit])
      | commitFailed prove submission outcome after cause standing fails =>
          exact absurd rfl (intact.moved _ found rfl _)
  | _ => exact Or.inl ⟨rfl, rfl⟩

/-- Nothing is canonical anew until something is committed. -/
theorem canonical_of_run (run : Run System.step (fun _ _ => True) system next)
    (intact : next.Intact) :
    next.sequencer.canonicalState = system.sequencer.canonicalState ∧
        next.commits = system.commits ∨
      system.commits.length < next.commits.length := by
  refine run.invariant (motive := fun reached =>
    reached.sequencer.canonicalState = system.sequencer.canonicalState ∧
        reached.commits = system.commits ∨ system.commits.length < reached.commits.length)
    (fun _ _ _ stepped intact => Intact.inherited intact stepped) (Or.inl ⟨rfl, rfl⟩) ?_ intact
  intro state event after kept _ stepped intact
  obtain ⟨more, grown⟩ := commits_grow stepped
  rcases kept with ⟨sameState, sameCommits⟩ | longer
  · rcases canonical_of_step stepped intact with ⟨keptState, keptCommits⟩ | committed
    · exact Or.inl ⟨keptState.trans sameState, keptCommits.trans sameCommits⟩
    · exact Or.inr (by rwa [sameCommits] at committed)
  · refine Or.inr ?_
    rw [grown, List.length_append]
    omega

theorem intact_of_run {allowed : System → Event → Prop} (run : Run System.step allowed system next)
    (intact : next.Intact) : system.Intact := by
  induction run with
  | refl => exact intact
  | tail _ last inductionHypothesis =>
      obtain ⟨event, -, stepped⟩ := last
      exact inductionHypothesis (intact.inherited stepped)

theorem commits_length_le_of_run {allowed : System → Event → Prop}
    (run : Run System.step allowed system next) :
    system.commits.length ≤ next.commits.length := by
  refine run.always (motive := fun reached => system.commits.length ≤ reached.commits.length)
    (Nat.le_refl _) ?_
  intro state event after atLeast _ stepped
  obtain ⟨more, grown⟩ := commits_grow stepped
  rw [grown, List.length_append]
  omega

theorem counted_of_run {rollup : Rollup} {allowed : System → Event → Prop}
    (run : Run System.step allowed (System.initial start rollup) system) : system.Counted :=
  run.always rfl fun _ _ _ counted _ stepped => counted.step stepped

end System

/-- In every run, whatever happens, while no commit has failed: between two reads
of `/info` with one batch count there is one state, whose root both of them give,
and everything read in between is read of that state. -/
theorem reads_between_equal_counts {Wallet : Type} (genesis : Genesis) (start : State)
    (loaded : genesis.intoState = .ok start) (rollup : Rollup) (first last : System)
    (reached : Run System.step (fun _ _ => True) (System.initial start rollup) first)
    (whole : Run System.step (fun _ _ => True) first last)
    (intact : last.Intact) (room : last.commits.length < 2 ^ 64) (ctx : AppCtx Wallet)
    (sameCount : (ctx.during first.sequencer).info.batchCount =
      (ctx.during last.sequencer).info.batchCount) :
    ∃ state : State,
      (ctx.during first.sequencer).info.canonicalRoot = hex0x state.merkleRoot.bytes ∧
      (ctx.during last.sequencer).info.canonicalRoot = hex0x state.merkleRoot.bytes ∧
      ∀ middle, Run System.step (fun _ _ => True) first middle →
        Run System.step (fun _ _ => True) middle last →
        middle.sequencer.canonicalState = state ∧
        (ctx.during middle.sequencer).root.root = hex0x state.merkleRoot.bytes ∧
        ∀ addrHex response, (ctx.during middle.sequencer).account addrHex = .ok response →
          ∃ addr, Address.fromHex addrHex = .ok addr ∧ response.address = Address.toHex addr ∧
            response.balance = (state.get addr).balance ∧
            response.nonce = (state.get addr).nonce := by
  have sorted := Genesis.intoState_sorted loaded
  have counts := congrArg UInt64.toNat sameCount
  have firstCounted := System.counted_of_run reached
  have lastCounted := System.counted_of_run (reached.trans whole)
  unfold System.Counted at firstCounted lastCounted
  have noneCommitted : ¬ first.commits.length < last.commits.length := by
    have upTo := System.commits_length_le_of_run whole
    simp only [AppCtx.info, AppCtx.during, firstCounted, lastCounted] at counts
    omega
  have sameLast := (System.canonical_of_run whole intact).resolve_right noneCommitted
  have root : ∀ system, Run System.step (fun _ _ => True) (System.initial start rollup) system →
      system.Intact → system.sequencer.canonicalRoot = system.sequencer.canonicalState.merkleRoot :=
    fun system run intact => ((System.admits_of_run sorted run).consistent intact).root
  refine ⟨first.sequencer.canonicalState, ?_, ?_, ?_⟩
  · simp only [AppCtx.info, AppCtx.during, root first reached (System.intact_of_run whole intact)]
  · simp only [AppCtx.info, AppCtx.during, root last (reached.trans whole) intact, sameLast.1]
  · intro middle meanwhile afterwards
    have behind := System.commits_length_le_of_run afterwards
    have intactMiddle := System.intact_of_run afterwards intact
    have sameMiddle := (System.canonical_of_run meanwhile intactMiddle).resolve_right (by omega)
    refine ⟨sameMiddle.1, ?_, ?_⟩
    · simp only [AppCtx.root, AppCtx.during, root middle (reached.trans meanwhile) intactMiddle,
        sameMiddle.1]
    · intro addrHex response answered
      obtain ⟨addr, parsed, rfl⟩ := AppCtx.account_eq_ok.mp answered
      refine ⟨addr, parsed, rfl, ?_, ?_⟩ <;> simp only [AppCtx.during, sameMiddle.1]

end

namespace HappyPath

/-- The context of the running test deployment. -/
def context : AppCtx Unit where
  state := .fromGenesis genesis
  prover := .new (utf8 "http://localhost:7002")
  l1 := {
    rollupAddress := .ofNat 20 0x5fbdb2315678afecb367f032d93f642f64180aa3
    rpcUrl := utf8 "http://localhost:8545"
    wallet := () }
  programVKey := hex0x deployed.programVKey.bytes
  proofMode := utf8 "mock"

end HappyPath

open HappyPath in
/-- A transfer is submitted, its batch proved and settled, and nothing is committed
yet: whenever a client reads in between, it reads the same. -/
theorem reads_between_equal_counts_happyPath : ∃ state : State,
    submitted.sequencer.canonicalState = state ∧ executed.sequencer.canonicalState = state ∧
    (context.during executed.sequencer).root.root = hex0x state.merkleRoot.bytes := by
  have submits : Run System.step (fun _ _ => True) (System.initial genesis deployed) submitted :=
    .single ⟨.submitTx transferRequest, trivial, by decide +kernel⟩
  have settles : Run System.step (fun _ _ => True) submitted executed :=
    Run.of_events [.startBatch, .arrive 0 (.proverAnswer (.ok reply)), .arrive 0 .sent,
      .execute 0 fun _ _ _ => true] (fun _ _ _ => trivial) (by decide +kernel)
  have confirms : Run System.step (fun _ _ => True) executed confirmed :=
    .single ⟨_, trivial, confirmed_of_executed⟩
  obtain ⟨state, -, -, reads⟩ := reads_between_equal_counts genesisFile genesis
    (by decide +kernel) deployed submitted confirmed submits (settles.trans confirms)
    (by intro request member failure; cases List.mem_singleton.mp member; nofun)
    (by decide) context rfl
  have early := reads submitted .refl (settles.trans confirms)
  have late := reads executed settles confirms
  exact ⟨state, early.1, late.1, late.2.1⟩

end ZkRollup
