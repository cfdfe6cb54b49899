import Mathlib.Data.List.Basic

/-!
Contract: folds of a fallible step over a list of inputs.

`replay` stops at the first error. `sift` keeps going, drops the inputs that
fail and returns the ones that did not; a failing input leaves the state as it
was. Both come with the list of step calls they make.

Owns: how the two compose, the invariant and simulation rules for `replay`, and
the two facts that tie `sift` to `replay`: what it keeps replays, and what
already replays is kept whole.
-/

set_option autoImplicit false

namespace Foundation

universe u v w

variable {σ : Type u} {ι : Type v} {ε : Type u} (step : σ → ι → Except ε σ)

/-- Apply the inputs in order, stopping at the first error. -/
def replay (start : σ) (inputs : List ι) : Except ε σ :=
  inputs.foldlM step start

/-- Apply the inputs in order, dropping those that fail. -/
def sift : σ → List ι → List ι × σ
  | start, [] => ([], start)
  | start, input :: rest =>
      match step start input with
      | .ok next =>
          let (kept, final) := sift next rest
          (input :: kept, final)
      | .error _ => sift start rest

variable {step}

/-! ## Composition -/

@[simp] theorem replay_nil (start : σ) : replay step start [] = .ok start := rfl

theorem replay_cons (start : σ) (input : ι) (rest : List ι) :
    replay step start (input :: rest) =
      match step start input with
      | .ok next => replay step next rest
      | .error failure => .error failure := by
  unfold replay
  rw [List.foldlM_cons]
  cases step start input <;> rfl

theorem replay_append (start : σ) (first second : List ι) :
    replay step start (first ++ second) =
      match replay step start first with
      | .ok next => replay step next second
      | .error failure => .error failure := by
  unfold replay
  rw [List.foldlM_append]
  cases List.foldlM step start first <;> rfl

theorem replay_cons_ok {start final : σ} {input : ι} {rest : List ι} :
    replay step start (input :: rest) = .ok final ↔
      ∃ next, step start input = .ok next ∧ replay step next rest = .ok final := by
  rw [replay_cons]
  cases step start input <;> simp

theorem replay_append_ok {start final : σ} {first second : List ι} :
    replay step start (first ++ second) = .ok final ↔
      ∃ middle, replay step start first = .ok middle ∧
        replay step middle second = .ok final := by
  rw [replay_append]
  cases replay step start first <;> simp

theorem replay_singleton (start : σ) (input : ι) :
    replay step start [input] = step start input := by
  rw [replay_cons]
  cases step start input <;> rfl

/-- A step that succeeds on all inputs folds a function. -/
theorem replay_of_forall_ok {next : σ → ι → σ} {inputs : List ι}
    (all : ∀ input ∈ inputs, ∀ start, step start input = .ok (next start input)) (start : σ) :
    replay step start inputs = .ok (inputs.foldl next start) := by
  induction inputs generalizing start with
  | nil => rfl
  | cons input rest inductionHypothesis =>
      rw [replay_cons, all input (by simp) start]
      exact inductionHypothesis (fun other member => all other (by simp [member])) _

/-! ## Failure -/

variable (step) in
/-- The state in which a replay stops, at its end or at its first error. -/
def haltState : σ → List ι → σ
  | start, [] => start
  | start, input :: rest =>
      match step start input with
      | .ok next => haltState next rest
      | .error _ => start

variable (step) in
/-- Where a replay stops, a prefix has led that the next input does not extend. -/
theorem replay_haltState (start : σ) (inputs : List ι) :
    ∃ before after, inputs = before ++ after ∧
      replay step start before = .ok (haltState step start inputs) ∧
      ∀ input rest, after = input :: rest →
        ∃ failure, step (haltState step start inputs) input = .error failure := by
  induction inputs generalizing start with
  | nil => exact ⟨[], [], rfl, rfl, fun input rest split => by cases split⟩
  | cons input rest inductionHypothesis =>
      cases answer : step start input with
      | error failure =>
          have stopped : haltState step start (input :: rest) = start := by
            simp only [haltState, answer]
          rw [stopped]
          refine ⟨[], input :: rest, rfl, rfl, fun other others split => ?_⟩
          cases split
          exact ⟨failure, answer⟩
      | ok next =>
          have stopped : haltState step start (input :: rest) = haltState step next rest := by
            simp only [haltState, answer]
          rw [stopped]
          rcases inductionHypothesis next with ⟨before, after, split, replayed, blocked⟩
          exact ⟨input :: before, after, congrArg (input :: ·) split,
            replay_cons_ok.mpr ⟨next, answer, replayed⟩, blocked⟩

theorem haltState_of_replay {start final : σ} {inputs : List ι}
    (replayed : replay step start inputs = .ok final) : haltState step start inputs = final := by
  induction inputs generalizing start with
  | nil =>
      cases replayed
      rfl
  | cons input rest inductionHypothesis =>
      obtain ⟨next, atHead, restReplayed⟩ := replay_cons_ok.mp replayed
      simp only [haltState, atHead]
      exact inductionHypothesis restReplayed

/-- A failing replay splits at its first failing input. -/
theorem replay_error_split {start : σ} {inputs : List ι} {failure : ε}
    (failed : replay step start inputs = .error failure) :
    ∃ before input after, inputs = before ++ input :: after ∧
      replay step start before = .ok (haltState step start inputs) ∧
      step (haltState step start inputs) input = .error failure := by
  induction inputs generalizing start with
  | nil => cases failed
  | cons input rest inductionHypothesis =>
      rw [replay_cons] at failed
      cases answer : step start input with
      | error other =>
          rw [answer] at failed
          have stopped : haltState step start (input :: rest) = start := by
            simp only [haltState, answer]
          rw [stopped]
          exact ⟨[], input, rest, rfl, rfl, answer.trans failed⟩
      | ok next =>
          rw [answer] at failed
          have stopped : haltState step start (input :: rest) = haltState step next rest := by
            simp only [haltState, answer]
          rw [stopped]
          rcases inductionHypothesis failed with
            ⟨before, failing, after, split, replayed, atFailing⟩
          exact ⟨input :: before, failing, after, congrArg (input :: ·) split,
            replay_cons_ok.mpr ⟨next, answer, replayed⟩, atFailing⟩

/-- A replay fails at exactly one place: after a prefix that replays. -/
theorem replay_error_iff {start : σ} {inputs : List ι} {failure : ε} :
    replay step start inputs = .error failure ↔
      ∃ before input after middle, inputs = before ++ input :: after ∧
        replay step start before = .ok middle ∧ step middle input = .error failure := by
  constructor
  · intro failed
    rcases replay_error_split failed with ⟨before, input, after, split, replayed, atInput⟩
    exact ⟨before, input, after, _, split, replayed, atInput⟩
  · rintro ⟨before, input, after, middle, rfl, replayed, atInput⟩
    rw [replay_append, replayed]
    show replay step middle (input :: after) = .error failure
    rw [replay_cons, atInput]

/-! ## Invariants and simulations -/

/-- What every successful step keeps, a replay keeps. -/
theorem replay_invariant {motive : σ → Prop}
    (kept : ∀ start input next, motive start → step start input = .ok next → motive next)
    {start final : σ} {inputs : List ι} (initial : motive start)
    (replayed : replay step start inputs = .ok final) : motive final := by
  induction inputs generalizing start with
  | nil =>
      cases replayed
      exact initial
  | cons input rest inductionHypothesis =>
      obtain ⟨next, atHead, restReplayed⟩ := replay_cons_ok.mp replayed
      exact inductionHypothesis (kept start input next initial atHead) restReplayed

/-- The state a replay stops in is one that successful steps reached. -/
theorem haltState_invariant {motive : σ → Prop}
    (kept : ∀ start input next, motive start → step start input = .ok next → motive next)
    {start : σ} {inputs : List ι} (initial : motive start) :
    motive (haltState step start inputs) := by
  induction inputs generalizing start with
  | nil => exact initial
  | cons input rest inductionHypothesis =>
      unfold haltState
      cases answer : step start input with
      | ok next => exact inductionHypothesis (kept start input next initial answer)
      | error failure => exact initial

/-- A relation that every step on an admissible input carries over carries over
whole replays: the related start accepts the same inputs. -/
theorem replay_simulation {related : σ → σ → Prop} {admissible : ι → Prop}
    (carried : ∀ start other input next, admissible input → related start other →
      step start input = .ok next → ∃ otherNext, step other input = .ok otherNext ∧
        related next otherNext)
    {start other final : σ} {inputs : List ι} (all : ∀ input ∈ inputs, admissible input)
    (initial : related start other) (replayed : replay step start inputs = .ok final) :
    ∃ otherFinal, replay step other inputs = .ok otherFinal ∧ related final otherFinal := by
  induction inputs generalizing start other with
  | nil =>
      cases replayed
      exact ⟨other, rfl, initial⟩
  | cons input rest inductionHypothesis =>
      obtain ⟨next, atHead, restReplayed⟩ := replay_cons_ok.mp replayed
      obtain ⟨otherNext, otherHead, nextRelated⟩ :=
        carried start other input next (all input (by simp)) initial atHead
      obtain ⟨otherFinal, otherRest, finalRelated⟩ :=
        inductionHypothesis (fun later member => all later (by simp [member])) nextRelated
          restReplayed
      exact ⟨otherFinal, replay_cons_ok.mpr ⟨otherNext, otherHead, otherRest⟩, finalRelated⟩

/-! ## Sifting -/

theorem sift_cons_ok {start next : σ} {input : ι} (accepted : step start input = .ok next)
    (rest : List ι) :
    sift step start (input :: rest) =
      (input :: (sift step next rest).1, (sift step next rest).2) := by
  simp only [sift, accepted]

theorem sift_cons_error {start : σ} {input : ι} {failure : ε}
    (rejected : step start input = .error failure) (rest : List ι) :
    sift step start (input :: rest) = sift step start rest := by
  simp only [sift, rejected]

theorem sift_sublist (start : σ) (inputs : List ι) :
    (sift step start inputs).1.Sublist inputs := by
  induction inputs generalizing start with
  | nil => exact List.Sublist.refl _
  | cons input rest inductionHypothesis =>
      cases answer : step start input with
      | ok next =>
          rw [sift_cons_ok answer]
          exact (inductionHypothesis next).cons_cons input
      | error failure =>
          rw [sift_cons_error answer]
          exact (inductionHypothesis start).cons input

/-- The kept inputs replay from the same start to the same end. -/
theorem replay_sift (start : σ) (inputs : List ι) :
    replay step start (sift step start inputs).1 = .ok (sift step start inputs).2 := by
  induction inputs generalizing start with
  | nil => rfl
  | cons input rest inductionHypothesis =>
      cases answer : step start input with
      | ok next =>
          rw [sift_cons_ok answer]
          exact replay_cons_ok.mpr ⟨next, answer, inductionHypothesis next⟩
      | error failure =>
          rw [sift_cons_error answer]
          exact inductionHypothesis start

/-- Inputs that replay are all kept. -/
theorem sift_of_replay {start final : σ} {inputs : List ι}
    (replayed : replay step start inputs = .ok final) :
    sift step start inputs = (inputs, final) := by
  induction inputs generalizing start with
  | nil =>
      cases replayed
      rfl
  | cons input rest inductionHypothesis =>
      obtain ⟨next, atHead, restReplayed⟩ := replay_cons_ok.mp replayed
      rw [sift_cons_ok atHead, inductionHypothesis restReplayed]

theorem sift_invariant {motive : σ → Prop}
    (kept : ∀ start input next, motive start → step start input = .ok next → motive next)
    {start : σ} (inputs : List ι) (initial : motive start) :
    motive (sift step start inputs).2 :=
  replay_invariant kept initial (replay_sift start inputs)

/-! ## Step calls -/

variable (step) in
/-- The calls of the step a replay makes: up to and including the first that
fails. -/
def replayCalls : σ → List ι → List (σ × ι)
  | _, [] => []
  | start, input :: rest =>
      (start, input) ::
        match step start input with
        | .ok next => replayCalls next rest
        | .error _ => []

variable (step) in
/-- The calls of the step a sift makes: one for each input. -/
def siftCalls : σ → List ι → List (σ × ι)
  | _, [] => []
  | start, input :: rest =>
      (start, input) ::
        match step start input with
        | .ok next => siftCalls next rest
        | .error _ => siftCalls start rest

/-- Every input of a successful replay was stepped on successfully. -/
theorem exists_call_of_replay {start final : σ} {inputs : List ι}
    (replayed : replay step start inputs = .ok final) :
    ∀ input ∈ inputs, ∃ state next, (state, input) ∈ replayCalls step start inputs ∧
      step state input = .ok next := by
  induction inputs generalizing start with
  | nil =>
      intro input member
      cases member
  | cons head rest inductionHypothesis =>
      obtain ⟨middle, atHead, restReplayed⟩ := replay_cons_ok.mp replayed
      intro input member
      unfold replayCalls
      rcases List.mem_cons.mp member with rfl | inRest
      · exact ⟨start, middle, List.mem_cons_self, atHead⟩
      · obtain ⟨state, next, called, stepped⟩ := inductionHypothesis restReplayed input inRest
        refine ⟨state, next, List.mem_cons_of_mem _ ?_, stepped⟩
        rw [atHead]
        exact called

/-- Every input a sift keeps was stepped on successfully. -/
theorem exists_call_of_sift {start : σ} {inputs : List ι} :
    ∀ input ∈ (sift step start inputs).1, ∃ state next,
      (state, input) ∈ siftCalls step start inputs ∧ step state input = .ok next := by
  induction inputs generalizing start with
  | nil =>
      intro input member
      cases member
  | cons head rest inductionHypothesis =>
      intro input member
      unfold siftCalls
      cases answer : step start head with
      | ok middle =>
          rw [sift_cons_ok answer] at member
          rcases List.mem_cons.mp member with rfl | inRest
          · exact ⟨start, middle, List.mem_cons_self, answer⟩
          · obtain ⟨state, next, called, stepped⟩ := inductionHypothesis input inRest
            exact ⟨state, next, List.mem_cons_of_mem _ called, stepped⟩
      | error failure =>
          rw [sift_cons_error answer] at member
          obtain ⟨state, next, called, stepped⟩ := inductionHypothesis input member
          exact ⟨state, next, List.mem_cons_of_mem _ called, stepped⟩

theorem replayCalls_invariant {motive : σ → Prop}
    (kept : ∀ start input next, motive start → step start input = .ok next → motive next)
    {start : σ} {inputs : List ι} (initial : motive start) :
    ∀ call ∈ replayCalls step start inputs, motive call.1 := by
  induction inputs generalizing start with
  | nil => simp [replayCalls]
  | cons input rest inductionHypothesis =>
      intro call member
      rcases List.mem_cons.mp member with rfl | later
      · exact initial
      · cases answer : step start input with
        | ok next =>
            rw [answer] at later
            exact inductionHypothesis (kept start input next initial answer) call later
        | error failure =>
            rw [answer] at later
            cases later

theorem siftCalls_invariant {motive : σ → Prop}
    (kept : ∀ start input next, motive start → step start input = .ok next → motive next)
    {start : σ} {inputs : List ι} (initial : motive start) :
    ∀ call ∈ siftCalls step start inputs, motive call.1 := by
  induction inputs generalizing start with
  | nil => simp [siftCalls]
  | cons input rest inductionHypothesis =>
      intro call member
      rcases List.mem_cons.mp member with rfl | later
      · exact initial
      · cases answer : step start input with
        | ok next =>
            rw [answer] at later
            exact inductionHypothesis (kept start input next initial answer) call later
        | error failure =>
            rw [answer] at later
            exact inductionHypothesis initial call later

/-! ## What a sift refuses -/

variable (step) in
/-- The inputs that a sift drops, each with its failure. -/
def refused : σ → List ι → List (ι × ε)
  | _, [] => []
  | start, input :: rest =>
      match step start input with
      | .ok next => refused next rest
      | .error failure => (input, failure) :: refused start rest

/-- A sift keeps or refuses each input, once. -/
theorem sift_refused_perm (start : σ) (inputs : List ι) :
    ((sift step start inputs).1 ++ (refused step start inputs).map Prod.fst).Perm inputs := by
  induction inputs generalizing start with
  | nil => exact List.Perm.refl _
  | cons input rest inductionHypothesis =>
      unfold refused
      cases answer : step start input with
      | ok next =>
          rw [sift_cons_ok answer]
          exact (inductionHypothesis next).cons input
      | error failure =>
          rw [sift_cons_error answer]
          exact List.perm_middle.trans ((inductionHypothesis start).cons input)

/-- Every input a sift refuses was stepped on in vain. -/
theorem exists_call_of_refused {start : σ} {inputs : List ι} {refusal : ι × ε}
    (member : refusal ∈ refused step start inputs) :
    ∃ state, (state, refusal.1) ∈ siftCalls step start inputs ∧
      step state refusal.1 = .error refusal.2 := by
  induction inputs generalizing start with
  | nil => cases member
  | cons input rest inductionHypothesis =>
      unfold refused at member
      unfold siftCalls
      cases answer : step start input with
      | ok next =>
          rw [answer] at member
          obtain ⟨state, called, failed⟩ := inductionHypothesis member
          exact ⟨state, List.mem_cons_of_mem _ called, failed⟩
      | error failure =>
          rw [answer] at member
          rcases List.mem_cons.mp member with rfl | inRest
          · exact ⟨start, List.mem_cons_self, answer⟩
          · obtain ⟨state, called, failed⟩ := inductionHypothesis inRest
            exact ⟨state, List.mem_cons_of_mem _ called, failed⟩

end Foundation
