import ZkRollup.Foundation.Replay

/-!
Contract: imperative code that mutates a state and may return early.

`EStateM` keeps the writes made before an error, as a function behind a mutable
reference does. A body whose failing runs write nothing realizes a pure step.
A loop that stops at the first error is then the replay of that step, except
that it leaves the state of its successful prefix; a loop that ignores errors
is its sift.
-/

set_option autoImplicit false

namespace Foundation

universe u

variable {ε σ τ α ι : Type u}

/-- `Option::ok_or`. -/
def okOr (found : Option α) (failure : ε) : Except ε α :=
  match found with
  | some value => .ok value
  | none => .error failure

/-- Run code on one part of the state. Its writes stay when it fails. -/
def focus (part : σ → τ) (replace : σ → τ → σ) (body : EStateM ε τ α) : EStateM ε σ α :=
  fun state =>
    match body.run (part state) with
    | .ok value next => .ok value (replace state next)
    | .error failure next => .error failure (replace state next)

/-- Run code for its effect and whether it succeeded, as `is_ok` does. -/
def attempt (body : EStateM ε σ α) (state : σ) : Bool × σ :=
  match body.run state with
  | .ok _ next => (true, next)
  | .error _ next => (false, next)

/-- `Vec::retain` with a predicate that mutates a captured state. -/
def retain (keep : ι → σ → Bool × σ) : List ι → σ → List ι × σ
  | [], state => ([], state)
  | input :: rest, state =>
      let (kept, next) := keep input state
      let (others, final) := retain keep rest next
      (if kept then input :: others else others, final)

/-- `for (i = 0; i < buffer.length; i++) buffer[i] = value(i)`. -/
def fill (value : Nat → α) (buffer : List α) : List α :=
  (List.range buffer.length).foldl (fun filled i => filled.set i (value i)) buffer

@[simp] theorem run_ofExcept_ok (value : α) (state : σ) :
    (ofExcept (.ok value) : EStateM ε σ α).run state = .ok value state := rfl

@[simp] theorem run_ofExcept_error (failure : ε) (state : σ) :
    (ofExcept (.error failure) : EStateM ε σ α).run state = .error failure state := rfl

theorem run_focus (part : σ → τ) (replace : σ → τ → σ) (body : EStateM ε τ α) (state : σ) :
    (focus part replace body).run state =
      match body.run (part state) with
      | .ok value next => .ok value (replace state next)
      | .error failure next => .error failure (replace state next) := rfl

/-- The body does what the step says and writes nothing when it fails. -/
def Realizes (body : ι → EStateM ε σ PUnit) (step : σ → ι → Except ε σ) : Prop :=
  ∀ input state, (body input).run state =
    match step state input with
    | .ok next => .ok ⟨⟩ next
    | .error failure => .error failure state

variable {body : ι → EStateM ε σ PUnit} {step : σ → ι → Except ε σ}

/-- A loop over the body is the replay of the step; when it fails it leaves the
state of its successful prefix. -/
theorem Realizes.forM (realizes : Realizes body step) (start : σ) (inputs : List ι) :
    (inputs.forM body).run start =
      match replay step start inputs with
      | .ok final => .ok ⟨⟩ final
      | .error failure => .error failure (haltState step start inputs) := by
  induction inputs generalizing start with
  | nil => rfl
  | cons input rest inductionHypothesis =>
      rw [List.forM, EStateM.run_bind, realizes input start, replay_cons]
      cases answer : step start input with
      | ok next =>
          simp only [haltState, answer]
          exact inductionHypothesis next
      | error failure => simp only [haltState, answer]

theorem attempt_true {body : EStateM ε σ PUnit} {state next : σ} :
    attempt body state = (true, next) ↔ body.run state = .ok ⟨⟩ next := by
  unfold attempt
  cases body.run state <;> simp

/-- A loop succeeds if its first round and the rest of it do. -/
theorem forM_cons_ok {start final : σ} {input : ι} {rest : List ι} :
    ((input :: rest).forM body).run start = .ok ⟨⟩ final ↔
      ∃ next, (body input).run start = .ok ⟨⟩ next ∧ (rest.forM body).run next = .ok ⟨⟩ final := by
  rw [List.forM, EStateM.run_bind]
  cases (body input).run start <;> simp

/-- What every successful round of a loop keeps, a successful loop keeps. -/
theorem forM_invariant {motive : σ → Prop}
    (kept : ∀ input state next, motive state → (body input).run state = .ok ⟨⟩ next → motive next)
    {start final : σ} {inputs : List ι} (initial : motive start)
    (ran : (inputs.forM body).run start = .ok ⟨⟩ final) : motive final := by
  induction inputs generalizing start with
  | nil =>
      cases ran
      exact initial
  | cons input rest inductionHypothesis =>
      rcases forM_cons_ok.mp ran with ⟨next, atHead, restRan⟩
      exact inductionHypothesis (kept input start next initial atHead) restRan

theorem Realizes.attempt (realizes : Realizes body step) (input : ι) (state : σ) :
    attempt (body input) state =
      match step state input with
      | .ok next => (true, next)
      | .error _ => (false, state) := by
  unfold Foundation.attempt
  rw [realizes input state]
  cases step state input <;> rfl

/-- After `count` rounds the loop has written the first `count` cells. -/
private theorem foldl_set_range (value : Nat → α) (buffer : List α) (count : Nat)
    (inside : count ≤ buffer.length) :
    (List.range count).foldl (fun filled i => filled.set i (value i)) buffer =
      (List.range count).map value ++ buffer.drop count := by
  induction count with
  | zero => rfl
  | succ count inductionHypothesis =>
      have written : ((List.range count).map value).length = count := by
        rw [List.length_map, List.length_range]
      rw [List.range_succ, List.foldl_append, inductionHypothesis (by omega),
        List.foldl_cons, List.foldl_nil, List.set_append_right _ _ (by omega), written,
        Nat.sub_self, List.drop_eq_getElem_cons inside, List.set_cons_zero, List.map_append,
        List.append_assoc]
      rfl

theorem fill_eq_map (value : Nat → α) (buffer : List α) :
    fill value buffer = (List.range buffer.length).map value := by
  unfold fill
  rw [foldl_set_range value buffer buffer.length (Nat.le_refl _), List.drop_length, List.append_nil]

/-- Retaining the inputs on which the body succeeds sifts them. -/
theorem Realizes.retain (realizes : Realizes body step) (inputs : List ι) (start : σ) :
    retain (fun input => Foundation.attempt (body input)) inputs start =
      sift step start inputs := by
  induction inputs generalizing start with
  | nil => rfl
  | cons input rest inductionHypothesis =>
      unfold Foundation.retain
      rw [realizes.attempt]
      cases answer : step start input with
      | ok next =>
          rw [sift_cons_ok answer, ← inductionHypothesis next]
          rfl
      | error failure =>
          rw [sift_cons_error answer, ← inductionHypothesis start]
          rfl

end Foundation
