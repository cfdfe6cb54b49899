import ZkRollup.Foundation.Replay

/-!
Contract: a machine that logs what it accepts.

A step either rejects its input and changes nothing, or moves to a next state
and logs one entry. The journal of a list of inputs is the final state and the
log. Rejected inputs leave no trace in it: the journal of the accepted inputs is
the same.

Owns: how a journal is linked. When every entry names the point it starts from
and the point it leads to, and the state knows where it stands, the log is one
path.
-/

set_option autoImplicit false

namespace Foundation

universe u v w

variable {σ κ : Type u} {ι : Type v} {ε : Type u} (step : σ → ι → Except ε (σ × κ))

/-- Feed the inputs in order; collect the entries. -/
def journal : σ → List ι → σ × List κ
  | start, [] => (start, [])
  | start, input :: rest =>
      match step start input with
      | .ok (next, entry) =>
          let (final, log) := journal next rest
          (final, entry :: log)
      | .error _ => journal start rest

/-- The inputs that are accepted when their turn comes. -/
def accepted (start : σ) (inputs : List ι) : List ι :=
  (sift (fun start input => (step start input).map Prod.fst) start inputs).1

variable {step}

theorem journal_cons_ok {start next : σ} {input : ι} {entry : κ}
    (taken : step start input = .ok (next, entry)) (rest : List ι) :
    journal step start (input :: rest) =
      ((journal step next rest).1, entry :: (journal step next rest).2) := by
  simp only [journal, taken]

theorem journal_cons_error {start : σ} {input : ι} {failure : ε}
    (rejected : step start input = .error failure) (rest : List ι) :
    journal step start (input :: rest) = journal step start rest := by
  simp only [journal, rejected]

theorem accepted_cons_ok {start next : σ} {input : ι} {entry : κ}
    (taken : step start input = .ok (next, entry)) (rest : List ι) :
    accepted step start (input :: rest) = input :: accepted step next rest := by
  have moved : (step start input).map Prod.fst = .ok next := by
    rw [taken]
    rfl
  unfold accepted
  rw [sift_cons_ok moved]

theorem accepted_cons_error {start : σ} {input : ι} {failure : ε}
    (rejected : step start input = .error failure) (rest : List ι) :
    accepted step start (input :: rest) = accepted step start rest := by
  have stays : (step start input).map Prod.fst = .error failure := by
    rw [rejected]
    rfl
  unfold accepted
  rw [sift_cons_error stays]

variable (step) in
/-- Rejected inputs can be left out; what remains logs one entry each. -/
theorem journal_accepted (start : σ) (inputs : List ι) :
    journal step start (accepted step start inputs) = journal step start inputs ∧
      (accepted step start inputs).length = (journal step start inputs).2.length := by
  induction inputs generalizing start with
  | nil => exact ⟨rfl, rfl⟩
  | cons input rest inductionHypothesis =>
      cases answer : step start input with
      | ok outcome =>
          obtain ⟨next, entry⟩ := outcome
          obtain ⟨same, sameLength⟩ := inductionHypothesis next
          rw [accepted_cons_ok answer, journal_cons_ok answer, journal_cons_ok answer, same,
            List.length_cons, List.length_cons, sameLength]
          exact ⟨rfl, rfl⟩
      | error failure =>
          rw [accepted_cons_error answer, journal_cons_error answer]
          exact inductionHypothesis start

variable (step) in
/-- What holds of every accepted input and its entry holds of the whole log. -/
theorem forall_mem_journal {motive : κ → Prop}
    (logged : ∀ start input next entry, step start input = .ok (next, entry) → motive entry)
    (start : σ) (inputs : List ι) : ∀ entry ∈ (journal step start inputs).2, motive entry := by
  induction inputs generalizing start with
  | nil =>
      intro entry member
      cases member
  | cons input rest inductionHypothesis =>
      cases answer : step start input with
      | ok outcome =>
          rw [journal_cons_ok answer]
          exact List.forall_mem_cons.mpr
            ⟨logged start input _ _ answer, inductionHypothesis outcome.1⟩
      | error failure =>
          rw [journal_cons_error answer]
          exact inductionHypothesis start

/-! ## Paths -/

section Paths

variable {α : Type w} (source target : κ → α)

/-- The log is a path between two points. -/
def Leads : α → List κ → α → Prop
  | first, [], last => first = last
  | first, entry :: rest, last => source entry = first ∧ Leads (target entry) rest last

variable {source target}

/-- A machine that stands where its last entry led logs a path. -/
theorem leads_journal (stands : σ → α)
    (links : ∀ start input next entry, step start input = .ok (next, entry) →
      source entry = stands start ∧ target entry = stands next)
    (start : σ) (inputs : List ι) :
    Leads source target (stands start) (journal step start inputs).2
      (stands (journal step start inputs).1) := by
  induction inputs generalizing start with
  | nil => rfl
  | cons input rest inductionHypothesis =>
      cases answer : step start input with
      | ok outcome =>
          obtain ⟨leaves, arrives⟩ := links start input _ _ answer
          rw [journal_cons_ok answer]
          refine ⟨leaves, ?_⟩
          rw [arrives]
          exact inductionHypothesis outcome.1
      | error failure =>
          rw [journal_cons_error answer]
          exact inductionHypothesis start

namespace Leads

variable {first last : α} {log : List κ}

theorem source_zero (path : Leads source target first log last) (inside : 0 < log.length) :
    source log[0] = first := by
  cases log with
  | nil => cases inside
  | cons entry rest => exact path.1

/-- Each entry starts where the one before it led. -/
theorem source_succ (path : Leads source target first log last) (index : Nat)
    (inside : index + 1 < log.length) : source log[index + 1] = target log[index] := by
  induction log generalizing first index with
  | nil => simp at inside
  | cons entry rest inductionHypothesis =>
      have insideRest : index < rest.length := by simpa using inside
      cases index with
      | zero => exact path.2.source_zero insideRest
      | succ index => exact inductionHypothesis path.2 index insideRest

theorem last_eq (path : Leads source target first log last) :
    last = (log.getLast?.map target).getD first := by
  induction log generalizing first with
  | nil => exact path.symm
  | cons entry rest inductionHypothesis =>
      rw [inductionHypothesis path.2, List.getLast?_cons]
      cases rest.getLast? <;> rfl

/-- A path that leaves a point twice has come back to it in between. -/
theorem returns (path : Leads source target first log last) {earlier later : Nat}
    (inside : later < log.length) (before : earlier < later) :
    ∃ between, ∃ inBetween : between < log.length, earlier ≤ between ∧ between < later ∧
      target log[between] = source log[later] := by
  cases later with
  | zero => cases before
  | succ later =>
      exact ⟨later, by omega, by omega, by omega, (path.source_succ later inside).symm⟩

end Leads

end Paths

end Foundation
