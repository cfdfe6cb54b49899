import Mathlib.Data.List.Perm.Basic
import Mathlib.Data.List.InsertIdx
import Mathlib.Logic.Relation

/-!
Contract: runs of a partial step function under a restricted environment.

A run is a chain of steps, each on an event that the environment allows in the
state before it. An assumption about a whole run, such as that no two of the
strings it hashed collide, is a property of its last state that every earlier
state inherits.

Also here: one slot of a list is replaced and the others keep their contents,
stated up to order, which is all a property of a set of clients needs. And what the
steps of a run give off on the way, which no state remembers.
-/

set_option autoImplicit false

namespace Foundation

universe u v

section Runs

variable {σ : Type u} {ε : Type v} (step : σ → ε → Option σ) (allowed : σ → ε → Prop)

/-- Some allowed event leads from one state to the other. -/
def Steps (before after : σ) : Prop :=
  ∃ event, allowed before event ∧ step before event = some after

/-- A run of allowed steps. -/
abbrev Run : σ → σ → Prop :=
  Relation.ReflTransGen (Steps step allowed)

variable {step allowed}

theorem foldlM_cons_of_step {start next : σ} {event : ε} (taken : step start event = some next)
    (rest : List ε) : (event :: rest).foldlM step start = rest.foldlM step next := by
  rw [List.foldlM_cons, taken]
  rfl

/-- Events that are allowed in every state make a run. -/
theorem Run.of_events {start final : σ} (events : List ε)
    (always : ∀ event ∈ events, ∀ state, allowed state event)
    (stepped : events.foldlM step start = some final) : Run step allowed start final := by
  induction events generalizing start with
  | nil =>
      cases stepped
      exact Relation.ReflTransGen.refl
  | cons event rest inductionHypothesis =>
      rw [List.foldlM_cons] at stepped
      rcases Option.bind_eq_some_iff.mp stepped with ⟨middle, first, later⟩
      have taken : Steps step allowed start middle := ⟨event, always event (by simp) start, first⟩
      exact Relation.ReflTransGen.head taken
        (inductionHypothesis (fun other member => always other (by simp [member])) later)

/-- What holds behind a chain of steps and not before it has begun to hold at one
of them. -/
theorem exists_turn {motive : σ → Prop} {start final : σ} {events : List ε}
    (stepped : events.foldlM step start = some final) (off : ¬ motive start) (on : motive final) :
    ∃ upTo event later before after, events = upTo ++ event :: later ∧
      upTo.foldlM step start = some before ∧ step before event = some after ∧
      later.foldlM step after = some final ∧ ¬ motive before ∧ motive after := by
  induction events generalizing start with
  | nil =>
      cases stepped
      exact absurd on off
  | cons event rest inductionHypothesis =>
      rw [List.foldlM_cons] at stepped
      rcases Option.bind_eq_some_iff.mp stepped with ⟨next, first, later⟩
      by_cases turned : motive next
      · exact ⟨[], event, rest, start, next, rfl, rfl, first, later, off, turned⟩
      · rcases inductionHypothesis later turned with
          ⟨upTo, turn, behind, before, after, split, reached, taken⟩
        refine ⟨event :: upTo, turn, behind, before, after, by rw [split]; rfl, ?_, taken⟩
        rw [foldlM_cons_of_step first, reached]

/-- Of two cuts of one list at different events, one lies behind the other. -/
theorem cut_order {before laterBefore after laterAfter : List ε} {event other : ε}
    (different : event ≠ other)
    (sameList : before ++ event :: after = laterBefore ++ other :: laterAfter) :
    (∃ more, laterBefore = before ++ event :: more) ∨
      ∃ more, before = laterBefore ++ other :: more := by
  rcases List.append_eq_append_iff.mp sameList with ⟨more, longer, rest⟩ | ⟨more, longer, rest⟩
  · cases more with
    | nil => exact absurd (List.cons_eq_cons.mp rest).1 different
    | cons head more =>
        rw [List.cons_append, List.cons_eq_cons] at rest
        rw [← rest.1] at longer
        exact Or.inl ⟨more, longer⟩
  · cases more with
    | nil => exact absurd (List.cons_eq_cons.mp rest).1.symm different
    | cons head more =>
        rw [List.cons_append, List.cons_eq_cons] at rest
        rw [← rest.1] at longer
        exact Or.inr ⟨more, longer⟩

/-- An invariant under an assumption about the run so far. -/
theorem Run.invariant {assumption motive : σ → Prop} {start final : σ}
    (run : Run step allowed start final)
    (inherited : ∀ state event next, step state event = some next → assumption next →
      assumption state)
    (initial : motive start)
    (kept : ∀ state event next, motive state → allowed state event →
      step state event = some next → assumption next → motive next)
    (assumed : assumption final) : motive final := by
  induction run with
  | refl => exact initial
  | tail _ last inductionHypothesis =>
      rcases last with ⟨event, eventAllowed, stepped⟩
      exact kept _ event _ (inductionHypothesis (inherited _ event _ stepped assumed))
        eventAllowed stepped assumed

/-- An invariant that needs no assumption. -/
theorem Run.always {motive : σ → Prop} {start final : σ} (run : Run step allowed start final)
    (initial : motive start)
    (kept : ∀ state event next, motive state → allowed state event →
      step state event = some next → motive next) : motive final := by
  induction run with
  | refl => exact initial
  | tail _ last inductionHypothesis =>
      rcases last with ⟨event, eventAllowed, stepped⟩
      exact kept _ event _ inductionHypothesis eventAllowed stepped

/-- What a run inherits from its last state holds in its first. -/
theorem Run.inherited {assumption : σ → Prop} {start final : σ}
    (run : Run step allowed start final)
    (inherited : ∀ state event next, step state event = some next → assumption next →
      assumption state)
    (assumed : assumption final) : assumption start := by
  induction run with
  | refl => exact assumed
  | tail _ last inductionHypothesis =>
      rcases last with ⟨event, _, stepped⟩
      exact inductionHypothesis (inherited _ event _ stepped assumed)

section Emitted

variable {ω : Type u} (emit : σ → ε → List ω)

variable (step) in
/-- What the steps of a chain give off, up to the first that is not taken. -/
def emitted : σ → List ε → List ω
  | _, [] => []
  | state, event :: rest =>
      emit state event ++
        match step state event with
        | some next => emitted next rest
        | none => []

variable {emit}

/-- A balance that each step keeps together with what it gives off. -/
theorem emitted_balance {balance : List ω → σ → Prop}
    (kept : ∀ collected state event next, balance collected state →
      step state event = some next → balance (collected ++ emit state event) next)
    {start final : σ} {events : List ε} {collected : List ω} (initial : balance collected start)
    (stepped : events.foldlM step start = some final) :
    balance (collected ++ emitted step emit start events) final := by
  induction events generalizing start collected with
  | nil =>
      cases stepped
      rw [emitted, List.append_nil]
      exact initial
  | cons event rest inductionHypothesis =>
      rw [List.foldlM_cons] at stepped
      obtain ⟨middle, first, later⟩ := Option.bind_eq_some_iff.mp stepped
      rw [emitted, first, ← List.append_assoc]
      exact inductionHypothesis (kept collected start event middle initial first) later

/-- What is given off in states with a property that every step keeps. -/
theorem forall_emitted {motive : σ → Prop} {good : ω → Prop}
    (kept : ∀ state event next, motive state → step state event = some next → motive next)
    (gives : ∀ state event, motive state → ∀ output ∈ emit state event, good output)
    {start : σ} {events : List ε} (initial : motive start) :
    ∀ output ∈ emitted step emit start events, good output := by
  induction events generalizing start with
  | nil =>
      intro output member
      cases member
  | cons event rest inductionHypothesis =>
      intro output member
      rcases List.mem_append.mp member with now | later
      · exact gives start event initial output now
      · cases taken : step start event with
        | none =>
            rw [taken] at later
            cases later
        | some next =>
            rw [taken] at later
            exact inductionHypothesis (kept start event next initial taken) output later

end Emitted

end Runs

section Slots

variable {α : Type u}

/-- Replacing one slot, up to order. -/
theorem perm_of_set {slots : List α} {index : Nat} {old : α} (found : slots[index]? = some old)
    (new : α) : ∃ others, slots.Perm (old :: others) ∧ (slots.set index new).Perm (new :: others) := by
  induction slots generalizing index with
  | nil => simp at found
  | cons head rest inductionHypothesis =>
      cases index with
      | zero =>
          simp only [List.getElem?_cons_zero, Option.some.injEq] at found
          rw [found]
          exact ⟨rest, List.Perm.refl _, List.Perm.refl _⟩
      | succ index =>
          rcases inductionHypothesis (by simpa using found) with ⟨others, before, after⟩
          exact ⟨head :: others, (before.cons head).trans (List.Perm.swap _ _ _),
            (after.cons head).trans (List.Perm.swap _ _ _)⟩

/-- Replacing a slot does not raise a count the new content does not count for. -/
theorem countP_set_le {slots : List α} {index : Nat} {old new : α} {counts : α → Bool}
    (found : slots[index]? = some old) (notMore : counts new = true → counts old = true) :
    (slots.set index new).countP counts ≤ slots.countP counts := by
  rcases perm_of_set found new with ⟨others, before, after⟩
  rw [before.countP_eq, after.countP_eq, List.countP_cons, List.countP_cons]
  by_cases counted : counts new = true
  · exact Nat.le_of_eq (by rw [if_pos counted, if_pos (notMore counted)])
  · rw [if_neg counted]
    omega

theorem countP_set_le_succ {slots : List α} {index : Nat} {old : α} {counts : α → Bool}
    (found : slots[index]? = some old) (new : α) :
    (slots.set index new).countP counts ≤ slots.countP counts + 1 := by
  rcases perm_of_set found new with ⟨others, before, after⟩
  rw [before.countP_eq, after.countP_eq, List.countP_cons, List.countP_cons]
  split_ifs <;> omega

/-- A slot that counted and no longer does. -/
theorem countP_set_add_one {slots : List α} {index : Nat} {old new : α} {counts : α → Bool}
    (found : slots[index]? = some old) (counted : counts old = true)
    (uncounted : counts new = false) :
    (slots.set index new).countP counts + 1 = slots.countP counts := by
  rcases perm_of_set found new with ⟨others, before, after⟩
  rw [before.countP_eq, after.countP_eq, List.countP_cons, List.countP_cons, if_pos counted,
    if_neg (by rw [uncounted]; exact Bool.false_ne_true)]

/-- If at most one slot counts, two that count are one. -/
theorem index_eq_of_countP_le_one {slots : List α} {counts : α → Bool}
    (atMostOne : slots.countP counts ≤ 1) {first second : Nat} {left right : α}
    (firstFound : slots[first]? = some left) (secondFound : slots[second]? = some right)
    (leftCounts : counts left = true) (rightCounts : counts right = true) : first = second := by
  induction slots generalizing first second with
  | nil => simp at firstFound
  | cons head rest inductionHypothesis =>
      have inRest : ∀ {index : Nat} {slot : α}, rest[index]? = some slot → counts slot = true →
          0 < rest.countP counts := fun found counted =>
        List.countP_pos_iff.mpr ⟨_, List.mem_of_getElem? found, counted⟩
      rw [List.countP_cons] at atMostOne
      cases first with
      | zero =>
          cases second with
          | zero => rfl
          | succ second =>
              rw [List.getElem?_cons_zero, Option.some.injEq] at firstFound
              rw [List.getElem?_cons_succ] at secondFound
              have positive := inRest secondFound rightCounts
              rw [firstFound, if_pos leftCounts] at atMostOne
              omega
      | succ first =>
          rw [List.getElem?_cons_succ] at firstFound
          have positive := inRest firstFound leftCounts
          cases second with
          | zero =>
              rw [List.getElem?_cons_zero, Option.some.injEq] at secondFound
              rw [secondFound, if_pos rightCounts] at atMostOne
              omega
          | succ second =>
              rw [List.getElem?_cons_succ] at secondFound
              have restAtMostOne : rest.countP counts ≤ 1 := by omega
              exact congrArg Nat.succ (inductionHypothesis restAtMostOne firstFound secondFound)

/-- What every slot satisfies and the new content satisfies, every slot keeps. -/
theorem forall_mem_set {slots : List α} {index : Nat} {new : α} {motive : α → Prop}
    (all : ∀ slot ∈ slots, motive slot) (added : motive new) :
    ∀ slot ∈ slots.set index new, motive slot := by
  intro slot member
  rcases List.mem_or_eq_of_mem_set member with old | same
  · exact all slot old
  · rw [same]
    exact added

/-- What every slot satisfies after a replacement, and the old content satisfied,
every slot did before. -/
theorem forall_mem_of_set {slots : List α} {index : Nat} {old new : α} {motive : α → Prop}
    (found : slots[index]? = some old) (all : ∀ slot ∈ slots.set index new, motive slot)
    (replaced : motive old) : ∀ slot ∈ slots, motive slot := by
  rcases perm_of_set found new with ⟨others, before, after⟩
  intro slot member
  rcases List.mem_cons.mp (before.subset member) with rfl | other
  · exact replaced
  · exact all slot (after.symm.subset (List.mem_cons_of_mem _ other))

theorem forall_mem_concat {slots : List α} {new : α} {motive : α → Prop}
    (all : ∀ slot ∈ slots, motive slot) (added : motive new) :
    ∀ slot ∈ slots ++ [new], motive slot := by
  intro slot member
  rcases List.mem_append.mp member with old | isNew
  · exact all slot old
  · rw [List.mem_singleton.mp isNew]
    exact added

end Slots

end Foundation
