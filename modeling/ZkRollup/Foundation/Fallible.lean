import Mathlib.Tactic.Common

/-!
Contract: inversion of successful runs of fallible code.

Code that fails returns an `Except`. Code that may panic as well returns nothing
when it does. In both, a successful run has passed every call before, and a call
whose error is only renamed has succeeded itself.
-/

set_option autoImplicit false

namespace Foundation

universe u

section

variable {ε δ α β : Type u}

theorem mapError_eq_ok {result : Except ε α} {wrap : ε → δ} {value : α} :
    result.mapError wrap = .ok value ↔ result = .ok value := by
  cases result <;> simp [Except.mapError]

theorem bind_eq_ok {result : Except ε α} {rest : α → Except ε β} {value : β} :
    (result >>= rest) = .ok value ↔ ∃ middle, result = .ok middle ∧ rest middle = .ok value := by
  cases result <;> simp [bind, Except.bind]

theorem mapError_eq_error {result : Except ε α} {wrap : ε → δ} {failure : δ} :
    result.mapError wrap = .error failure ↔ ∃ cause, result = .error cause ∧ wrap cause = failure := by
  cases result <;> simp [Except.mapError]

theorem bind_eq_error {result : Except ε α} {rest : α → Except ε β} {failure : ε} :
    (result >>= rest) = .error failure ↔
      result = .error failure ∨ ∃ middle, result = .ok middle ∧ rest middle = .error failure := by
  cases result <;> simp [bind, Except.bind]

/-- Code that fails, or panics (`none`), or returns. -/
abbrev Fallible (ε α : Type u) : Type u :=
  ExceptT ε Option α

namespace Fallible

/-- Code that cannot panic. -/
def ofExcept (result : Except ε α) : Fallible ε α :=
  ExceptT.mk (some result)

theorem run_ofExcept_ok {result : Except ε α} {value : α} :
    (ofExcept result).run = some (.ok value) ↔ result = .ok value :=
  Option.some_inj

theorem run_bind_ok {first : Fallible ε α} {rest : α → Fallible ε β} {value : β} :
    (first >>= rest).run = some (.ok value) ↔
      ∃ middle, first.run = some (.ok middle) ∧ (rest middle).run = some (.ok value) := by
  rw [ExceptT.run_bind]
  cases first.run with
  | none => simp
  | some result => cases result <;> simp

theorem run_adapt_ok {work : Fallible ε α} {wrap : ε → δ} {value : α} :
    (work.adapt wrap).run = some (.ok value) ↔ work.run = some (.ok value) := by
  show Option.map (Except.mapError wrap) work.run = some (.ok value) ↔ _
  cases work.run with
  | none => simp
  | some result => cases result <;> simp [Except.mapError]

end Fallible

end

end Foundation
