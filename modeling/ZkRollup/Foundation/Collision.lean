import Mathlib.Data.List.Basic

/-!
Contract: binding through a hash function, relative to the inputs that were
actually hashed.

No hash function with a fixed output size is injective, so nothing here assumes
it. A binding argument either succeeds or exhibits two distinct inputs, both
from the given list, with one digest.
-/

set_option autoImplicit false

namespace Foundation

universe u v

variable {α : Type u} {δ : Type v} (hash : α → δ)

/-- Two distinct inputs out of the listed ones have the same digest. -/
def Collision (inputs : List α) : Prop :=
  ∃ first ∈ inputs, ∃ second ∈ inputs, first ≠ second ∧ hash first = hash second

/-- The digests of the listed inputs tell them apart. -/
def CollisionFree (inputs : List α) : Prop :=
  ∀ first ∈ inputs, ∀ second ∈ inputs, hash first = hash second → first = second

instance [DecidableEq α] [DecidableEq δ] (inputs : List α) :
    Decidable (CollisionFree hash inputs) :=
  inferInstanceAs (Decidable (∀ first ∈ inputs, ∀ second ∈ inputs,
    hash first = hash second → first = second))

variable {hash}

theorem collisionFree_of_not_collision {inputs : List α} (none : ¬ Collision hash inputs) :
    CollisionFree hash inputs := by
  intro first firstMember second secondMember sameDigest
  by_contra different
  exact none ⟨first, firstMember, second, secondMember, different, sameDigest⟩

theorem CollisionFree.mono {inputs more : List α} (free : CollisionFree hash more)
    (subset : inputs ⊆ more) : CollisionFree hash inputs :=
  fun first firstMember second secondMember sameDigest =>
    free first (subset firstMember) second (subset secondMember) sameDigest

/-- If freedom from collisions gives a conclusion, the conclusion or a
collision holds outright. -/
theorem or_collision {inputs : List α} {conclusion : Prop}
    (binding : CollisionFree hash inputs → conclusion) :
    conclusion ∨ Collision hash inputs := by
  by_cases collision : Collision hash inputs
  · exact Or.inr collision
  · exact Or.inl (binding (collisionFree_of_not_collision collision))

end Foundation
