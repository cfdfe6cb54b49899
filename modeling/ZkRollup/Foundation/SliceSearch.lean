import Mathlib.Order.Monotone.Basic
import Mathlib.Order.Fin.Basic

/-!
Contract: binary search on a list whose keys are strictly increasing.

`binarySearchByKey` is the branch-free loop of Rust's
`slice::binary_search_by_key`: a window of candidates is halved until one is
left, and only then compared for equality. On a list that is not sorted its
answer is some in-bounds index and carries no meaning.

Owns: the loop, its in-bounds guarantee (by construction), and the meaning of
both answers on a strictly increasing list.
-/

set_option autoImplicit false

namespace Foundation

universe u v

/-- `Result<usize, usize>` with the bounds that both indices keep. -/
inductive SearchResult (length : Nat) where
  | ok (index : Fin length)
  | err (index : Fin (length + 1))
deriving DecidableEq

/-- A nonempty range of candidate positions inside a list. -/
structure Window (length : Nat) where
  base : Nat
  size : Nat
  nonempty : 0 < size
  fits : base + size ≤ length

namespace Window

variable {length : Nat}

def first (window : Window length) : Fin length :=
  ⟨window.base, by
    have nonempty := window.nonempty
    have fits := window.fits
    omega⟩

def middle (window : Window length) : Fin length :=
  ⟨window.base + window.size / 2, by
    have nonempty := window.nonempty
    have fits := window.fits
    omega⟩

/-- Drop half of the window, keeping its left or its right end. -/
def halve (window : Window length) (keepLeft : Bool) : Window length where
  base := if keepLeft then window.base else window.base + window.size / 2
  size := window.size - window.size / 2
  nonempty := by
    have nonempty := window.nonempty
    omega
  fits := by
    have fits := window.fits
    split <;> omega

end Window

section Search

variable {K : Type u} [LinearOrder K] {length : Nat}

/-- The halving loop; `fuel` bounds the number of rounds. -/
def narrow (keyAt : Fin length → K) (key : K) : Nat → Window length → Window length
  | 0, window => window
  | fuel + 1, window =>
      if 1 < window.size then
        narrow keyAt key fuel (window.halve (decide (key < keyAt window.middle)))
      else
        window

def searchKeys (keyAt : Fin length → K) (key : K) : SearchResult length :=
  if nonempty : 0 < length then
    let window := narrow keyAt key length ⟨0, length, nonempty, Nat.le_of_eq (Nat.zero_add _)⟩
    let found := keyAt window.first
    if found = key then
      .ok window.first
    else if found < key then
      .err window.first.succ
    else
      .err window.first.castSucc
  else
    .err 0

/-- On any list, a found index holds the key. -/
theorem searchKeys_ok {keyAt : Fin length → K} {key : K} {index : Fin length}
    (found : searchKeys keyAt key = .ok index) : keyAt index = key := by
  unfold searchKeys at found
  split at found
  case isTrue nonempty =>
    dsimp only at found
    split_ifs at found with same below
    cases found
    exact same
  case isFalse empty => cases found

/-- The same answer about a list of the same length. -/
def SearchResult.cast {other : Nat} (same : length = other) : SearchResult length → SearchResult other
  | .ok index => .ok (index.cast same)
  | .err index => .err (index.cast (congrArg Nat.succ same))

/-- The search looks at nothing but the keys. -/
theorem searchKeys_cast {other : Nat} (same : length = other) {keyAt : Fin length → K}
    {otherKeyAt : Fin other → K}
    (sameKeys : ∀ index, keyAt index = otherKeyAt (index.cast same)) (key : K) :
    searchKeys otherKeyAt key = (searchKeys keyAt key).cast same := by
  subst same
  have equal : keyAt = otherKeyAt := funext sameKeys
  subst equal
  cases searchKeys keyAt key <;> rfl

/-- Everything left of the window is below the key, everything right of it
above. -/
structure Window.Brackets (window : Window length) (keyAt : Fin length → K) (key : K) :
    Prop where
  below : ∀ index : Fin length, index.val < window.base → keyAt index < key
  above : ∀ index : Fin length, window.base + window.size ≤ index.val → key < keyAt index

private theorem halve_brackets {keyAt : Fin length → K} {key : K}
    (increasing : StrictMono keyAt) {window : Window length}
    (brackets : window.Brackets keyAt key) :
    (window.halve (decide (key < keyAt window.middle))).Brackets keyAt key := by
  by_cases left : key < keyAt window.middle
  · refine ⟨fun index before => ?_, fun index after => ?_⟩
    · simp only [Window.halve, left, decide_true, if_true] at before
      exact brackets.below index before
    · simp only [Window.halve, left, decide_true, if_true] at after
      have atLeast : window.middle ≤ index := by
        rw [Fin.le_def]
        simp only [Window.middle]
        omega
      exact left.trans_le (increasing.monotone atLeast)
  · refine ⟨fun index before => ?_, fun index after => ?_⟩
    · simp only [Window.halve, left, decide_false, Bool.false_eq_true, if_false] at before
      have atMost : index < window.middle := before
      exact (increasing atMost).trans_le (not_lt.mp left)
    · simp only [Window.halve, left, decide_false, Bool.false_eq_true, if_false] at after
      have nonempty := window.nonempty
      exact brackets.above index (by omega)

private theorem narrow_spec {keyAt : Fin length → K} (key : K)
    (increasing : StrictMono keyAt) (fuel : Nat) (window : Window length)
    (enough : window.size ≤ fuel + 1) (brackets : window.Brackets keyAt key) :
    (narrow keyAt key fuel window).size = 1 ∧
      (narrow keyAt key fuel window).Brackets keyAt key := by
  induction fuel generalizing window with
  | zero =>
      have nonempty := window.nonempty
      exact ⟨by simp only [narrow]; omega, brackets⟩
  | succ fuel inductionHypothesis =>
      have nonempty := window.nonempty
      simp only [narrow]
      split
      case isTrue large =>
        apply inductionHypothesis
        · simp only [Window.halve]
          omega
        · exact halve_brackets increasing brackets
      case isFalse single => exact ⟨by omega, brackets⟩

/-- What an answer says about the key, as `slice::binary_search_by_key`
documents it for sorted slices. -/
def SearchResult.Correct (keyAt : Fin length → K) (key : K) : SearchResult length → Prop
  | .ok index => keyAt index = key
  | .err index =>
      (∀ other : Fin length, other.val < index.val → keyAt other < key) ∧
        ∀ other : Fin length, index.val ≤ other.val → key < keyAt other

theorem searchKeys_correct {keyAt : Fin length → K} (increasing : StrictMono keyAt) (key : K) :
    (searchKeys keyAt key).Correct keyAt key := by
  unfold searchKeys
  split
  case isFalse empty =>
    exact ⟨fun other => absurd other.isLt (by omega), fun other => absurd other.isLt (by omega)⟩
  case isTrue nonempty =>
    obtain ⟨single, brackets⟩ := narrow_spec key increasing length
      ⟨0, length, nonempty, Nat.le_of_eq (Nat.zero_add _)⟩ (by simp)
      ⟨fun index before => absurd before (by simp), fun index after => absurd index.isLt (by
        simp only [Nat.zero_add] at after
        omega)⟩
    generalize narrow keyAt key length _ = window at single brackets
    dsimp only
    split_ifs with found below
    · exact found
    · refine ⟨fun other before => ?_, fun other after => brackets.above other ?_⟩
      · have atMost : other ≤ window.first := by
          rw [Fin.le_def]
          simp only [Fin.val_succ] at before
          omega
        exact (increasing.monotone atMost).trans_lt below
      · simpa [Window.first, single] using after
    · have above : key < keyAt window.first := lt_of_le_of_ne (not_lt.mp below) (Ne.symm found)
      refine ⟨fun other before => brackets.below other before, fun other after => ?_⟩
      have atLeast : window.first ≤ other := after
      exact above.trans_le (increasing.monotone atLeast)

end Search

variable {α : Type u} {K : Type v} [LinearOrder K]

/-- Rust's `slice::binary_search_by_key`. -/
def binarySearchByKey (items : List α) (key : K) (keyOf : α → K) : SearchResult items.length :=
  searchKeys (fun index => keyOf (items.get index)) key

theorem binarySearchByKey_correct {items : List α} {keyOf : α → K}
    (increasing : items.Pairwise fun left right => keyOf left < keyOf right) (key : K) :
    (binarySearchByKey items key keyOf).Correct (fun index => keyOf (items.get index)) key := by
  apply searchKeys_correct
  intro left right before
  exact List.pairwise_iff_getElem.mp increasing left right left.isLt right.isLt before

end Foundation
