import Mathlib.Data.List.Lex
import Mathlib.Data.Nat.ModEq
import Mathlib.Order.Basic
import Mathlib.Tactic.Linarith
import Mathlib.Tactic.Ring

/-!
Contract: fixed-width byte strings and injective fixed-width codecs.

Owns:
- Rust-style byte arrays `[u8; n]` with their lexicographic order;
- big-endian words of a given width and their injectivity below the bound;
- codecs of one exact width, their products, and the unique decodability of
  undelimited concatenations of equally wide records.

Does not own any concrete record layout or hash function.
-/

set_option autoImplicit false

namespace Foundation

universe u v

abbrev Bytes := List UInt8

instance byteLinearOrder : LinearOrder UInt8 where
  le_refl := UInt8.le_refl
  le_trans _ _ _ := UInt8.le_trans
  lt_iff_le_not_ge left right := by
    simp only [UInt8.lt_iff_toNat_lt, UInt8.le_iff_toNat_le]
    omega
  le_antisymm _ _ := UInt8.le_antisymm
  le_total := UInt8.le_total
  toDecidableLE := inferInstance
  toDecidableEq := inferInstance
  toDecidableLT := inferInstance

/-- A byte array of one exact length, as Rust's `[u8; n]`. -/
structure FixedBytes (n : Nat) where
  bytes : Bytes
  length_eq : bytes.length = n
deriving DecidableEq

namespace FixedBytes

variable {n : Nat}

theorem bytes_injective : Function.Injective (bytes (n := n)) := by
  rintro ⟨left, _⟩ ⟨right, _⟩ equal
  subst equal
  rfl

/-- `derive(Ord)` on an array compares lexicographically. -/
instance : LinearOrder (FixedBytes n) where
  lt left right := left.bytes < right.bytes
  le left right := left.bytes ≤ right.bytes
  le_refl left := le_refl left.bytes
  le_trans _ _ _ first second := le_trans first second
  lt_iff_le_not_ge left right := lt_iff_le_not_ge (a := left.bytes) (b := right.bytes)
  le_antisymm _ _ first second := bytes_injective (le_antisymm first second)
  le_total left right := le_total left.bytes right.bytes
  toDecidableLE left right := inferInstanceAs (Decidable (left.bytes ≤ right.bytes))
  toDecidableLT left right := inferInstanceAs (Decidable (left.bytes < right.bytes))
  toDecidableEq := inferInstance

def zero (n : Nat) : FixedBytes n where
  bytes := List.replicate n 0
  length_eq := List.length_replicate

end FixedBytes

/-! ## Big-endian words -/

/-- The `width` low bytes of `value`, most significant byte first. -/
def beBytes : Nat → Nat → Bytes
  | 0, _ => []
  | width + 1, value => UInt8.ofNat (value / 256 ^ width) :: beBytes width value

@[simp] theorem beBytes_length (width value : Nat) :
    (beBytes width value).length = width := by
  induction width with
  | zero => rfl
  | succ width inductionHypothesis => simp [beBytes, inductionHypothesis]

/-- The big-endian array of a number. -/
def FixedBytes.ofNat (n value : Nat) : FixedBytes n :=
  ⟨beBytes n value, beBytes_length n value⟩

private theorem ofNat_eq_iff (left right : Nat) :
    UInt8.ofNat left = UInt8.ofNat right ↔ left % 256 = right % 256 := by
  rw [← UInt8.toNat_inj, UInt8.toNat_ofNat', UInt8.toNat_ofNat']

/-- A word determines its value modulo `256 ^ width`, and nothing more. -/
theorem beBytes_eq_iff (width left right : Nat) :
    beBytes width left = beBytes width right ↔
      left % 256 ^ width = right % 256 ^ width := by
  induction width with
  | zero => simp [beBytes, Nat.mod_one]
  | succ width inductionHypothesis =>
      rw [beBytes, beBytes, List.cons.injEq, ofNat_eq_iff, inductionHypothesis,
        Nat.mod_pow_succ, Nat.mod_pow_succ]
      constructor
      · rintro ⟨digitEqual, restEqual⟩
        rw [digitEqual, restEqual]
      · intro equal
        have positive : 0 < 256 ^ width := Nat.pow_pos (by decide)
        have leftLow := Nat.mod_lt left positive
        have rightLow := Nat.mod_lt right positive
        -- The low part is a remainder and the high digit a quotient by `256 ^ width`.
        have lowEqual := congrArg (· % 256 ^ width) equal
        have highEqual := congrArg (· / 256 ^ width) equal
        simp only [Nat.add_mul_mod_self_left, Nat.mod_mod] at lowEqual
        simp only [Nat.add_mul_div_left _ _ positive, Nat.div_eq_of_lt leftLow,
          Nat.div_eq_of_lt rightLow, Nat.zero_add] at highEqual
        exact ⟨highEqual, lowEqual⟩

/-- Rust's `u64::to_be_bytes`. -/
def u64ToBeBytes (value : UInt64) : Bytes :=
  beBytes 8 value.toNat

@[simp] theorem u64ToBeBytes_length (value : UInt64) :
    (u64ToBeBytes value).length = 8 :=
  beBytes_length 8 value.toNat

theorem u64ToBeBytes_injective : Function.Injective u64ToBeBytes := by
  intro left right equal
  have same := (beBytes_eq_iff 8 left.toNat right.toNat).mp equal
  have leftLt := left.toNat_lt
  have rightLt := right.toNat_lt
  apply UInt64.toNat_inj.mp
  rw [Nat.mod_eq_of_lt (by omega), Nat.mod_eq_of_lt (by omega)] at same
  exact same

/-! ## Fixed-width codecs -/

/-- An injective encoding whose words all have the same width. -/
structure FixedCodec (α : Type u) where
  width : Nat
  encode : α → Bytes
  encode_length : ∀ value, (encode value).length = width
  encode_injective : Function.Injective encode

namespace FixedCodec

variable {α : Type u} {β : Type v}

/-- A word followed by anything splits back in only one way. -/
theorem append_injective (codec : FixedCodec α) {left right : α}
    {leftRest rightRest : Bytes}
    (equal : codec.encode left ++ leftRest = codec.encode right ++ rightRest) :
    left = right ∧ leftRest = rightRest := by
  have sameLength : (codec.encode left).length = (codec.encode right).length := by
    rw [codec.encode_length, codec.encode_length]
  obtain ⟨words, rests⟩ := List.append_inj equal sameLength
  exact ⟨codec.encode_injective words, rests⟩

/-- Consecutive fields of one record. -/
def prod (first : FixedCodec α) (second : FixedCodec β) : FixedCodec (α × β) where
  width := first.width + second.width
  encode value := first.encode value.1 ++ second.encode value.2
  encode_length value := by
    rw [List.length_append, first.encode_length, second.encode_length]
  encode_injective := by
    rintro ⟨leftFirst, leftSecond⟩ ⟨rightFirst, rightSecond⟩ equal
    obtain ⟨firstEqual, rest⟩ := first.append_injective equal
    exact Prod.ext firstEqual (second.encode_injective rest)

/-- Encode a value through an injective view of it. -/
def contramap (codec : FixedCodec α) (view : β → α)
    (viewInjective : Function.Injective view) : FixedCodec β where
  width := codec.width
  encode value := codec.encode (view value)
  encode_length value := codec.encode_length (view value)
  encode_injective := codec.encode_injective.comp viewInjective

/-- Undelimited concatenations of nonempty words of one width are uniquely
decodable, for lists of any and of different lengths. -/
theorem flatMap_injective (codec : FixedCodec α) (positive : 0 < codec.width) :
    Function.Injective fun values : List α => values.flatMap codec.encode := by
  have nonempty : ∀ value rest, codec.encode value ++ rest ≠ [] := by
    intro value rest empty
    have lengths := congrArg List.length empty
    rw [List.length_append, codec.encode_length, List.length_nil] at lengths
    omega
  intro left
  induction left with
  | nil =>
      intro right equal
      cases right with
      | nil => rfl
      | cons head tail => exact absurd equal.symm (nonempty head _)
  | cons head tail inductionHypothesis =>
      intro right equal
      cases right with
      | nil => exact absurd equal (nonempty head _)
      | cons otherHead otherTail =>
          simp only [List.flatMap_cons] at equal
          obtain ⟨heads, tails⟩ := codec.append_injective equal
          rw [heads, inductionHypothesis tails]

def fixedBytes (n : Nat) : FixedCodec (FixedBytes n) where
  width := n
  encode := FixedBytes.bytes
  encode_length := FixedBytes.length_eq
  encode_injective := FixedBytes.bytes_injective

def u64 : FixedCodec UInt64 where
  width := 8
  encode := u64ToBeBytes
  encode_length := u64ToBeBytes_length
  encode_injective := u64ToBeBytes_injective

end FixedCodec

end Foundation
