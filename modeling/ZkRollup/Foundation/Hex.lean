import ZkRollup.Foundation.FixedWidth
import Mathlib.Data.Fintype.Basic
import Mathlib.Tactic.FinCases

/-!
Contract: the lower-case hexadecimal text form of byte strings.

Owns `encode`, the rejecting `decode` with its error positions, and their
round trip. Texts are UTF-8 byte strings, as Rust's `str` is.

Does not own any prefix convention: a leading `0x` is the caller's concern.
-/

set_option autoImplicit false

namespace Foundation

namespace Hex

inductive FromHexError where
  | invalidHexCharacter (c : UInt8) (index : Nat)
  | oddLength
  | invalidStringLength
deriving DecidableEq, Repr

/-- The digit of a value below sixteen. -/
def digit (value : UInt8) : UInt8 :=
  if value < 10 then 0x30 + value else 0x61 + (value - 10)

def encode : Bytes → Bytes
  | [] => []
  | byte :: rest => digit (byte >>> 4) :: digit (byte &&& 0x0F) :: encode rest

/-- The value of one digit of either case. -/
def val (c : UInt8) (index : Nat) : Except FromHexError UInt8 :=
  if 0x41 ≤ c ∧ c ≤ 0x46 then
    .ok (c - 0x41 + 10)
  else if 0x61 ≤ c ∧ c ≤ 0x66 then
    .ok (c - 0x61 + 10)
  else if 0x30 ≤ c ∧ c ≤ 0x39 then
    .ok (c - 0x30)
  else
    .error (.invalidHexCharacter c index)

/-- Decode digit pairs from position `index` on; the first bad digit decides. -/
def decodePairs : Nat → Bytes → Except FromHexError Bytes
  | index, high :: low :: rest => do
      let highValue ← val high index
      let lowValue ← val low (index + 1)
      let tail ← decodePairs (index + 2) rest
      return (highValue <<< 4 ||| lowValue) :: tail
  | _, _ => .ok []

def decode (text : Bytes) : Except FromHexError Bytes :=
  if text.length % 2 ≠ 0 then .error .oddLength else decodePairs 0 text

theorem encode_length (bytes : Bytes) : (encode bytes).length = 2 * bytes.length := by
  induction bytes with
  | nil => rfl
  | cons byte rest inductionHypothesis =>
      simp only [encode, List.length_cons, inductionHypothesis]
      omega

/-! ## Round trip -/

/-- What the two digits of a byte decode to, checked for all 256 bytes. -/
private theorem digit_pair_round_trip (byte : UInt8) (index : Nat) :
    val (digit (byte >>> 4)) index = .ok (byte >>> 4) ∧
      val (digit (byte &&& 0x0F)) index = .ok (byte &&& 0x0F) ∧
      (byte >>> 4) <<< 4 ||| (byte &&& 0x0F) = byte := by
  have highBound : (byte >>> 4).toNat < 16 := by
    have below := byte.toNat_lt
    simp only [UInt8.toNat_shiftRight, UInt8.reduceToNat, Nat.reduceMod,
      Nat.shiftRight_eq_div_pow]
    omega
  have lowBound : (byte &&& 0x0F).toNat < 16 := by
    rw [UInt8.toNat_and]
    exact Nat.lt_of_le_of_lt Nat.and_le_right (by decide)
  have nibble : ∀ value : Fin 16, ∀ position : Nat,
      val (digit (UInt8.ofNat value.val)) position = .ok (UInt8.ofNat value.val) := by
    intro value position
    fin_cases value <;> rfl
  have joined : ∀ value : Fin 256,
      (UInt8.ofNat value.val >>> 4) <<< 4 ||| (UInt8.ofNat value.val &&& 0x0F) =
        UInt8.ofNat value.val := by
    decide +kernel
  refine ⟨?_, ?_, ?_⟩
  · have high := nibble ⟨(byte >>> 4).toNat, highBound⟩ index
    rwa [UInt8.ofNat_toNat] at high
  · have low := nibble ⟨(byte &&& 0x0F).toNat, lowBound⟩ index
    rwa [UInt8.ofNat_toNat] at low
  · have whole := joined ⟨byte.toNat, byte.toNat_lt⟩
    rwa [UInt8.ofNat_toNat] at whole

private theorem decodePairs_encode (bytes : Bytes) (index : Nat) :
    decodePairs index (encode bytes) = .ok bytes := by
  induction bytes generalizing index with
  | nil => rfl
  | cons byte rest inductionHypothesis =>
      obtain ⟨high, -, joined⟩ := digit_pair_round_trip byte index
      obtain ⟨-, low, -⟩ := digit_pair_round_trip byte (index + 1)
      simp only [encode, decodePairs, high, low, inductionHypothesis]
      show Except.ok (((byte >>> 4) <<< 4 ||| (byte &&& 0x0F)) :: rest) = _
      rw [joined]

theorem decode_encode (bytes : Bytes) : decode (encode bytes) = .ok bytes := by
  unfold decode
  rw [encode_length, if_neg (by omega)]
  exact decodePairs_encode bytes 0

end Hex

end Foundation
