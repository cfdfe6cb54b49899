import ZkRollup.Foundation.Hex

/-!
Contract: what the hexadecimal decoder accepts.

Decoding reads digits of either case, so it is the inverse of encoding up to the
case of the text: a text decodes to a byte string if and only if it encodes it
once its letters are lower-cased.
-/

set_option autoImplicit false

namespace Foundation

namespace Hex

/-- ASCII letters in lower case. -/
def lower (c : UInt8) : UInt8 :=
  if 0x41 ≤ c ∧ c ≤ 0x5A then c ||| 0x20 else c

section Digits

private theorem forall_byte {motive : UInt8 → Prop}
    (checked : ∀ value : Fin 256, motive (UInt8.ofNat value.val)) (byte : UInt8) :
    motive byte := by
  have whole := checked ⟨byte.toNat, byte.toNat_lt⟩
  rwa [UInt8.ofNat_toNat] at whole

/-- The position matters for the error only. -/
private theorem val_toOption (c : UInt8) (index : Nat) :
    (val c index).toOption = (val c 0).toOption := by
  unfold val
  split_ifs <;> rfl

/-- A letter or a figure of this value, and no other. -/
theorem val_eq_ok {c value : UInt8} {index : Nat} :
    val c index = .ok value ↔ value < 16 ∧ lower c = digit value := by
  have sound : ∀ c : UInt8, ∀ found ∈ (val c 0).toOption, found < 16 ∧ lower c = digit found :=
    forall_byte (by decide +kernel)
  have complete : ∀ c : UInt8, ∀ value : Fin 16, lower c = digit (UInt8.ofNat value.val) →
      (val c 0).toOption = some (UInt8.ofNat value.val) := by
    exact forall_byte (by decide +kernel)
  have read : val c index = .ok value ↔ (val c 0).toOption = some value := by
    rw [← val_toOption c index]
    cases val c index <;> simp [Except.toOption]
  rw [read]
  constructor
  · exact sound c value
  · rintro ⟨small, same⟩
    have found := complete c ⟨value.toNat, small⟩
    rw [UInt8.ofNat_toNat] at found
    exact found same

/-- A byte and its two halves. -/
private theorem halves {high low byte : UInt8} :
    high < 16 ∧ low < 16 ∧ byte = high <<< 4 ||| low ↔
      byte >>> 4 = high ∧ byte &&& 0x0F = low := by
  constructor
  · rintro ⟨highSmall, lowSmall, rfl⟩
    have joined : ∀ high low : Fin 16,
        (UInt8.ofNat high.val <<< 4 ||| UInt8.ofNat low.val) >>> 4 = UInt8.ofNat high.val ∧
          (UInt8.ofNat high.val <<< 4 ||| UInt8.ofNat low.val) &&& 0x0F = UInt8.ofNat low.val := by
      decide +kernel
    have both := joined ⟨high.toNat, highSmall⟩ ⟨low.toNat, lowSmall⟩
    rwa [UInt8.ofNat_toNat, UInt8.ofNat_toNat] at both
  · rintro ⟨rfl, rfl⟩
    have split : ∀ byte : UInt8, byte >>> 4 < 16 ∧ byte &&& 0x0F < 16 ∧
        byte = (byte >>> 4) <<< 4 ||| (byte &&& 0x0F) :=
      forall_byte (by decide +kernel)
    exact split byte

/-- Neither digit of a byte is a control character or a blank. -/
private theorem digits_visible : ∀ byte : UInt8,
    (0x30 : UInt8) ≤ digit (byte >>> 4) ∧ (0x30 : UInt8) ≤ digit (byte &&& 0x0F) :=
  forall_byte (by decide +kernel)

end Digits

theorem le_of_mem_encode {bytes : Bytes} {c : UInt8} (member : c ∈ encode bytes) : 0x30 ≤ c := by
  induction bytes with
  | nil => cases member
  | cons byte rest inductionHypothesis =>
      simp only [encode, List.mem_cons] at member
      obtain rfl | rfl | inRest := member
      · exact (digits_visible byte).1
      · exact (digits_visible byte).2
      · exact inductionHypothesis inRest

private theorem decodePairs_eq_ok {text bytes : Bytes} {index : Nat}
    (even : text.length % 2 = 0) :
    decodePairs index text = .ok bytes ↔ text.map lower = encode bytes := by
  induction bytes generalizing text index with
  | nil =>
      match text with
      | [] => simp [decodePairs, encode]
      | [c] => simp at even
      | high :: low :: rest =>
          simp only [decodePairs, encode, List.map_cons, reduceCtorEq, iff_false]
          intro decoded
          cases highRead : val high index <;> cases lowRead : val low (index + 1) <;>
            cases restRead : decodePairs (index + 2) rest <;>
            simp [highRead, lowRead, restRead, bind, Except.bind, pure, Except.pure] at decoded
  | cons byte bytes inductionHypothesis =>
      match text with
      | [] => simp [decodePairs, encode]
      | [c] => simp at even
      | high :: low :: rest =>
          have evenRest : rest.length % 2 = 0 := by
            simp only [List.length_cons] at even
            omega
          have step : decodePairs index (high :: low :: rest) = .ok (byte :: bytes) ↔
              (∃ highValue lowValue, val high index = .ok highValue ∧
                val low (index + 1) = .ok lowValue ∧ byte = highValue <<< 4 ||| lowValue) ∧
              decodePairs (index + 2) rest = .ok bytes := by
            simp only [decodePairs]
            cases val high index with
            | error failure => simp [bind, Except.bind]
            | ok highValue =>
                cases val low (index + 1) with
                | error failure => simp [bind, Except.bind]
                | ok lowValue =>
                    cases decodePairs (index + 2) rest with
                    | error failure => simp [bind, Except.bind]
                    | ok tail => simp [bind, Except.bind, pure, Except.pure, eq_comm]
          rw [step, inductionHypothesis evenRest]
          simp only [val_eq_ok, encode, List.map_cons, List.cons.injEq, ← and_assoc]
          refine and_congr_left fun _ => ?_
          constructor
          · rintro ⟨highValue, lowValue, ⟨⟨⟨highSmall, highRead⟩, lowSmall⟩, lowRead⟩, joined⟩
            obtain ⟨sameHigh, sameLow⟩ := halves.mp ⟨highSmall, lowSmall, joined⟩
            rw [sameHigh, sameLow]
            exact ⟨highRead, lowRead⟩
          · rintro ⟨highRead, lowRead⟩
            obtain ⟨highSmall, lowSmall, joined⟩ :=
              halves.mpr (⟨rfl, rfl⟩ : byte >>> 4 = byte >>> 4 ∧ byte &&& 0x0F = byte &&& 0x0F)
            exact ⟨byte >>> 4, byte &&& 0x0F, ⟨⟨⟨highSmall, highRead⟩, lowSmall⟩, lowRead⟩, joined⟩

/-- A text decodes to these bytes exactly if it is their encoding in any case. -/
theorem decode_eq_ok {text bytes : Bytes} :
    decode text = .ok bytes ↔ text.map lower = encode bytes := by
  unfold decode
  by_cases odd : text.length % 2 ≠ 0
  · rw [if_pos odd]
    constructor
    · nofun
    · intro same
      have lengths := congrArg List.length same
      rw [List.length_map, encode_length] at lengths
      omega
  · rw [if_neg odd]
    exact decodePairs_eq_ok (by omega)

/-- An encoding is in lower case. -/
theorem map_lower_encode (bytes : Bytes) : (encode bytes).map lower = encode bytes :=
  decode_eq_ok.mp (decode_encode bytes)

end Hex

end Foundation
