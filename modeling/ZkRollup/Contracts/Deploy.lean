import ZkRollup.Contracts.Rollup
import ZkRollup.Foundation.Collision
import ZkRollup.Stf.ApplyTx

/-!
Contract: the proof mode as the prover reads it (`sp1-script/src/lib.rs`) and as
the deploy script reads it (`contracts/script/Deploy.s.sol`).

Both read `PROOF_MODE` and ignore the case of ASCII letters. What is neither
mock nor groth16 falls to the mock on one side and to groth16 on the other.

Forge and SP1 are not part of the repository. They enter as operations whose
documented answers are stated beside them and assumed by name.
-/

set_option autoImplicit false

namespace ZkRollup

open Foundation

def utf8 (text : String) : Bytes :=
  text.toUTF8.data.toList

def Utf8 (bytes : Bytes) : Prop :=
  bytes.toByteArray.IsValidUTF8

instance (bytes : Bytes) : Decidable (Utf8 bytes) :=
  inferInstanceAs (Decidable bytes.toByteArray.IsValidUTF8)

/-! ## The prover -/

inductive ProofMode where
  | mock
  | groth16
deriving DecidableEq

inductive VarError where
  | notPresent
  | notUnicode
deriving DecidableEq

/-- `std::env::var` of a variable with this value. -/
def envVar : Option Bytes → Except VarError Bytes
  | none => .error .notPresent
  | some value => if Utf8 value then .ok value else .error .notUnicode

/-- `unwrap_or_default` on a `String`. -/
def unwrapOrDefault : Except VarError Bytes → Bytes
  | .ok text => text
  | .error _ => []

/-- `u8::to_ascii_lowercase`. -/
def toAsciiLowercase (byte : UInt8) : UInt8 :=
  if 0x41 ≤ byte ∧ byte ≤ 0x5A then byte ||| 0x20 else byte

namespace ProofMode

def fromEnv (value : Option Bytes) : ProofMode :=
  let text := (unwrapOrDefault (envVar value)).map toAsciiLowercase
  if text = utf8 "groth16" ∨ text = utf8 "real" then groth16 else mock

/-- The `proof_bytes` of `prove`; `bytes` is what a Groth16 proof encodes to. -/
def proofBytes (bytes : Bytes) : ProofMode → Bytes
  | mock => []
  | groth16 => bytes

end ProofMode

/-! ## The deploy script -/

/-- The answers of Forge's cheat codes and of contract creation. -/
structure Forge where
  envOrString : (value : Option Bytes) → (default : Bytes) → Bytes
  envOrAddress : (value : Option Bytes) → (default : FixedBytes 20) → FixedBytes 20
  newMockVerifier : FixedBytes 20
  newGroth16Verifier : FixedBytes 20

def IsAsciiAlphanumeric (byte : UInt8) : Prop :=
  (0x30 ≤ byte ∧ byte ≤ 0x39) ∨ (0x41 ≤ byte ∧ byte ≤ 0x5A) ∨ (0x61 ≤ byte ∧ byte ≤ 0x7A)

instance (byte : UInt8) : Decidable (IsAsciiAlphanumeric byte) :=
  inferInstanceAs (Decidable (_ ∨ _))

/-- `vm.envOr` answers its default for an unset variable, and reads a plain word
as a string literally. What it reads from other texts (quoted ones, say) is left
open. -/
structure Forge.Documented (forge : Forge) : Prop where
  unsetString : ∀ default, forge.envOrString none default = default
  unsetAddress : ∀ default, forge.envOrAddress none default = default
  word : ∀ text default, text ≠ [] → (∀ byte ∈ text, IsAsciiAlphanumeric byte) →
    forge.envOrString (some text) default = text

/-- The environment of a deployment. The two required variables are taken as
Forge reads them. -/
structure DeployEnv where
  programVKey : Hash
  genesisRoot : Hash
  proofMode : Option Bytes
  sp1Verifier : Option Bytes

/-- Which contract stands behind the verifier address. -/
inductive Verifier where
  | preset
  | sp1MockVerifier
  | sp1VerifierGroth16
deriving DecidableEq

namespace Deploy

variable [Primitives]

/-- One round of the loop of `_isMock`. `c + 32` does not overflow a `uint8`. -/
def lowerByte (byte : UInt8) : UInt8 :=
  if 0x41 ≤ byte ∧ byte ≤ 0x5A then byte + 32 else byte

def lower (mode : Bytes) : Bytes :=
  fill (fun i => lowerByte (mode.getD i 0)) (List.replicate mode.length 0)

def isMock (mode : Bytes) : Bool :=
  keccak256 (lower mode) = keccak256 (utf8 "mock")

def run (forge : Forge) (env : DeployEnv) : Except RollupRevert (Rollup × Verifier) := do
  let proofMode := forge.envOrString env.proofMode (utf8 "mock")
  let presetVerifier := forge.envOrAddress env.sp1Verifier (.zero 20)
  let (verifier, kind) :=
    if presetVerifier ≠ .zero 20 then
      (presetVerifier, Verifier.preset)
    else if isMock proofMode then
      (forge.newMockVerifier, Verifier.sp1MockVerifier)
    else
      (forge.newGroth16Verifier, Verifier.sp1VerifierGroth16)
  let rollup ← Rollup.deploy verifier env.programVKey env.genesisRoot
  return (rollup, kind)

end Deploy

/-! ## The two readings compared -/

section Bytewise

private theorem forall_byte {motive : UInt8 → Prop}
    (checked : ∀ value : Fin 256, motive (UInt8.ofNat value.val)) (byte : UInt8) :
    motive byte := by
  have whole := checked ⟨byte.toNat, byte.toNat_lt⟩
  rwa [UInt8.ofNat_toNat] at whole

theorem Deploy.lowerByte_eq (byte : UInt8) : Deploy.lowerByte byte = toAsciiLowercase byte := by
  revert byte
  exact forall_byte (by decide +kernel)

theorem isAsciiAlphanumeric_of_lowercase (byte : UInt8) :
    IsAsciiAlphanumeric (toAsciiLowercase byte) → IsAsciiAlphanumeric byte := by
  revert byte
  exact forall_byte (by decide +kernel)

theorem utf8EncodeChar_of_alphanumeric (byte : UInt8) :
    IsAsciiAlphanumeric byte → String.utf8EncodeChar (Char.ofNat byte.toNat) = [byte] := by
  revert byte
  exact forall_byte (by decide +kernel)

end Bytewise

theorem utf8_of_alphanumeric {text : Bytes} (plain : ∀ byte ∈ text, IsAsciiAlphanumeric byte) :
    Utf8 text := by
  refine ⟨text.map fun byte => Char.ofNat byte.toNat, congrArg List.toByteArray ?_⟩
  rw [List.flatMap_map]
  induction text with
  | nil => rfl
  | cons byte rest inductionHypothesis =>
      rw [List.forall_mem_cons] at plain
      rw [List.flatMap_cons, utf8EncodeChar_of_alphanumeric byte plain.1,
        ← inductionHypothesis plain.2]
      rfl

/-- A text that lower-cases to a plain word is a plain word itself. -/
theorem alphanumeric_of_map_lowercase {text word : Bytes}
    (plain : ∀ byte ∈ word, IsAsciiAlphanumeric byte)
    (lowers : text.map toAsciiLowercase = word) :
    ∀ byte ∈ text, IsAsciiAlphanumeric byte := by
  subst lowers
  intro byte member
  exact isAsciiAlphanumeric_of_lowercase byte (plain _ (List.mem_map_of_mem member))

theorem groth16_words_plain (word : Bytes) (isWord : word ∈ [utf8 "groth16", utf8 "real"]) :
    word ≠ [] ∧ word ≠ utf8 "mock" ∧ ∀ byte ∈ word, IsAsciiAlphanumeric byte := by
  revert word
  decide +kernel

/-- The prover asks for Groth16 exactly on the two words for it. -/
theorem ProofMode.fromEnv_set {value : Bytes} :
    ProofMode.fromEnv (some value) = .groth16 ↔
      value.map toAsciiLowercase = utf8 "groth16" ∨ value.map toAsciiLowercase = utf8 "real" := by
  unfold ProofMode.fromEnv envVar
  by_cases valid : Utf8 value
  · simp only [if_pos valid, unwrapOrDefault]
    split <;> simp [*]
  · have notWord : ∀ word ∈ [utf8 "groth16", utf8 "real"],
        value.map toAsciiLowercase ≠ word := by
      intro word isWord lowers
      have plain := (groth16_words_plain word isWord).2.2
      exact valid (utf8_of_alphanumeric (alphanumeric_of_map_lowercase plain lowers))
    have notGroth16 := notWord (utf8 "groth16") (by simp)
    have notReal := notWord (utf8 "real") (by simp)
    simp only [if_neg valid, unwrapOrDefault, notGroth16, notReal, or_self, iff_false]
    decide

namespace Deploy

theorem lower_eq_map (mode : Bytes) : lower mode = mode.map toAsciiLowercase := by
  unfold lower
  rw [fill_eq_map, List.length_replicate]
  refine List.ext_getElem (by simp) ?_
  intro i inLoop inside
  rw [List.length_map] at inside
  simp [inside, lowerByte_eq]

variable [Primitives]

/-- The hash comparison is a comparison of texts, up to a collision. -/
theorem isMock_iff {mode : Bytes}
    (free : CollisionFree keccak256 [mode.map toAsciiLowercase, utf8 "mock"]) :
    isMock mode = true ↔ mode.map toAsciiLowercase = utf8 "mock" := by
  unfold isMock
  rw [lower_eq_map, decide_eq_true_iff]
  constructor
  · intro sameDigest
    exact free _ (List.mem_cons_self ..) _ (by simp) sameDigest
  · intro sameText
    rw [sameText]

/-- Without a preset verifier the proof mode decides what is deployed. -/
theorem run_ok {forge : Forge} {env : DeployEnv} {rollup : Rollup} {verifier : Verifier}
    (documented : forge.Documented) (noPreset : env.sp1Verifier = none)
    (deployed : run forge env = .ok (rollup, verifier)) :
    verifier = if isMock (forge.envOrString env.proofMode (utf8 "mock")) then
      .sp1MockVerifier else .sp1VerifierGroth16 := by
  have chosen : ∀ {address kind},
      (do
        let rollup ← Rollup.deploy address env.programVKey env.genesisRoot
        return (rollup, kind) : Except RollupRevert (Rollup × Verifier)) =
          .ok (rollup, verifier) → verifier = kind := by
    intro address kind created
    cases rolled : Rollup.deploy address env.programVKey env.genesisRoot with
    | error failure =>
        rw [rolled] at created
        cases created
    | ok fresh =>
        rw [rolled] at created
        cases created
        rfl
  unfold run at deployed
  rw [noPreset, documented.unsetAddress] at deployed
  cases mock : isMock (forge.envOrString env.proofMode (utf8 "mock")) with
  | true =>
      simp only [mock, ne_eq, not_true_eq_false, if_false, if_true] at deployed
      exact chosen deployed
  | false =>
      simp only [mock, ne_eq, not_true_eq_false, Bool.false_eq_true, if_false] at deployed
      exact chosen deployed

end Deploy

/-! ## Settling together -/

/-- The verifier contracts. -/
structure Sp1 where
  presetVerify : VerifyProof
  mockVerify : VerifyProof
  groth16Verify : VerifyProof

/-- `SP1MockVerifier` expects exactly an empty proof. The Groth16 verifier reads
a selector first and reverts without one. -/
structure Sp1.Documented (sp1 : Sp1) : Prop where
  mock : ∀ programVKey publicValues proofBytes,
    sp1.mockVerify programVKey publicValues proofBytes = true ↔ proofBytes = []
  groth16 : ∀ programVKey publicValues, sp1.groth16Verify programVKey publicValues [] = false

def Verifier.verifyProof (sp1 : Sp1) : Verifier → VerifyProof
  | preset => sp1.presetVerify
  | sp1MockVerifier => sp1.mockVerify
  | sp1VerifierGroth16 => sp1.groth16Verify

/-- The deployed verifier takes the prover's bytes if both stand for one mode. -/
theorem Verifier.accepts_iff {sp1 : Sp1} {verifier : Verifier} {mode : ProofMode}
    {programVKey : Hash} {publicValues proof : Bytes} (documented : sp1.Documented)
    (notPreset : verifier ≠ .preset)
    (genuine : sp1.groth16Verify programVKey publicValues proof = true) :
    verifier.verifyProof sp1 programVKey publicValues (mode.proofBytes proof) = true ↔
      (verifier = .sp1MockVerifier ↔ mode = .mock) := by
  have nonempty : proof ≠ [] := by
    rintro rfl
    rw [documented.groth16] at genuine
    cases genuine
  cases verifier with
  | preset => exact absurd rfl notPreset
  | sp1MockVerifier =>
      cases mode with
      | mock => simp [verifyProof, ProofMode.proofBytes, documented.mock]
      | groth16 => simp [verifyProof, ProofMode.proofBytes, documented.mock, nonempty]
  | sp1VerifierGroth16 =>
      cases mode with
      | mock => simp [verifyProof, ProofMode.proofBytes, documented.groth16]
      | groth16 => simp [verifyProof, ProofMode.proofBytes, genuine]

/-- Both sides have a word for the mode: it is left to their defaults, or it is a
word for Groth16, or what Forge reads is the word for the mock. -/
def Forge.ModeShared (forge : Forge) (proofMode : Option Bytes) : Prop :=
  ∀ value, proofMode = some value →
    value.map toAsciiLowercase = utf8 "groth16" ∨ value.map toAsciiLowercase = utf8 "real" ∨
      (forge.envOrString (some value) (utf8 "mock")).map toAsciiLowercase = utf8 "mock"

/-- A word for Groth16 on the prover's side is not the mock's for Forge. -/
theorem Forge.Documented.reading_ne_mock {forge : Forge} {value : Bytes}
    (documented : forge.Documented)
    (groth16 : value.map toAsciiLowercase = utf8 "groth16" ∨
      value.map toAsciiLowercase = utf8 "real") :
    (forge.envOrString (some value) (utf8 "mock")).map toAsciiLowercase ≠ utf8 "mock" := by
  have isWord : value.map toAsciiLowercase ∈ [utf8 "groth16", utf8 "real"] := by
    simpa using groth16
  obtain ⟨nonempty, different, plain⟩ := groth16_words_plain _ isWord
  rw [documented.word value _ (fun empty => nonempty (by rw [empty]; rfl))
    (alphanumeric_of_map_lowercase plain rfl)]
  exact different

/-- For a plain word in any case, the condition is on the word alone. -/
theorem Forge.modeShared_word {forge : Forge} {word : Bytes} (documented : forge.Documented)
    (nonempty : word ≠ []) (plain : ∀ byte ∈ word, IsAsciiAlphanumeric byte) :
    forge.ModeShared (some word) ↔
      word.map toAsciiLowercase ∈ [utf8 "groth16", utf8 "real", utf8 "mock"] := by
  simp [Forge.ModeShared, documented.word word _ nonempty plain]

/-- A variable that is set to nothing is no word for Groth16, and it is set: read
as the empty text it is no word for the mock either. -/
theorem Forge.not_modeShared_empty {forge : Forge}
    (literal : forge.envOrString (some []) (utf8 "mock") = []) : ¬ forge.ModeShared (some []) := by
  intro shared
  rcases shared [] rfl with groth16 | real | mock
  · revert groth16
    decide
  · revert real
    decide
  · rw [literal] at mock
    revert mock
    decide

/-- Deploy script and prover agree on the mode, and settle together, exactly if
they have a word for it in common. Among plain words these are the three in any
case. The empty value is none, unless Forge takes it for an unset variable. -/
theorem proof_modes_agree_iff [Primitives] (forge : Forge) (documented : forge.Documented)
    (sp1 : Sp1) (verifiers : sp1.Documented) (env : DeployEnv) (noPreset : env.sp1Verifier = none)
    (rollup : Rollup) (verifier : Verifier)
    (deployed : Deploy.run forge env = .ok (rollup, verifier)) :
    ((((verifier = .sp1MockVerifier ↔ ProofMode.fromEnv env.proofMode = .mock) ↔
          forge.ModeShared env.proofMode) ∧
        ∀ stateRoot batchCount publicValues proof,
          sp1.groth16Verify rollup.programVKey publicValues proof = true →
          (Rollup.submitBatch { rollup with stateRoot, batchCount } (verifier.verifyProof sp1)
              publicValues ((ProofMode.fromEnv env.proofMode).proofBytes proof) ≠
                .error .proofRejected ↔
            forge.ModeShared env.proofMode)) ∨
      Collision keccak256
        [(forge.envOrString env.proofMode (utf8 "mock")).map toAsciiLowercase, utf8 "mock"]) ∧
    (∀ word, env.proofMode = some word → word ≠ [] → (∀ byte ∈ word, IsAsciiAlphanumeric byte) →
      (forge.ModeShared env.proofMode ↔
        word.map toAsciiLowercase ∈ [utf8 "groth16", utf8 "real", utf8 "mock"])) ∧
    (env.proofMode = some [] → forge.envOrString (some []) (utf8 "mock") = [] →
      ¬ forge.ModeShared env.proofMode) := by
  refine ⟨?_, ?_, ?_⟩
  · refine or_collision fun free => ?_
    have chosen := Deploy.run_ok documented noPreset deployed
    have mocked : verifier = .sp1MockVerifier ↔
        (forge.envOrString env.proofMode (utf8 "mock")).map toAsciiLowercase = utf8 "mock" := by
      rw [← Deploy.isMock_iff free, chosen]
      split <;> simp [*]
    have notPreset : verifier ≠ .preset := by
      rw [chosen]
      split <;> simp
    have agree : (verifier = .sp1MockVerifier ↔ ProofMode.fromEnv env.proofMode = .mock) ↔
        forge.ModeShared env.proofMode := by
      rw [mocked]
      unfold Forge.ModeShared
      cases env.proofMode with
      | none =>
          rw [documented.unsetString]
          simp only [reduceCtorEq, false_implies, implies_true, iff_true]
          decide
      | some value =>
          simp only [Option.some.injEq, forall_eq']
          by_cases groth16 : value.map toAsciiLowercase = utf8 "groth16" ∨
              value.map toAsciiLowercase = utf8 "real"
          · have different := documented.reading_ne_mock groth16
            have asked := ProofMode.fromEnv_set.mpr groth16
            simp only [different, asked, reduceCtorEq, or_assoc.symm, groth16, true_or]
          · have asked : ProofMode.fromEnv (some value) = .mock := by
              cases mode : ProofMode.fromEnv (some value) with
              | mock => rfl
              | groth16 => exact absurd (ProofMode.fromEnv_set.mp mode) groth16
            simp only [asked, iff_true, or_assoc.symm, groth16, false_or]
    refine ⟨agree, ?_⟩
    intro stateRoot batchCount publicValues proof genuine
    rw [← agree, ← Verifier.accepts_iff verifiers notPreset genuine, Ne,
      Rollup.submitBatch_proofRejected, Bool.not_eq_false]
  · intro word set nonempty plain
    rw [set]
    exact Forge.modeShared_word documented nonempty plain
  · intro set literal
    rw [set]
    exact Forge.not_modeShared_empty literal

namespace Plonk

/-- A Forge that reads every text literally. -/
def forge : Forge where
  envOrString value default := value.getD default
  envOrAddress _ default := default
  newMockVerifier := .ofNat 20 1
  newGroth16Verifier := .ofNat 20 2

theorem forge_documented : forge.Documented :=
  ⟨fun _ => rfl, fun _ => rfl, fun _ _ _ _ => rfl⟩

/-- The Groth16 verifier takes four selector bytes and one byte of proof. -/
def sp1 : Sp1 where
  presetVerify _ _ _ := false
  mockVerify _ _ proofBytes := proofBytes.isEmpty
  groth16Verify _ _ proofBytes := proofBytes.length = 5

theorem sp1_documented : sp1.Documented :=
  ⟨fun _ _ _ => List.isEmpty_iff, fun _ _ => rfl⟩

/-- SP1 has a third kind of proof, which neither side knows. -/
def env : DeployEnv where
  programVKey := .ofNat 32 1
  genesisRoot := .ofNat 32 7
  proofMode := some (utf8 "plonk")
  sp1Verifier := none

def rollup : Rollup where
  programVKey := .ofNat 32 1
  verifier := .ofNat 20 2
  stateRoot := .ofNat 32 7
  batchCount := 0

scoped instance primitives : Primitives :=
  .ofTables
    [(utf8 "mock",
        .ofNat 32 0xfa88ac588f5b956d02c6098e901a7351ac7e50b41ac55814346d8c5f9ade6811),
      (utf8 "plonk",
        .ofNat 32 0xe56c2b99636383495cc41b7fae4d62ac7776fa9e4274c9127f660504b8fca65c)] []

theorem fromEnv_plonk : ProofMode.fromEnv env.proofMode = .mock := by
  cases mode : ProofMode.fromEnv env.proofMode with
  | mock => rfl
  | groth16 => exact absurd (ProofMode.fromEnv_set.mp mode) (by decide)

end Plonk

open Plonk in
theorem proof_modes_agree_iff_plonk :
    ((((Verifier.sp1VerifierGroth16 = .sp1MockVerifier ↔
            ProofMode.fromEnv env.proofMode = .mock) ↔ forge.ModeShared env.proofMode) ∧
        (Rollup.submitBatch rollup sp1.groth16Verify [] [] ≠ .error .proofRejected ↔
          forge.ModeShared env.proofMode)) ∨
      Collision keccak256 [utf8 "plonk", utf8 "mock"]) ∧
    ¬ forge.ModeShared env.proofMode := by
  obtain ⟨agrees, word, -⟩ := proof_modes_agree_iff forge forge_documented sp1 sp1_documented env
    rfl rollup .sp1VerifierGroth16 (by decide +kernel)
  have plain : ∀ byte ∈ utf8 "plonk", IsAsciiAlphanumeric byte := by decide +kernel
  have unknown := word (utf8 "plonk") rfl (by decide +kernel) plain
  refine ⟨?_, fun shared => absurd (unknown.mp shared) (by decide +kernel)⟩
  rcases agrees with ⟨agree, settle⟩ | collision
  · have atGenesis := settle (.ofNat 32 7) 0 [] [0, 0, 0, 0, 0] (by decide)
    rw [fromEnv_plonk] at atGenesis
    exact Or.inl ⟨agree, atGenesis⟩
  · exact Or.inr collision

open Plonk in
/-- A mode that is neither: the contract wants a Groth16 proof, and the prover's
empty bytes are rejected whatever was proved. -/
theorem proof_modes_disagree :
    Deploy.run forge env = .ok (rollup, .sp1VerifierGroth16) ∧
      ProofMode.fromEnv env.proofMode = .mock ∧
      ∀ publicValues, rollup.submitBatch sp1.groth16Verify publicValues
        (ProofMode.proofBytes [0, 0, 0, 0, 0] .mock) = .error .proofRejected := by
  refine ⟨by decide +kernel, fromEnv_plonk, ?_⟩
  intro publicValues
  exact Rollup.submitBatch_proofRejected.mpr rfl

end ZkRollup
