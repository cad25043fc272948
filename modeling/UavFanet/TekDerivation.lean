import UavFanet.CrtManager
import UavFanet.SecurityManagers
import Mathlib.Data.Set.Function

/-! The two derivations of the next TEK. `RotateTek` puts the old key into the context and
`DeriveKey` puts it in front of that once more, so the two never hash the same bytes. -/
namespace UavFanet.TekDerivation
open ByteUtils UavFanet.CrtManager Apps

/-- `TEK_old || timestamp || nonce`. -/
def derivation (old_tek : AesGcmKey) (timestamp_us : UInt64) (nonce : Nonce128) : ByteBuffer :=
  old_tek.toList ++ writeU64BE timestamp_us ++ nonce.toList

@[simp] theorem length_derivation (old_tek : AesGcmKey) (timestamp_us : UInt64) (nonce : Nonce128) :
    (derivation old_tek timestamp_us nonce).length = 56 := by
  simp [derivation]

theorem derivations_apart (left right : AesGcmKey) (timestamp_us : UInt64) (nonce : Nonce128) :
    left.toList ++ derivation left timestamp_us nonce ≠ derivation right timestamp_us nonce := by
  intro same
  have sizes := congrArg List.length same
  simp at sizes

section Paths

variable (crypto : Primitives)

theorem deriveTek_hashes (old_tek : AesGcmKey) (timestamp_us : UInt64) (nonce : Nonce128) :
    Managers.deriveTek crypto old_tek timestamp_us nonce =
      crypto.sha256 (derivation old_tek timestamp_us nonce) := rfl

theorem rotateTek_hashes (old_tek : AesGcmKey) (timestamp_us : UInt64) (nonce : Nonce128) :
    rotateTek crypto old_tek timestamp_us nonce =
      crypto.sha256 (old_tek.toList ++ derivation old_tek timestamp_us nonce) := rfl

/-- Two sides that move from their TEKs with the same draws, one by `RotateTek`, one by
`DeriveTek`. -/
def sides (rotating following : AesGcmKey) : List (UInt64 × Nonce128) → AesGcmKey × AesGcmKey
  | [] => (rotating,following)
  | draw::draws =>
    sides (rotateTek crypto rotating draw.1 draw.2)
      (Managers.deriveTek crypto following draw.1 draw.2) draws

/-- The byte strings that the two sides hash on the way. -/
def hashed (rotating following : AesGcmKey) : List (UInt64 × Nonce128) → List ByteBuffer
  | [] => []
  | draw::draws =>
    (rotating.toList ++ derivation rotating draw.1 draw.2)::derivation following draw.1 draw.2::
      hashed (rotateTek crypto rotating draw.1 draw.2)
        (Managers.deriveTek crypto following draw.1 draw.2) draws

end Paths

section Injective

variable {crypto : Primitives} {considered : Set ByteBuffer}

theorem step_apart (injective : Set.InjOn crypto.sha256 considered) {left right : AesGcmKey}
    {timestamp_us : UInt64} {nonce : Nonce128}
    (rotates : left.toList ++ derivation left timestamp_us nonce ∈ considered)
    (derives : derivation right timestamp_us nonce ∈ considered) :
    rotateTek crypto left timestamp_us nonce ≠
      Managers.deriveTek crypto right timestamp_us nonce := by
  rw [rotateTek_hashes,deriveTek_hashes]
  intro same
  exact derivations_apart left right timestamp_us nonce (injective rotates derives same)

/-- Sides that have moved at all are apart, whatever TEKs they started from. -/
theorem sides_apart (injective : Set.InjOn crypto.sha256 considered)
    {rotating following : AesGcmKey} {draws : List (UInt64 × Nonce128)} (moved : draws ≠ [])
    (known : ∀ text ∈ hashed crypto rotating following draws, text ∈ considered) :
    (sides crypto rotating following draws).1 ≠ (sides crypto rotating following draws).2 := by
  induction draws generalizing rotating following with
  | nil => exact absurd rfl moved
  | cons draw draws ih =>
    cases draws with
    | nil =>
      exact step_apart injective (known _ (.head _)) (known _ (.tail _ (.head _)))
    | cons next rest =>
      refine ih (by simp) ?_
      intro text member
      exact known text (.tail _ (.tail _ member))

/-- `DeriveTek` is the specified hash, and `RotateTek` never returns the same key. -/
theorem derivations_never_agree (injective : Set.InjOn crypto.sha256 considered)
    {old_tek : AesGcmKey} {timestamp_us : UInt64} {nonce : Nonce128}
    (rotates : old_tek.toList ++ derivation old_tek timestamp_us nonce ∈ considered)
    (derives : derivation old_tek timestamp_us nonce ∈ considered) :
    Managers.deriveTek crypto old_tek timestamp_us nonce =
        crypto.sha256 (derivation old_tek timestamp_us nonce) ∧
      rotateTek crypto old_tek timestamp_us nonce ≠
        crypto.sha256 (derivation old_tek timestamp_us nonce) ∧
      rotateTek crypto old_tek timestamp_us nonce ≠
        Managers.deriveTek crypto old_tek timestamp_us nonce :=
  ⟨rfl,step_apart injective rotates derives,step_apart injective rotates derives⟩

end Injective

/-- SHA-256 as it is on the two strings of a first rotation from zeros; elsewhere zero. The other
primitives are not called. -/
def zerosCrypto : Primitives where
  sha256 text :=
    if text = List.replicate 56 0 then
      ⟨#[212,129,122,165,73,118,40,231,199,126,107,96,97,7,4,43,187,163,19,8,136,197,244,122,55,94,
        97,121,190,120,159,187],rfl⟩
    else if text = List.replicate 88 0 then
      ⟨#[16,238,242,133,222,239,122,75,124,130,178,42,165,53,137,183,131,61,242,157,227,129,70,73,
        199,114,187,213,200,50,243,101],rfl⟩
    else Vector.replicate 32 0
  hmacSha256 _ _ := Vector.replicate 32 0
  gcmEncrypt _ _ text _ := (text,Vector.replicate 16 0)
  gcmDecrypt _ _ _ _ _ := none

theorem zerosCrypto_injective :
    Set.InjOn zerosCrypto.sha256 {text | text = List.replicate 56 0 ∨ text = List.replicate 88 0} := by
  have apart : zerosCrypto.sha256 (List.replicate 56 0) ≠ zerosCrypto.sha256 (List.replicate 88 0) := by
    decide +kernel
  rintro left (rfl | rfl) right (rfl | rfl) same
  · rfl
  · exact absurd same apart
  · exact absurd same.symm apart
  · rfl

theorem zeros_never_agree :
    rotateTek zerosCrypto (Vector.replicate 32 0) 0 (Vector.replicate 16 0) ≠
      Managers.deriveTek zerosCrypto (Vector.replicate 32 0) 0 (Vector.replicate 16 0) :=
  (derivations_never_agree zerosCrypto_injective (.inr (by decide)) (.inl (by decide))).2.2

theorem zeros_rotated_apart :
    Set.InjOn zerosCrypto.sha256 {text | text = List.replicate 56 0 ∨ text = List.replicate 88 0} ∧
      Managers.deriveTek zerosCrypto (Vector.replicate 32 0) 0 (Vector.replicate 16 0) =
        zerosCrypto.sha256 (List.replicate 56 0) ∧
      rotateTek zerosCrypto (Vector.replicate 32 0) 0 (Vector.replicate 16 0) =
        zerosCrypto.sha256 (List.replicate 88 0) ∧
      rotateTek zerosCrypto (Vector.replicate 32 0) 0 (Vector.replicate 16 0) ≠
        Managers.deriveTek zerosCrypto (Vector.replicate 32 0) 0 (Vector.replicate 16 0) :=
  ⟨zerosCrypto_injective,by decide +kernel,by decide +kernel,by decide +kernel⟩

end UavFanet.TekDerivation
