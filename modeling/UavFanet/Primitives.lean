import UavFanet.Types

/-! The OpenSSL primitives, taken as parameters, and the wrappers `AesGcm` and
`HmacSha256Util` around them. -/
namespace UavFanet

abbrev GcmIv := Vector UInt8 12
abbrev GcmTag := Vector UInt8 16

/-- OpenSSL's SHA-256, HMAC-SHA256 and AES-256-GCM. The arguments of the cipher are
key, IV, text, (tag,) associated data; a failed tag check is `none`. -/
structure Primitives where
  sha256 : ByteBuffer → Key256
  hmacSha256 : HmacKey → ByteBuffer → Key256
  gcmEncrypt : AesGcmKey → GcmIv → ByteBuffer → ByteBuffer → ByteBuffer × GcmTag
  gcmDecrypt : AesGcmKey → GcmIv → ByteBuffer → GcmTag → ByteBuffer → Option ByteBuffer

/-- A text opens under the key, IV and associated data it was sealed with. -/
structure Inverts (crypto : Primitives) : Prop where
  length : ∀ key iv text aad, (crypto.gcmEncrypt key iv text aad).1.length = text.length
  opens : ∀ key iv text aad,
    crypto.gcmDecrypt key iv (crypto.gcmEncrypt key iv text aad).1
      (crypto.gcmEncrypt key iv text aad).2 aad = some text

/-- AES-256-GCM as authenticated encryption. A text opens under the key, IV and associated data
it was sealed with; associated data of four other bytes is refused. -/
structure Authenticated (crypto : Primitives) : Prop where
  length : ∀ key iv text aad, (crypto.gcmEncrypt key iv text aad).1.length = text.length
  opens : ∀ key iv text aad,
    crypto.gcmDecrypt key iv (crypto.gcmEncrypt key iv text aad).1
      (crypto.gcmEncrypt key iv text aad).2 aad = some text
  refuses : ∀ key iv text aad other, aad.length = 4 → other.length = 4 → other ≠ aad →
    crypto.gcmDecrypt key iv (crypto.gcmEncrypt key iv text aad).1
      (crypto.gcmEncrypt key iv text aad).2 other = none

theorem Authenticated.inverts {crypto : Primitives} (authenticated : Authenticated crypto) :
    Inverts crypto := ⟨authenticated.length,authenticated.opens⟩

namespace AesGcm

structure AesGcmResult where
  ciphertext : ByteBuffer
  iv : GcmIv
  tag : GcmTag
  deriving DecidableEq,Repr

/-- What `EVP_…Update` reads of a buffer whose length is passed as `static_cast<int>(size)`:
a length that turns negative is an error. -/
def updateInput (buffer : ByteBuffer) : Option ByteBuffer :=
  let size := buffer.length%2^32
  if size < 2^31 then some (buffer.take size) else none

@[simp] theorem updateInput_short {buffer : ByteBuffer} (short : buffer.length < 2^31) :
    updateInput buffer = some buffer := by
  have unwrapped : buffer.length%2^32 = buffer.length := by omega
  simp only [updateInput,unwrapped,if_pos short,List.take_length]

/-- A buffer whose length is not cut off is read whole, or the cast turns its length negative. -/
theorem updateInput_whole {buffer text : ByteBuffer} (read : updateInput buffer = some text)
    (fits : buffer.length < 2^32) : buffer.length < 2^31 := by
  rw [updateInput,Nat.mod_eq_of_lt fits] at read
  split at read
  · assumption
  · cases read

def keyFromBytes (raw : ByteBuffer) : Result AesGcmKey :=
  if size : raw.length = 32 then .ok ⟨raw.toArray,by simpa using size⟩
  else .error (.cryptoException
    ("AesGcm::KeyFromBytes: expected 32 bytes, got " ++ toString raw.length))

def encryptWithIv (crypto : Primitives) (key : AesGcmKey) (iv : GcmIv)
    (plaintext aad : ByteBuffer) : Result AesGcmResult :=
  match updateInput aad,updateInput plaintext with
  | none,_ => .error (.opensslError "AES-GCM set AAD")
  | _,none => .error (.opensslError "AES-GCM EncryptUpdate")
  | some bound,some text =>
    let (ciphertext,tag) := crypto.gcmEncrypt key iv text bound
    .ok { ciphertext, iv, tag }

def encrypt (crypto : Primitives) (iv : Result GcmIv) (key : AesGcmKey)
    (plaintext aad : ByteBuffer) : Result AesGcmResult := do
  let iv ← iv
  encryptWithIv crypto key iv plaintext aad

def decrypt (crypto : Primitives) (key : AesGcmKey) (iv : GcmIv) (ciphertext : ByteBuffer)
    (tag : GcmTag) (aad : ByteBuffer) : Result ByteBuffer :=
  match updateInput aad,updateInput ciphertext with
  | none,_ => .error (.opensslError "AES-GCM set AAD decrypt")
  | _,none => .error (.opensslError "AES-GCM DecryptUpdate")
  | some bound,some text =>
    match crypto.gcmDecrypt key iv text tag bound with
    | some plaintext => .ok plaintext
    | none => .error (.cryptoException
        "AES-GCM authentication tag verification FAILED — data may have been tampered")

theorem length_updateInput {buffer text : ByteBuffer} (read : updateInput buffer = some text) :
    text.length < 2^31 := by
  simp only [updateInput] at read
  split at read
  · cases read
    rw [List.length_take]
    omega
  · cases read

theorem encrypt_short (crypto : Primitives) (iv : GcmIv) (key : AesGcmKey)
    (plaintext aad : ByteBuffer) (aad_short : aad.length < 2^31) (short : plaintext.length < 2^31) :
    ∃ enc, encrypt crypto (.ok iv) key plaintext aad = .ok enc := by
  simp only [encrypt,Result.ok_bind,encryptWithIv,updateInput_short aad_short,
    updateInput_short short]
  exact ⟨_,rfl⟩

section Sealed

variable {crypto : Primitives} {iv : Result GcmIv} {key : AesGcmKey} {plaintext aad : ByteBuffer}
  {enc : AesGcmResult} (encrypted : encrypt crypto iv key plaintext aad = .ok enc)
include encrypted

theorem encrypt_ok (aad_short : aad.length < 2^31) : ∃ text, updateInput plaintext = some text ∧
    (enc.ciphertext,enc.tag) = crypto.gcmEncrypt key enc.iv text aad := by
  obtain ⟨drawn,-,encrypted⟩ := Result.bind_ok.mp encrypted
  rw [encryptWithIv,updateInput_short aad_short] at encrypted
  split at encrypted
  · cases encrypted
  · cases encrypted
  · rename_i bound text bounded read
    cases encrypted
    obtain rfl : aad = bound := Option.some.inj bounded
    exact ⟨text,read,rfl⟩

theorem length_ciphertext (inverts : Inverts crypto) (aad_short : aad.length < 2^31) :
    enc.ciphertext.length < 2^31 := by
  obtain ⟨text,read,sealed⟩ := encrypt_ok encrypted aad_short
  have size := inverts.length key enc.iv text aad
  rw [← sealed] at size
  exact size ▸ length_updateInput read

theorem decrypt_same (inverts : Inverts crypto) (aad_short : aad.length < 2^31)
    (short : plaintext.length < 2^31) :
    decrypt crypto key enc.iv enc.ciphertext enc.tag aad = .ok plaintext := by
  obtain ⟨text,read,sealed⟩ := encrypt_ok encrypted aad_short
  rw [updateInput_short short] at read
  obtain rfl : plaintext = text := Option.some.inj read
  have opens := inverts.opens key enc.iv plaintext aad
  rw [← sealed] at opens
  simp only [decrypt,updateInput_short aad_short,
    updateInput_short (length_ciphertext encrypted inverts aad_short),opens]

theorem decrypt_other (authenticated : Authenticated crypto) (aad_size : aad.length = 4)
    {other : ByteBuffer} (other_size : other.length = 4) (differs : other ≠ aad) :
    (decrypt crypto key enc.iv enc.ciphertext enc.tag other).caught = .ok none := by
  obtain ⟨text,read,sealed⟩ := encrypt_ok encrypted (by omega)
  have refuses := authenticated.refuses key enc.iv text aad other aad_size other_size differs
  rw [← sealed] at refuses
  simp only [decrypt,updateInput_short (show other.length < 2^31 by omega),
    updateInput_short (length_ciphertext encrypted authenticated.inverts (by omega)),refuses,Result.caught]

end Sealed

def deriveKey (crypto : Primitives) (input_key : AesGcmKey) (context : ByteBuffer) : AesGcmKey :=
  crypto.sha256 (input_key.toList ++ context)

end AesGcm

namespace Hmac

def keyFromAesKey (aes_key : AesGcmKey) : HmacKey := aes_key

def compute (crypto : Primitives) (key : HmacKey) (data : ByteBuffer) : Key256 :=
  crypto.hmacSha256 key data

/-- `HmacSha256Util::Verify`, over the 32 bytes that a caller copied from the wire. -/
def verify (crypto : Primitives) (key : HmacKey) (data expected : ByteBuffer) : Bool :=
  (compute crypto key data).toList == expected

def appendHmac (crypto : Primitives) (key : HmacKey) (packet : ByteBuffer) : ByteBuffer :=
  packet ++ (compute crypto key packet).toList

@[simp] theorem take_appendHmac (crypto : Primitives) (key : HmacKey) (packet : ByteBuffer) :
    (appendHmac crypto key packet).take ((appendHmac crypto key packet).length-32) = packet := by
  simp [appendHmac]

@[simp] theorem verify_appendHmac (crypto : Primitives) (key : HmacKey) (packet : ByteBuffer) :
    verify crypto key packet
      ((appendHmac crypto key packet).drop ((appendHmac crypto key packet).length-32)) = true := by
  simp [appendHmac,verify]

@[simp] theorem length_appendHmac (crypto : Primitives) (key : HmacKey) (packet : ByteBuffer) :
    (appendHmac crypto key packet).length = packet.length+32 := by simp [appendHmac]

end Hmac
end UavFanet
