import TenantSaas.App.Op
import TenantSaas.Misc.Base64

/-!
# Field encryption

`services/kms_service.py`: a text column holds the base64 of a KMS ciphertext, or a marked
pseudo-encryption where no key is configured.
-/

namespace TenantSaas

/-- `s.encode()` -/
def utf8Encode (s : String) : List UInt8 := s.toUTF8.data.toList

/-- `blob.decode()` -/
def utf8Decode (bytes : List UInt8) : Except PyError String :=
  match String.fromUTF8? ⟨bytes.toArray⟩ with
  | some s => .ok s
  | none => .error (.valueError "invalid utf-8")

/-- `base64.b64encode(bytes).decode()` -/
def b64encode (bytes : List UInt8) : String := String.ofList (Base64.encode bytes)

/-- `base64.b64decode(text)` -/
def b64decode (text : String) : Except PyError (List UInt8) :=
  if text.toList.any fun c => decide (128 ≤ c.toNat) then
    .error (.valueError "string argument should contain only ASCII characters")
  else
    match Base64.decode text.toList with
    | some bytes => .ok bytes
    | none => .error (.valueError "Incorrect padding")

def demoPrefix : String := "demo-enc:"

/-- `encrypt_field` (`kms_service.py:23-43`) -/
def encryptField (config : Config) (plaintext : String) : App String :=
  if plaintext = "" then pure plaintext
  else if config.demoMode || config.kmsKeyId == "" then
    pure (demoPrefix ++ b64encode (utf8Encode plaintext))
  else do
    let blob ← perform (.kmsEncrypt (utf8Encode plaintext))
    pure (b64encode blob)

/-- `decrypt_field` (`kms_service.py:46-61`) -/
def decryptField (ciphertext : String) : App String :=
  if ciphertext = "" then pure ciphertext
  else if PyStr.startswith ciphertext demoPrefix then do
    let bytes ← Prog.ofExcept (b64decode (PyStr.drop ciphertext demoPrefix.length))
    Prog.ofExcept (utf8Decode bytes)
  else do
    let blob ← Prog.ofExcept (b64decode ciphertext)
    let plaintext ← perform (.kmsDecrypt blob)
    Prog.ofExcept (utf8Decode plaintext)

/-! ## Round trips -/

@[simp] theorem utf8Decode_utf8Encode (s : String) : utf8Decode (utf8Encode s) = .ok s := by
  have hbytes : (⟨(utf8Encode s).toArray⟩ : ByteArray) = s.toUTF8 := by
    simp [utf8Encode]
  have hvalid : s.toUTF8.IsValidUTF8 := s.isValidUTF8
  rw [utf8Decode, hbytes, String.fromUTF8?, dif_pos hvalid]
  rfl

@[simp] theorem b64decode_b64encode (bytes : List UInt8) :
    b64decode (b64encode bytes) = .ok bytes := by
  have hascii : ((b64encode bytes).toList.any fun c => decide (128 ≤ c.toNat)) = false := by
    rw [b64encode, String.toList_ofList, List.any_eq_false]
    intro c hc
    have := Base64.encode_ascii hc
    simpa using this
  rw [b64decode, hascii, b64encode, String.toList_ofList, Base64.decode_encode]
  rfl

end TenantSaas
