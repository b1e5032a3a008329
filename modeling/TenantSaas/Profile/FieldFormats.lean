import TenantSaas.Profile.PhoneCycle

/-!
# A field under other configurations

What `encrypt_field` stores is read by `decrypt_field` long after, when the demo mode may be off
and a key configured.  KMS holds a key for each id; a world answers under the configured one.
-/

namespace TenantSaas

/-- `CiphertextBlob` has at least one byte. -/
def Kms.Nonempty (kms : Kms) : Prop := ∀ n plaintext, kms.encrypt n plaintext ≠ []

section Formats

variable {config : Config} {world : World} {p stored : String} {s t : AppState}

/-- What is stored without a key needs none. -/
theorem PhoneText.keyless_decrypts (h : PhoneText config world p stored) (keyless : config.keyless)
    (later : World) (u : AppState) : later.run (decryptField stored) u = (.ok p, u) := by
  cases h with
  | empty => rfl
  | marked _ _ => exact run_decrypt_marked p u
  | sealed _ key _ => exact absurd keyless key

/-- The marker does not occur in what KMS returns. -/
theorem PhoneText.not_marked (h : PhoneText config world p stored) (key : ¬ config.keyless) :
    PyStr.startswith stored demoPrefix = false := by
  cases h with
  | empty => rfl
  | marked _ keyless => exact absurd keyless key
  | sealed _ _ n => exact startswith_b64encode (by decide) _

theorem PhoneText.key_decrypts (h : PhoneText config world p stored) (key : ¬ config.keyless)
    (nonempty : world.kms.Nonempty) {later : World} (same : later.kms = world.kms)
    {u : AppState} (hkms : ∀ blob, later.failure u (.kmsDecrypt blob) = none) :
    (later.run (decryptField stored) u).1 = .ok p := by
  cases h with
  | empty => rfl
  | marked _ keyless => exact absurd keyless key
  | sealed _ _ n =>
    have hblob : later.kms.encrypt n (utf8Encode p) ≠ [] := by
      rw [same]
      exact nonempty n _
    rw [← same, run_decrypt_sealed hblob hkms]

/-- Without a key the field is read back in every later world; with one, the two formats are
not confused and it is read back under the same key. -/
theorem decryptField_encryptField (keys : String → Kms) (config : Config) (world : World)
    (p stored : String) (s t : AppState) (serves : world.kms = keys config.kmsKeyId)
    (nonempty : (keys config.kmsKeyId).Nonempty)
    (encrypted : world.run (encryptField config p) s = (.ok stored, t)) :
    (config.keyless → ∀ (later : World) (u : AppState),
        later.run (decryptField stored) u = (.ok p, u)) ∧
      (¬ config.keyless → PyStr.startswith stored demoPrefix = false ∧
        ∀ (config' : Config) (later : World) (u : AppState),
          config'.kmsKeyId = config.kmsKeyId → later.kms = keys config'.kmsKeyId →
          (∀ blob, later.failure u (.kmsDecrypt blob) = none) →
          (later.run (decryptField stored) u).1 = .ok p) := by
  have htext := encryptField_ok encrypted
  refine ⟨htext.keyless_decrypts, ?_⟩
  intro key
  refine ⟨htext.not_marked key, ?_⟩
  intro config' later u hid hlater hkms
  rw [← serves] at nonempty
  refine htext.key_decrypts key nonempty ?_ hkms
  rw [hlater, hid, serves]

end Formats

/-- The phone 5 is stored under the sample key, and read back in the quiet world. -/
theorem sealed_read_back : PyStr.startswith "ADU=" demoPrefix = false ∧
    (quietWorld.run (decryptField "ADU=") emptyState).1 = .ok "5" := by
  have hread := (decryptField_encryptField (fun _ => quietWorld.kms) sampleConfig quietWorld "5"
    "ADU=" emptyState { emptyState with tick := 1 } rfl (fun _ _ => List.cons_ne_nil _ _)
    rfl).2 (by unfold Config.keyless; decide)
  exact ⟨hread.1, hread.2 sampleConfig quietWorld emptyState rfl rfl fun _ => rfl⟩

end TenantSaas
