import IsaWorkspace.Externals
import IsaWorkspace.Foundations.Exec
import IsaWorkspace.Foundations.HashMap

/-
  Per-state encryption keys.

  A key manager derives the key of a state from its master
  key and the version of that, and caches it by the id of
  the state.  States are encrypted with AES-256-GCM, which
  is a parameter here; random bytes are arguments.

  Main declarations:
    * `Aes256Gcm`, `Aes256Gcm.Lawful`
    * `KeyManager.deriveKey`, `KeyManager.rotateKey`
    * `StateEncryptor.encrypt`, `StateEncryptor.decrypt`
    * `KeyManager.CacheCurrent`, `KeyManager.deriveKey_spec`
    * `StateEncryptor.encrypt_spec`
    * `StateEncryptor.decrypt_spec`
-/

------------------------------------------------------------
-- The Cipher
------------------------------------------------------------

namespace IsaWorkspace

/- Encryption key (32 bytes for AES-256). -/
abbrev EncryptionKey : Type :=
  Vector UInt8 32

/- Nonce (12 bytes for GCM). -/
abbrev NonceBytes : Type :=
  Vector UInt8 12

/- The cipher under a key of the right length. -/
class Aes256Gcm where
  encrypt :
    EncryptionKey → NonceBytes → Bytes →
      Except String Bytes
  decrypt :
    EncryptionKey → NonceBytes → Bytes →
      Except String Bytes

namespace Aes256Gcm

/- A cipher is made from a slice of the right length. -/
def newFromSlice
    (slice : Bytes) : Except String EncryptionKey :=
  if hLength : slice.length = 32 then
    .ok ⟨slice.toArray, by simp [hLength]⟩
  else
    .error "Invalid Length"

/- What is encrypted is decrypted under the same key. -/
def Lawful
    [Aes256Gcm] : Prop :=
  ∀ key nonce plaintext ciphertext,
    encrypt key nonce plaintext = .ok ciphertext →
      decrypt key nonce ciphertext = .ok plaintext

/- A key is a slice of the right length. -/
@[simp] theorem newFromSlice_toList
    (key : EncryptionKey) :
    newFromSlice key.toList = .ok key := by
  rcases key with ⟨array, hSize⟩
  simp [newFromSlice, Vector.toList, hSize]

end Aes256Gcm

------------------------------------------------------------
-- The Key Manager
------------------------------------------------------------

/- Encrypted data with metadata. -/
structure EncryptedData where
  ciphertext : Bytes
  nonce : NonceBytes
  keyVersion : UInt32
deriving DecidableEq

/- Encryption errors. -/
inductive EncryptionError where
  | cipherError (message : String)
  | encryptionFailed (message : String)
  | decryptionFailed (message : String)
  | keyVersionMismatch (expected got : UInt32)
deriving DecidableEq

/- Master key manager. -/
structure KeyManager where
  masterKey : EncryptionKey
  keyVersion : UInt32
  derivedKeys : HashMap String EncryptionKey

/- What is hashed to derive the key of a state. -/
def keyMaterial
    (masterKey : EncryptionKey)
    (stateId : String)
    (keyVersion : UInt32) : Bytes :=
  asBytes "isa-state-key-derivation" ++
    (masterKey.toList ++
      (asBytes stateId ++ beBytes 4 keyVersion.toNat))

namespace KeyManager

/- Create from existing key. -/
def fromKey
    (masterKey : EncryptionKey)
    (keyVersion : UInt32) : KeyManager where
  masterKey := masterKey
  keyVersion := keyVersion
  derivedKeys := ∅

/- Create a new key manager with a random master key. -/
def new
    (masterKey : EncryptionKey) : KeyManager :=
  fromKey masterKey 1

/- Derive a unique key for a state id. -/
def deriveKey
    [Sha256]
    (stateId : String) :
    Exec KeyManager EncryptionError EncryptionKey := do
  let manager ← Exec.read
  match manager.derivedKeys.lookup stateId with
  | some key => pure key
  | none => do
      let derived :=
        Sha256.digest
          (keyMaterial manager.masterKey stateId
            manager.keyVersion)
      Exec.update fun manager =>
        { manager with
          derivedKeys :=
            manager.derivedKeys.insert stateId derived }
      pure derived

/- Rotate to a new master key. -/
def rotateKey
    [BuildProfile]
    (newKey : EncryptionKey) :
    Exec KeyManager EncryptionError EncryptionKey := do
  Exec.update fun manager =>
    { manager with masterKey := newKey }
  let manager ← Exec.read
  let keyVersion ←
    Exec.orPanic (checkedAddU32 manager.keyVersion 1)
  Exec.update fun manager =>
    { manager with keyVersion := keyVersion }
  Exec.update fun manager =>
    { manager with derivedKeys := ∅ }
  pure newKey

end KeyManager

------------------------------------------------------------
-- The State Encryptor
------------------------------------------------------------

namespace StateEncryptor

/- Encrypt data for a specific state. -/
def encrypt
    [Sha256]
    [Aes256Gcm]
    (stateId : String)
    (plaintext : Bytes)
    (nonce : NonceBytes) :
    Exec KeyManager EncryptionError EncryptedData := do
  let key ← KeyManager.deriveKey stateId
  let manager ← Exec.read
  let cipher ←
    Exec.ofExcept .cipherError
      (Aes256Gcm.newFromSlice key.toList)
  let ciphertext ←
    Exec.ofExcept .encryptionFailed
      (Aes256Gcm.encrypt cipher nonce plaintext)
  pure
    { ciphertext := ciphertext
      nonce := nonce
      keyVersion := manager.keyVersion }

/- Decrypt data for a specific state. -/
def decrypt
    [Sha256]
    [Aes256Gcm]
    (stateId : String)
    (encrypted : EncryptedData) :
    Exec KeyManager EncryptionError Bytes := do
  let manager ← Exec.read
  if encrypted.keyVersion ≠ manager.keyVersion then
    Exec.fail
      (.keyVersionMismatch manager.keyVersion
        encrypted.keyVersion)
  else
    let key ← KeyManager.deriveKey stateId
    let cipher ←
      Exec.ofExcept .cipherError
        (Aes256Gcm.newFromSlice key.toList)
    Exec.ofExcept .decryptionFailed
      (Aes256Gcm.decrypt cipher encrypted.nonce
        encrypted.ciphertext)

end StateEncryptor

------------------------------------------------------------
-- Key Material
------------------------------------------------------------

/-
  The material determines what it is made of: the id of the
  state stands between two fields of fixed length.
-/
theorem keyMaterial_inj
    {masterKey masterKey' : EncryptionKey}
    {stateId stateId' : String}
    {keyVersion keyVersion' : UInt32}
    (hSame :
      keyMaterial masterKey stateId keyVersion =
        keyMaterial masterKey' stateId' keyVersion') :
    masterKey = masterKey' ∧ stateId = stateId' ∧
      keyVersion = keyVersion' := by
  have hRest := List.append_cancel_left hSame
  rcases List.append_inj hRest (by simp) with
    ⟨hMaster, hTail⟩
  rcases List.append_inj' hTail (by simp) with
    ⟨hId, hVersion⟩
  refine
    ⟨Vector.toList_inj.mp hMaster,
      asBytes_injective hId, ?_⟩
  have hRange : (256 : Nat) ^ 4 = 2 ^ 32 := by
    decide
  apply UInt32.toNat.inj
  refine beBytes_inj ?_ ?_ hVersion
  · rw [hRange]
    exact keyVersion.toNat_lt
  · rw [hRange]
    exact keyVersion'.toNat_lt

------------------------------------------------------------
-- What the Operations Do
------------------------------------------------------------

namespace KeyManager

variable [Sha256]

/- The key of a state under the current master key. -/
def currentKey
    (manager : KeyManager)
    (stateId : String) : EncryptionKey :=
  Sha256.digest
    (keyMaterial manager.masterKey stateId
      manager.keyVersion)

/- Every cached key is the current one of its state. -/
def CacheCurrent
    (manager : KeyManager) : Prop :=
  ∀ stateId key,
    manager.derivedKeys.lookup stateId = some key →
      key = manager.currentKey stateId

/- The managers have one master key, of one version. -/
structure SameKey
    (manager other : KeyManager) : Prop where
  masterKey : other.masterKey = manager.masterKey
  keyVersion : other.keyVersion = manager.keyVersion

omit [Sha256] in
theorem SameKey.refl
    (manager : KeyManager) :
    SameKey manager manager :=
  ⟨rfl, rfl⟩

/- The keys of all states are those of the master key. -/
theorem SameKey.currentKey
    {manager other : KeyManager}
    (hSame : SameKey manager other)
    (stateId : String) :
    other.currentKey stateId =
      manager.currentKey stateId := by
  unfold KeyManager.currentKey
  rw [hSame.masterKey, hSame.keyVersion]

/- A manager that was just created has cached nothing. -/
theorem cacheCurrent_fromKey
    (masterKey : EncryptionKey)
    (keyVersion : UInt32) :
    (fromKey masterKey keyVersion).CacheCurrent := by
  intro stateId key hCached
  rw [fromKey, Finmap.lookup_empty] at hCached
  cases hCached

/- A derivation returns the current key of the state. -/
theorem deriveKey_spec
    {manager : KeyManager}
    (hCache : manager.CacheCurrent)
    (stateId : String) :
    ∃ manager',
      deriveKey stateId manager =
          (.ok (manager.currentKey stateId), manager') ∧
        manager.SameKey manager' ∧
        manager'.CacheCurrent := by
  unfold deriveKey
  rw [Exec.read_bind_apply]
  cases hCached : manager.derivedKeys.lookup stateId with
  | some key =>
      refine ⟨manager, ?_, SameKey.refl manager, hCache⟩
      rw [hCache stateId key hCached]
      rfl
  | none =>
      refine ⟨_, rfl, ⟨rfl, rfl⟩, ?_⟩
      intro other key hOther
      rw [HashMap.lookup_insert_eq_ite] at hOther
      split at hOther
      · next hSame =>
          subst hSame
          exact (Option.some.inj hOther).symm
      · exact hCache other key hOther

/-
  A rotation within the range of the version installs the
  new key, counts up, and leaves no key in the cache.
-/
omit [Sha256] in
theorem rotateKey_spec
    [BuildProfile]
    (manager : KeyManager)
    (newKey : EncryptionKey)
    (hRange : manager.keyVersion.toNat + 1 < 2 ^ 32) :
    rotateKey newKey manager =
      (.ok newKey,
        fromKey newKey (manager.keyVersion + 1)) := by
  have hNext :
      checkedAddU32 manager.keyVersion 1 =
        some (manager.keyVersion + 1) :=
    if_pos hRange
  unfold rotateKey
  rw [Exec.update_bind_apply, Exec.read_bind_apply, hNext]
  rfl

end KeyManager

namespace StateEncryptor

variable [Sha256] [Aes256Gcm]
variable {manager : KeyManager}

/- What an encryption does, and what it returns. -/
theorem encrypt_spec
    (hCache : manager.CacheCurrent)
    (stateId : String)
    (plaintext : Bytes)
    (nonce : NonceBytes) :
    ∃ manager',
      (encrypt stateId plaintext nonce manager).2 =
          manager' ∧
        manager.SameKey manager' ∧
        manager'.CacheCurrent ∧
        ∀ encrypted,
          (encrypt stateId plaintext nonce manager).1 =
              .ok encrypted →
            encrypted.keyVersion = manager.keyVersion ∧
              Aes256Gcm.encrypt
                  (manager.currentKey stateId)
                  encrypted.nonce plaintext =
                .ok encrypted.ciphertext := by
  rcases KeyManager.deriveKey_spec hCache stateId with
    ⟨manager', hDerive, hSame, hCache'⟩
  refine ⟨manager', ?_, hSame, hCache', ?_⟩
  · unfold encrypt
    rw [Exec.bind_of_ok hDerive, Exec.read_bind_apply,
      Aes256Gcm.newFromSlice_toList, Exec.ofExcept_ok,
      Exec.pure_bind_apply]
    cases Aes256Gcm.encrypt (manager.currentKey stateId)
        nonce plaintext with
    | ok ciphertext => rfl
    | error message => rfl
  · intro encrypted
    unfold encrypt
    rw [Exec.bind_of_ok hDerive, Exec.read_bind_apply,
      Aes256Gcm.newFromSlice_toList, Exec.ofExcept_ok,
      Exec.pure_bind_apply]
    cases hCipher :
        Aes256Gcm.encrypt (manager.currentKey stateId)
          nonce plaintext with
    | ok ciphertext =>
        intro hOk
        cases hOk
        exact ⟨hSame.keyVersion, hCipher⟩
    | error message =>
        intro hOk
        cases hOk

/- Data of another version is rejected as such. -/
theorem decrypt_of_version_ne
    {encrypted : EncryptedData}
    (hVersion :
      encrypted.keyVersion ≠ manager.keyVersion)
    (stateId : String) :
    decrypt stateId encrypted manager =
      (.err
        (.keyVersionMismatch manager.keyVersion
          encrypted.keyVersion), manager) := by
  unfold decrypt
  rw [Exec.read_bind_apply, if_pos hVersion]
  rfl

/- Data of the current version is left to the cipher. -/
theorem decrypt_of_version_eq
    (hCache : manager.CacheCurrent)
    {encrypted : EncryptedData}
    (hVersion :
      encrypted.keyVersion = manager.keyVersion)
    (stateId : String) :
    ∃ manager',
      decrypt stateId encrypted manager =
          (Exec.ofExcept .decryptionFailed
            (Aes256Gcm.decrypt (manager.currentKey stateId)
              encrypted.nonce encrypted.ciphertext) :
            Exec KeyManager EncryptionError Bytes)
            manager' ∧
        manager.SameKey manager' ∧
        manager'.CacheCurrent := by
  rcases KeyManager.deriveKey_spec hCache stateId with
    ⟨manager', hDerive, hSame, hCache'⟩
  refine ⟨manager', ?_, hSame, hCache'⟩
  unfold decrypt
  rw [Exec.read_bind_apply,
    if_neg (not_not_intro hVersion),
    Exec.bind_of_ok hDerive,
    Aes256Gcm.newFromSlice_toList, Exec.ofExcept_ok,
    Exec.pure_bind_apply]

end StateEncryptor

end IsaWorkspace
