import IsaWorkspace.Encryption.KeyManager
import IsaWorkspace.Foundations.Runs

/-
  Keys along derivations, encryptions and rotations.

  A rotation empties the cache, so that no key is cached
  that belongs to an earlier master key.  What has been
  encrypted since is decrypted again, and what was encrypted
  before has another version.

  Main declarations:
    * `KeyCall`, `KeyHistory`, `KeyHistory.step`
    * `KeyHistory.FollowsRotation`
    * `KeyHistory.Followed`, `followed_step`, `followed_run`
    * `KeyHistory.followsRotation_run`
-/

------------------------------------------------------------
-- Calls and Their History
------------------------------------------------------------

namespace IsaWorkspace

/- A call to the key manager or to its state encryptor. -/
inductive KeyCall where
  | deriveKey (stateId : String)
  | rotateKey (newKey : EncryptionKey)
  | encrypt
      (stateId : String)
      (plaintext : Bytes)
      (nonce : NonceBytes)
  | decrypt (stateId : String) (encrypted : EncryptedData)
deriving DecidableEq

/- Whether a call rotates the master key. -/
def KeyCall.rotates : KeyCall → Bool
| deriveKey _ => false
| rotateKey _ => true
| encrypt _ _ _ => false
| decrypt _ _ => false

/- A key that was derived, and what for. -/
structure KeyDerivation where
  masterKey : EncryptionKey
  stateId : String
  keyVersion : UInt32
  key : EncryptionKey
deriving DecidableEq

/- Data that was encrypted, after so many rotations. -/
structure MadeData where
  stateId : String
  plaintext : Bytes
  encrypted : EncryptedData
  rotations : Nat
deriving DecidableEq

/-
  A key manager, the master key it was given last, and what
  was done with it so far.
-/
structure KeyHistory where
  manager : KeyManager
  masterKey : EncryptionKey
  rotations : Nat
  derivations : List KeyDerivation
  made : List MadeData

namespace KeyHistory

/- A manager that was just created. -/
def start
    (masterKey : EncryptionKey)
    (keyVersion : UInt32) : KeyHistory where
  manager := KeyManager.fromKey masterKey keyVersion
  masterKey := masterKey
  rotations := 0
  derivations := []
  made := []

/- Note the key that the manager derives for a state. -/
def noteKey
    [Sha256]
    (history : KeyHistory)
    (stateId : String) : KeyHistory :=
  match
    (KeyManager.deriveKey stateId history.manager).1 with
  | .ok key =>
      { history with
        derivations :=
          history.derivations ++
            [{ masterKey := history.masterKey
               stateId := stateId
               keyVersion := history.manager.keyVersion
               key := key }] }
  | .err _ => history
  | .panicked => history

/- Note what an encryption has returned. -/
def noteData
    (history : KeyHistory)
    (stateId : String)
    (plaintext : Bytes) :
    Outcome EncryptionError EncryptedData → KeyHistory
| .ok encrypted =>
    { history with
      made :=
        history.made ++
          [{ stateId := stateId
             plaintext := plaintext
             encrypted := encrypted
             rotations := history.rotations }] }
| .err _ => history
| .panicked => history

variable [BuildProfile] [Sha256] [Aes256Gcm]

/- The history after one more call. -/
def step
    (history : KeyHistory) : KeyCall → KeyHistory
| .deriveKey stateId =>
    { history.noteKey stateId with
      manager :=
        (KeyManager.deriveKey stateId history.manager).2 }
| .rotateKey newKey =>
    { history with
      manager :=
        (KeyManager.rotateKey newKey history.manager).2
      masterKey := newKey
      rotations := history.rotations + 1 }
| .encrypt stateId plaintext nonce =>
    { (history.noteKey stateId).noteData stateId plaintext
        (StateEncryptor.encrypt stateId plaintext nonce
          history.manager).1 with
      manager :=
        (StateEncryptor.encrypt stateId plaintext nonce
          history.manager).2 }
| .decrypt stateId encrypted =>
    { (if encrypted.keyVersion =
            history.manager.keyVersion then
          history.noteKey stateId
        else
          history) with
      manager :=
        (StateEncryptor.decrypt stateId encrypted
          history.manager).2 }

/- What has been hashed to derive keys. -/
def hashed
    (history : KeyHistory) : Set Bytes :=
  { material |
    ∃ derivation ∈ history.derivations,
      material =
        keyMaterial derivation.masterKey
          derivation.stateId derivation.keyVersion }

/-
  Per-state keys follow the rotations: the version counts
  them, every key is derived from the current master key,
  and equal keys have been derived from equal material.
  Encrypted data is decrypted until the next rotation, and
  rejected from then on.
-/
structure FollowsRotation
    (startVersion : UInt32)
    (history : KeyHistory) : Prop where
  version :
    history.manager.keyVersion.toNat =
      startVersion.toNat + history.rotations
  derives :
    ∀ stateId,
      (KeyManager.deriveKey stateId history.manager).1 =
        .ok
          (Sha256.digest
            (keyMaterial history.masterKey stateId
              history.manager.keyVersion))
  distinct :
    ∀ first ∈ history.derivations,
      ∀ second ∈ history.derivations,
        first.key = second.key →
          first.masterKey = second.masterKey ∧
            first.stateId = second.stateId ∧
            first.keyVersion = second.keyVersion
  opens :
    ∀ data ∈ history.made,
      data.rotations = history.rotations →
        (StateEncryptor.decrypt data.stateId
          data.encrypted history.manager).1 =
            .ok data.plaintext
  rejects :
    ∀ data ∈ history.made,
      data.rotations < history.rotations →
        ∀ stateId,
          (StateEncryptor.decrypt stateId data.encrypted
            history.manager).1 =
              .err
                (.keyVersionMismatch
                  history.manager.keyVersion
                  data.encrypted.keyVersion)

------------------------------------------------------------
-- The Invariant
------------------------------------------------------------

/-
  The cache is current, and what is known of every key and
  of all data has been done with the keys of their time.
-/
structure Followed
    (startVersion : UInt32)
    (history : KeyHistory) : Prop where
  masterKey : history.manager.masterKey = history.masterKey
  version :
    history.manager.keyVersion.toNat =
      startVersion.toNat + history.rotations
  cache : history.manager.CacheCurrent
  derived :
    ∀ derivation ∈ history.derivations,
      derivation.key =
        Sha256.digest
          (keyMaterial derivation.masterKey
            derivation.stateId derivation.keyVersion)
  made :
    ∀ data ∈ history.made,
      data.rotations ≤ history.rotations ∧
        data.encrypted.keyVersion.toNat =
          startVersion.toNat + data.rotations
  sealed :
    ∀ data ∈ history.made,
      data.rotations = history.rotations →
        Aes256Gcm.encrypt
            (history.manager.currentKey data.stateId)
            data.encrypted.nonce data.plaintext =
          .ok data.encrypted.ciphertext

variable {startVersion : UInt32} {history : KeyHistory}

omit [BuildProfile] in
theorem followed_start
    (masterKey : EncryptionKey)
    (startVersion : UInt32) :
    Followed startVersion (start masterKey startVersion) where
  masterKey := rfl
  version := rfl
  cache :=
    KeyManager.cacheCurrent_fromKey masterKey startVersion
  derived := by
    intro derivation hDerivation
    cases hDerivation
  made := by
    intro data hData
    cases hData
  sealed := by
    intro data hData
    cases hData

omit [BuildProfile] in
/- A manager with the same key takes the place. -/
private theorem Followed.withManager
    (hFollowed : Followed startVersion history)
    {manager : KeyManager}
    (hSame : history.manager.SameKey manager)
    (hCache : manager.CacheCurrent) :
    Followed startVersion
      { history with manager := manager } where
  masterKey := hSame.masterKey.trans hFollowed.masterKey
  version := by
    change manager.keyVersion.toNat = _
    rw [hSame.keyVersion]
    exact hFollowed.version
  cache := hCache
  derived := hFollowed.derived
  made := hFollowed.made
  sealed := by
    intro data hData hNow
    rw [hSame.currentKey]
    exact hFollowed.sealed data hData hNow

omit [BuildProfile] in
/- A key that is noted is the current one. -/
private theorem Followed.noteKey
    (hFollowed : Followed startVersion history)
    (stateId : String) :
    Followed startVersion (history.noteKey stateId) ∧
      (history.noteKey stateId).manager =
        history.manager := by
  rcases KeyManager.deriveKey_spec hFollowed.cache stateId
    with ⟨manager', hDerive, _, _⟩
  unfold KeyHistory.noteKey
  rw [hDerive]
  refine ⟨⟨hFollowed.masterKey, hFollowed.version,
    hFollowed.cache, ?_, hFollowed.made,
    hFollowed.sealed⟩, rfl⟩
  intro derivation hDerivation
  rcases List.mem_append.mp hDerivation with
    hEarlier | hNew
  · exact hFollowed.derived derivation hEarlier
  · rw [List.mem_singleton.mp hNew,
      KeyManager.currentKey, hFollowed.masterKey]

omit [BuildProfile] in
/- Data that is noted was encrypted with its key. -/
private theorem Followed.noteData
    (hFollowed : Followed startVersion history)
    {stateId : String}
    {plaintext : Bytes}
    {outcome : Outcome EncryptionError EncryptedData}
    (hData :
      ∀ encrypted, outcome = .ok encrypted →
        encrypted.keyVersion =
            history.manager.keyVersion ∧
          Aes256Gcm.encrypt
              (history.manager.currentKey stateId)
              encrypted.nonce plaintext =
            .ok encrypted.ciphertext) :
    Followed startVersion
        (history.noteData stateId plaintext outcome) ∧
      (history.noteData stateId plaintext outcome).manager =
        history.manager := by
  cases outcome with
  | err error => exact ⟨hFollowed, rfl⟩
  | panicked => exact ⟨hFollowed, rfl⟩
  | ok encrypted =>
      rcases hData encrypted rfl with ⟨hVersion, hCipher⟩
      refine ⟨⟨hFollowed.masterKey, hFollowed.version,
        hFollowed.cache, hFollowed.derived, ?_, ?_⟩, rfl⟩
      · intro data hMember
        rcases List.mem_append.mp hMember with
          hEarlier | hNew
        · exact hFollowed.made data hEarlier
        · rw [List.mem_singleton.mp hNew]
          refine ⟨Nat.le_refl _, ?_⟩
          change encrypted.keyVersion.toNat = _
          rw [hVersion]
          exact hFollowed.version
      · intro data hMember hNow
        rcases List.mem_append.mp hMember with
          hEarlier | hNew
        · exact hFollowed.sealed data hEarlier hNow
        · rw [List.mem_singleton.mp hNew]
          exact hCipher

/- A rotation leaves no data of the current version. -/
private theorem Followed.rotateKey
    (hFollowed : Followed startVersion history)
    (newKey : EncryptionKey)
    (hRange :
      startVersion.toNat + history.rotations + 1 <
        2 ^ 32) :
    Followed startVersion
      (history.step (.rotateKey newKey)) := by
  have hVersion :
      history.manager.keyVersion.toNat + 1 < 2 ^ 32 := by
    rw [hFollowed.version]
    exact hRange
  have hRotated :=
    KeyManager.rotateKey_spec history.manager newKey
      hVersion
  have hNext :
      (history.manager.keyVersion + 1).toNat =
        startVersion.toNat + (history.rotations + 1) := by
    rw [UInt32.toNat_add, hFollowed.version]
    exact Nat.mod_eq_of_lt hRange
  refine ⟨?_, ?_, ?_, hFollowed.derived, ?_, ?_⟩
  · simp only [step, hRotated]
    rfl
  · simp only [step, hRotated]
    exact hNext
  · simp only [step, hRotated]
    exact
      KeyManager.cacheCurrent_fromKey newKey
        (history.manager.keyVersion + 1)
  · intro data hData
    rcases hFollowed.made data hData with ⟨hEarlier, hMade⟩
    exact ⟨Nat.le_succ_of_le hEarlier, hMade⟩
  · intro data hData hNow
    rcases hFollowed.made data hData with ⟨hEarlier, _⟩
    have hLater :
        data.rotations = history.rotations + 1 := hNow
    omega

/- Every call keeps the invariant. -/
theorem followed_step
    (hFollowed : Followed startVersion history)
    (call : KeyCall)
    (hRange :
      call.rotates = true →
        startVersion.toNat + history.rotations + 1 <
          2 ^ 32) :
    Followed startVersion (history.step call) := by
  cases call with
  | deriveKey stateId =>
      rcases KeyManager.deriveKey_spec hFollowed.cache
          stateId
        with ⟨manager', hDerive, hSame, hCache⟩
      rcases hFollowed.noteKey stateId with
        ⟨hNoted, hManager⟩
      rw [step, hDerive]
      rw [← hManager] at hSame
      exact hNoted.withManager hSame hCache
  | rotateKey newKey =>
      exact hFollowed.rotateKey newKey (hRange rfl)
  | encrypt stateId plaintext nonce =>
      rcases StateEncryptor.encrypt_spec hFollowed.cache
          stateId plaintext nonce
        with ⟨manager', hEncrypt, hSame, hCache, hData⟩
      rcases hFollowed.noteKey stateId with
        ⟨hNoted, hManager⟩
      rw [← hManager] at hData
      rcases hNoted.noteData hData with
        ⟨hBoth, hManager'⟩
      rw [hManager] at hBoth hManager'
      rw [step, hEncrypt]
      rw [← hManager'] at hSame
      exact hBoth.withManager hSame hCache
  | decrypt stateId encrypted =>
      rw [step]
      by_cases hVersion :
          encrypted.keyVersion = history.manager.keyVersion
      · rcases StateEncryptor.decrypt_of_version_eq
            hFollowed.cache hVersion stateId
          with ⟨manager', hDecrypt, hSame, hCache⟩
        rcases hFollowed.noteKey stateId with
          ⟨hNoted, hManager⟩
        rw [if_pos hVersion, hDecrypt, Exec.ofExcept_state]
        rw [← hManager] at hSame
        exact hNoted.withManager hSame hCache
      · rw [if_neg hVersion,
          StateEncryptor.decrypt_of_version_ne hVersion]
        exact hFollowed

omit [BuildProfile] [Aes256Gcm] in
@[simp] theorem rotations_noteKey
    (history : KeyHistory)
    (stateId : String) :
    (history.noteKey stateId).rotations =
      history.rotations := by
  unfold noteKey
  cases (KeyManager.deriveKey stateId history.manager).1
    with
  | ok key => rfl
  | err error => rfl
  | panicked => rfl

omit [BuildProfile] [Sha256] [Aes256Gcm] in
@[simp] theorem rotations_noteData
    (history : KeyHistory)
    (stateId : String)
    (plaintext : Bytes)
    (outcome : Outcome EncryptionError EncryptedData) :
    (history.noteData stateId plaintext outcome).rotations =
      history.rotations := by
  cases outcome with
  | ok encrypted => rfl
  | err error => rfl
  | panicked => rfl

/- A history counts the rotations. -/
theorem rotations_step
    (history : KeyHistory)
    (call : KeyCall) :
    (history.step call).rotations =
      history.rotations +
        if call.rotates = true then 1 else 0 := by
  cases call with
  | deriveKey stateId => simp [step, KeyCall.rotates]
  | rotateKey newKey => simp [step, KeyCall.rotates]
  | encrypt stateId plaintext nonce =>
      simp [step, KeyCall.rotates]
  | decrypt stateId encrypted =>
      simp only [step, KeyCall.rotates]
      split <;> simp

/- How many of the calls rotate the master key. -/
def rotationsIn
    (calls : List KeyCall) : Nat :=
  calls.countP KeyCall.rotates

/-
  The invariant is kept by every run whose rotations fit the
  version.
-/
theorem followed_run
    (calls : List KeyCall)
    (hFollowed : Followed startVersion history)
    (hRange :
      startVersion.toNat + history.rotations +
          rotationsIn calls <
        2 ^ 32) :
    Followed startVersion (Runs.run step history calls) := by
  induction calls generalizing history with
  | nil => exact hFollowed
  | cons call rest ih =>
      have hCount :
          rotationsIn (call :: rest) =
            rotationsIn rest +
              if call.rotates = true then 1 else 0 :=
        List.countP_cons
      rw [hCount] at hRange
      apply ih
      · apply followed_step hFollowed
        intro hRotates
        rw [if_pos hRotates] at hRange
        omega
      · rw [rotations_step]
        omega

------------------------------------------------------------
-- Keys Follow Rotation
------------------------------------------------------------

omit [BuildProfile] in
/- Data of the current version is decrypted. -/
private theorem Followed.opens
    (hLawful : Aes256Gcm.Lawful)
    (hFollowed : Followed startVersion history)
    {data : MadeData}
    (hData : data ∈ history.made)
    (hNow : data.rotations = history.rotations) :
    (StateEncryptor.decrypt data.stateId data.encrypted
        history.manager).1 =
      .ok data.plaintext := by
  rcases hFollowed.made data hData with ⟨_, hMade⟩
  have hVersion :
      data.encrypted.keyVersion =
        history.manager.keyVersion := by
    apply UInt32.toNat.inj
    rw [hMade, hFollowed.version, hNow]
  have hCipher :=
    hLawful _ _ _ _ (hFollowed.sealed data hData hNow)
  rcases StateEncryptor.decrypt_of_version_eq
      hFollowed.cache hVersion data.stateId
    with ⟨manager', hDecrypt, _, _⟩
  rw [hDecrypt, hCipher]
  rfl

omit [BuildProfile] in
/- Data of an earlier version is rejected. -/
private theorem Followed.rejects
    (hFollowed : Followed startVersion history)
    {data : MadeData}
    (hData : data ∈ history.made)
    (hEarlier : data.rotations < history.rotations)
    (stateId : String) :
    (StateEncryptor.decrypt stateId data.encrypted
        history.manager).1 =
      .err
        (.keyVersionMismatch history.manager.keyVersion
          data.encrypted.keyVersion) := by
  rcases hFollowed.made data hData with ⟨_, hMade⟩
  have hVersion :
      data.encrypted.keyVersion ≠
        history.manager.keyVersion := by
    intro hSame
    have hNat := congrArg UInt32.toNat hSame
    rw [hMade, hFollowed.version] at hNat
    omega
  rw [StateEncryptor.decrypt_of_version_ne hVersion]

omit [BuildProfile] in
/- Keys that were derived from one digest are one. -/
private theorem Followed.distinct
    (hFollowed : Followed startVersion history)
    (hInjective :
      Set.InjOn Sha256.digest history.hashed)
    {first second : KeyDerivation}
    (hFirst : first ∈ history.derivations)
    (hSecond : second ∈ history.derivations)
    (hKey : first.key = second.key) :
    first.masterKey = second.masterKey ∧
      first.stateId = second.stateId ∧
      first.keyVersion = second.keyVersion := by
  rw [hFollowed.derived first hFirst,
    hFollowed.derived second hSecond] at hKey
  exact
    keyMaterial_inj
      (hInjective ⟨first, hFirst, rfl⟩
        ⟨second, hSecond, rfl⟩ hKey)

/-
  In every run whose rotations fit the version the per-state
  keys follow the rotations.
-/
theorem followsRotation_run
    (hLawful : Aes256Gcm.Lawful)
    (masterKey : EncryptionKey)
    (keyVersion : UInt32)
    (calls : List KeyCall)
    (hRange :
      keyVersion.toNat + rotationsIn calls < 2 ^ 32)
    (hInjective :
      Set.InjOn Sha256.digest
        (Runs.run step (start masterKey keyVersion)
          calls).hashed) :
    FollowsRotation keyVersion
      (Runs.run step (start masterKey keyVersion)
        calls) := by
  have hFollowed :=
    followed_run calls
      (followed_start masterKey keyVersion) hRange
  refine ⟨hFollowed.version, ?_, ?_, ?_, ?_⟩
  · intro stateId
    rcases KeyManager.deriveKey_spec hFollowed.cache stateId
      with ⟨manager', hDerive, _, _⟩
    rw [hDerive, KeyManager.currentKey, hFollowed.masterKey]
  · intro first hFirst second hSecond hKey
    exact
      hFollowed.distinct hInjective hFirst hSecond hKey
  · intro data hData hNow
    exact hFollowed.opens hLawful hData hNow
  · intro data hData hEarlier stateId
    exact hFollowed.rejects hData hEarlier stateId

end KeyHistory

end IsaWorkspace

------------------------------------------------------------
-- A Rotation
------------------------------------------------------------

namespace IsaWorkspace

namespace RotationSample

open KeyHistory

/- Two master keys, and what is encrypted. -/
def zeros : EncryptionKey :=
  Vector.replicate 32 0

def ones : EncryptionKey :=
  Vector.replicate 32 1

def nonce : NonceBytes :=
  Vector.replicate 12 0

def plaintext : Bytes :=
  [0x68, 0x69]

def ciphertext : Bytes :=
  [0x46, 0x20, 0x68, 0x49, 0xf7, 0x42, 0x50, 0xb3, 0x76,
    0x74, 0xd8, 0xde, 0x38, 0x1b, 0xbd, 0xbb, 0x10, 0xee]

/- The keys of the state under the master keys. -/
def firstKey : EncryptionKey :=
  digestOf
    0xf602fdf472a30c140e2fde834e9c1016452f1a24bbc41ea3843ccab4ce6a11fd

def secondKey : EncryptionKey :=
  digestOf
    0xd51151b7dead2d62f0efc3b3423cc2ed5791dcbdb1d09bf3450f74ac934307a4

scoped instance : BuildProfile :=
  ⟨true⟩

scoped instance : Sha256 where
  digest data :=
    if data = keyMaterial zeros "a" 1 then
      firstKey
    else if data = keyMaterial ones "a" 2 then
      secondKey
    else
      digestOf
        0xe3b0c44298fc1c149afbf4c8996fb92427ae41e4649b934ca495991b7852b855

scoped instance : Aes256Gcm where
  encrypt key nonce' data :=
    if key = firstKey ∧ nonce' = nonce ∧
        data = plaintext then
      .ok ciphertext
    else
      .error "aead::Error"
  decrypt key nonce' data :=
    if key = firstKey ∧ nonce' = nonce ∧
        data = ciphertext then
      .ok plaintext
    else
      .error "aead::Error"

/- The state is encrypted, and the master key rotated. -/
def calls : List KeyCall :=
  [.encrypt "a" plaintext nonce, .rotateKey ones,
    .deriveKey "a"]

theorem lawful :
    Aes256Gcm.Lawful := by
  intro key nonce' data sealed hSealed
  change (if _ then _ else _) = _ at hSealed
  split at hSealed
  · next hSample =>
      cases hSealed
      rcases hSample with ⟨hKey, hNonce, hData⟩
      subst hKey hNonce hData
      rfl
  · cases hSealed

theorem derivations_calls :
    (Runs.run step (start zeros 1) calls).derivations =
      [{ masterKey := zeros, stateId := "a"
         keyVersion := 1, key := firstKey },
        { masterKey := ones, stateId := "a"
          keyVersion := 2, key := secondKey }] := by
  rfl

theorem keys_apart :
    Sha256.digest (keyMaterial zeros "a" 1) ≠
      Sha256.digest (keyMaterial ones "a" 2) := by
  change firstKey ≠ secondKey
  decide

/- The two keys of the sample have been hashed apart. -/
theorem injOn_hashed :
    Set.InjOn Sha256.digest
      (Runs.run step (start zeros 1) calls).hashed := by
  rintro _ ⟨first, hFirst, rfl⟩ _ ⟨second, hSecond, rfl⟩
    hSame
  rw [derivations_calls] at hFirst hSecond
  simp only [List.mem_cons, List.not_mem_nil,
    or_false] at hFirst hSecond
  rcases hFirst with rfl | rfl
  · rcases hSecond with rfl | rfl
    · rfl
    · exact absurd hSame keys_apart
  · rcases hSecond with rfl | rfl
    · exact absurd hSame.symm keys_apart
    · rfl

end RotationSample

open RotationSample

/- Keys follow the rotation of a master key. -/
theorem KeyHistory.followsRotation_calls :
    KeyHistory.FollowsRotation 1
      (Runs.run KeyHistory.step (KeyHistory.start zeros 1)
        calls) := by
  exact
    KeyHistory.followsRotation_run lawful zeros 1 calls
      (by decide) injOn_hashed

end IsaWorkspace
