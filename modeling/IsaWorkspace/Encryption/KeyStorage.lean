import IsaWorkspace.Encryption.Rotation

/-
  Storing the master key in a file, and restarts.

  The file holds the master key and its version.  A host
  that restarts loads the key and creates a new manager from
  it.  It answers on as if it had never restarted, if and
  only if the current master key was in the file.

  Main declarations:
    * `FileKeyStorage.storeKey`, `loadKey`, `deleteKey`
    * `KeyCall.perform`, `KeyCall.perform_spec`
    * `KeyHost`, `HostCall`, `KeyHost.step`
    * `HostCall.savedAfter`, `KeyHost.Mirrors`
    * `KeyHost.answers_run`
    * `KeyHost.restart_iff`
-/

------------------------------------------------------------
-- The Key File
------------------------------------------------------------

namespace IsaWorkspace

/- Errors of a key storage. -/
inductive KeyStorageError where
  | decryptionFailed (message : String)
  | ioError (message : String)
deriving DecidableEq

/-
  What becomes of writing a key file, which is emptied when
  it is opened: it is not opened, it gets fewer than all its
  bytes, or all of them.
-/
inductive KeyFileWrite where
  | notOpened (message : String)
  | broken (written : Fin 36) (message : String)
  | written
deriving DecidableEq

/- File-based key storage, by what is in its file. -/
structure FileKeyStorage where
  keyFile : Option Bytes
deriving DecidableEq

namespace FileKeyStorage

/- The key with its version. -/
def serialize
    (key : EncryptionKey)
    (version : UInt32) : Bytes :=
  key.toList ++ beBytes 4 version.toNat

/- Store master key securely. -/
def storeKey
    (write : KeyFileWrite)
    (permissions : Except String Unit)
    (key : EncryptionKey)
    (version : UInt32) :
    Exec FileKeyStorage KeyStorageError Unit :=
  let data := serialize key version
  match write with
  | .notOpened message => Exec.fail (.ioError message)
  | .broken written message => do
      Exec.update fun _ => ⟨some (data.take written)⟩
      Exec.fail (.ioError message)
  | .written => do
      Exec.update fun _ => ⟨some data⟩
      Exec.ofExcept .ioError permissions

/- Load master key. -/
def loadKey
    (read : Except String Unit) :
    Exec FileKeyStorage KeyStorageError
      (Option (EncryptionKey × UInt32)) := do
  let storage ← Exec.read
  match storage.keyFile with
  | none => pure none
  | some data => do
      let _ ← Exec.ofExcept .ioError read
      if hLength : data.length = 36 then
        let key : EncryptionKey :=
          ⟨(data.take 32).toArray, by simp [hLength]⟩
        let version :=
          UInt32.ofNat (beValue (data.drop 32))
        pure (some (key, version))
      else
        Exec.fail (.decryptionFailed "Invalid key file")

/- Delete master key. -/
def deleteKey
    (removal : Except String Unit) :
    Exec FileKeyStorage KeyStorageError Unit := do
  let storage ← Exec.read
  match storage.keyFile with
  | none => pure ()
  | some _ => do
      let _ ← Exec.ofExcept .ioError removal
      Exec.update fun _ => ⟨none⟩

@[simp] theorem length_serialize
    (key : EncryptionKey)
    (version : UInt32) :
    (serialize key version).length = 36 := by
  simp [serialize]

/- A key that is in the file is loaded. -/
theorem loadKey_serialize
    (key : EncryptionKey)
    (version : UInt32) :
    loadKey (.ok ()) ⟨some (serialize key version)⟩ =
      (.ok (some (key, version)),
        ⟨some (serialize key version)⟩) := by
  have hKey :
      (serialize key version).take 32 = key.toList := by
    unfold serialize
    exact List.take_left' (by simp)
  have hVersion :
      UInt32.ofNat
          (beValue ((serialize key version).drop 32)) =
        version := by
    unfold serialize
    rw [List.drop_left' (by simp), ofNat_beBytes32]
  unfold loadKey
  rw [Exec.read_bind_apply]
  dsimp only
  rw [Exec.ofExcept_ok, Exec.pure_bind_apply,
    dif_pos (length_serialize key version)]
  simp only [hKey, hVersion]
  rfl

/- A file of any other length is not loaded. -/
theorem loadKey_of_length_ne
    {data : Bytes}
    (hLength : data.length ≠ 36) :
    loadKey (.ok ()) ⟨some data⟩ =
      (.err (.decryptionFailed "Invalid key file"),
        ⟨some data⟩) := by
  unfold loadKey
  rw [Exec.read_bind_apply]
  dsimp only
  rw [Exec.ofExcept_ok, Exec.pure_bind_apply,
    dif_neg hLength]
  rfl

end FileKeyStorage

------------------------------------------------------------
-- Answers of a Key Manager
------------------------------------------------------------

/- What a call on a key manager returns. -/
inductive KeyAnswer where
  | key (outcome : Outcome EncryptionError EncryptionKey)
  | encrypted
      (outcome : Outcome EncryptionError EncryptedData)
  | decrypted (outcome : Outcome EncryptionError Bytes)

namespace KeyCall

variable [BuildProfile] [Sha256] [Aes256Gcm]

/- Make a call. -/
def perform
    (manager : KeyManager) :
    KeyCall → KeyAnswer × KeyManager
| deriveKey stateId =>
    (.key (KeyManager.deriveKey stateId manager).1,
      (KeyManager.deriveKey stateId manager).2)
| rotateKey newKey =>
    (.key (KeyManager.rotateKey newKey manager).1,
      (KeyManager.rotateKey newKey manager).2)
| encrypt stateId plaintext nonce =>
    (.encrypted
        (StateEncryptor.encrypt stateId plaintext nonce
          manager).1,
      (StateEncryptor.encrypt stateId plaintext nonce
        manager).2)
| decrypt stateId encrypted =>
    (.decrypted
        (StateEncryptor.decrypt stateId encrypted
          manager).1,
      (StateEncryptor.decrypt stateId encrypted manager).2)

/- The master key after a call, by that before it. -/
def nextKey
    (masterKey : EncryptionKey) : KeyCall → EncryptionKey
| rotateKey newKey => newKey
| deriveKey _ | encrypt _ _ _ | decrypt _ _ => masterKey

/- By how much a call moves the version on. -/
def rotations
    (call : KeyCall) : Nat :=
  if call.rotates = true then 1 else 0

variable {manager : KeyManager}

omit [BuildProfile] [Sha256] [Aes256Gcm] in
/- Only a rotation changes the master key. -/
theorem nextKey_of_not_rotates
    {call : KeyCall}
    (hRotates : call.rotates = false)
    (masterKey : EncryptionKey) :
    call.nextKey masterKey = masterKey := by
  cases call with
  | rotateKey newKey => cases hRotates
  | deriveKey stateId => rfl
  | encrypt stateId plaintext nonce => rfl
  | decrypt stateId encrypted => rfl

omit [BuildProfile] in
/- An encryption is up to the master key and its version. -/
theorem encrypt_uncached
    (hCache : manager.CacheCurrent)
    (stateId : String)
    (plaintext : Bytes)
    (nonce : NonceBytes) :
    (StateEncryptor.encrypt stateId plaintext nonce
        manager).1 =
      (StateEncryptor.encrypt stateId plaintext nonce
        (.fromKey manager.masterKey
          manager.keyVersion)).1 := by
  have hSame :
      ∀ other : KeyManager, other.CacheCurrent →
        (StateEncryptor.encrypt stateId plaintext nonce
            other).1 =
          match Aes256Gcm.encrypt (other.currentKey stateId)
              nonce plaintext with
          | .ok ciphertext =>
              .ok ⟨ciphertext, nonce, other.keyVersion⟩
          | .error message =>
              .err (.encryptionFailed message) := by
    intro other hOther
    rcases KeyManager.deriveKey_spec hOther stateId with
      ⟨after, hDerive, hAfter, _⟩
    unfold StateEncryptor.encrypt
    rw [Exec.bind_of_ok hDerive, Exec.read_bind_apply,
      Aes256Gcm.newFromSlice_toList, Exec.ofExcept_ok,
      Exec.pure_bind_apply, hAfter.keyVersion]
    cases Aes256Gcm.encrypt (other.currentKey stateId)
        nonce plaintext with
    | ok ciphertext => rfl
    | error message => rfl
  rw [hSame manager hCache,
    hSame _ (KeyManager.cacheCurrent_fromKey _ _)]
  rfl

omit [BuildProfile] in
/- So is a decryption. -/
theorem decrypt_uncached
    (hCache : manager.CacheCurrent)
    (stateId : String)
    (encrypted : EncryptedData) :
    (StateEncryptor.decrypt stateId encrypted manager).1 =
      (StateEncryptor.decrypt stateId encrypted
        (.fromKey manager.masterKey
          manager.keyVersion)).1 := by
  by_cases hVersion :
      encrypted.keyVersion = manager.keyVersion
  · rcases StateEncryptor.decrypt_of_version_eq hCache
        hVersion stateId
      with ⟨after, hDecrypt, _, _⟩
    rcases StateEncryptor.decrypt_of_version_eq
        (KeyManager.cacheCurrent_fromKey manager.masterKey
          manager.keyVersion)
        hVersion stateId
      with ⟨after', hUncached, _, _⟩
    rw [hDecrypt, hUncached]
    change
      ((Exec.ofExcept EncryptionError.decryptionFailed
          (Aes256Gcm.decrypt (manager.currentKey stateId)
            encrypted.nonce encrypted.ciphertext) :
          Exec KeyManager EncryptionError Bytes) _).1 =
        ((Exec.ofExcept EncryptionError.decryptionFailed
          (Aes256Gcm.decrypt (manager.currentKey stateId)
            encrypted.nonce encrypted.ciphertext) :
          Exec KeyManager EncryptionError Bytes) _).1
    cases Aes256Gcm.decrypt (manager.currentKey stateId)
        encrypted.nonce encrypted.ciphertext with
    | ok plaintext => rfl
    | error message => rfl
  · have hOther :
        encrypted.keyVersion ≠
          (KeyManager.fromKey manager.masterKey
            manager.keyVersion).keyVersion :=
      hVersion
    rw [StateEncryptor.decrypt_of_version_ne hVersion,
      StateEncryptor.decrypt_of_version_ne hOther]
    rfl

/-
  A call answers as if nothing had been cached, and leaves
  the master key as it is, or the new one of a rotation with
  the next version.
-/
structure Performs
    (call : KeyCall)
    (manager : KeyManager) : Prop where
  answer :
    (call.perform manager).1 =
      (call.perform
        (.fromKey manager.masterKey manager.keyVersion)).1
  masterKey :
    (call.perform manager).2.masterKey =
      call.nextKey manager.masterKey
  keyVersion :
    (call.perform manager).2.keyVersion.toNat =
      manager.keyVersion.toNat + call.rotations
  cache : (call.perform manager).2.CacheCurrent

/- A call that keeps the master key performs so. -/
theorem Performs.of_sameKey
    {call : KeyCall}
    (hRotates : call.rotates = false)
    (hAnswer :
      (call.perform manager).1 =
        (call.perform
          (.fromKey manager.masterKey
            manager.keyVersion)).1)
    (hSame : manager.SameKey (call.perform manager).2)
    (hCache : (call.perform manager).2.CacheCurrent) :
    call.Performs manager where
  answer := hAnswer
  masterKey := by
    rw [hSame.masterKey, nextKey_of_not_rotates hRotates]
  keyVersion := by
    rw [hSame.keyVersion, rotations, hRotates]
    rfl
  cache := hCache

theorem Performs.sameKey
    {call : KeyCall}
    (hPerforms : call.Performs manager)
    (hRotates : call.rotates = false) :
    manager.SameKey (call.perform manager).2 where
  masterKey := by
    rw [hPerforms.masterKey,
      nextKey_of_not_rotates hRotates]
  keyVersion := by
    apply UInt32.toNat.inj
    rw [hPerforms.keyVersion, rotations, hRotates]
    rfl

/- Every call performs so from a cache that is current. -/
theorem perform_spec
    (hCache : manager.CacheCurrent)
    (call : KeyCall)
    (hRange :
      manager.keyVersion.toNat + call.rotations < 2 ^ 32) :
    call.Performs manager := by
  cases call with
  | deriveKey stateId =>
      rcases KeyManager.deriveKey_spec hCache stateId with
        ⟨after, hDerive, hSame, hAfter⟩
      rcases KeyManager.deriveKey_spec
          (KeyManager.cacheCurrent_fromKey manager.masterKey
            manager.keyVersion)
          stateId with
        ⟨_, hUncached, _, _⟩
      have hAnswer :
          (KeyManager.deriveKey stateId manager).1 =
            (KeyManager.deriveKey stateId
              (.fromKey manager.masterKey
                manager.keyVersion)).1 := by
        rw [hDerive, hUncached]
        rfl
      have hManager :
          ((deriveKey stateId).perform manager).2 =
            after :=
        congrArg Prod.snd hDerive
      apply Performs.of_sameKey rfl
      · exact congrArg KeyAnswer.key hAnswer
      · rw [hManager]
        exact hSame
      · rw [hManager]
        exact hAfter
  | rotateKey newKey =>
      have hRotated :=
        KeyManager.rotateKey_spec manager newKey hRange
      have hUncached :=
        KeyManager.rotateKey_spec
          (.fromKey manager.masterKey manager.keyVersion)
          newKey hRange
      have hManager :
          ((rotateKey newKey).perform manager).2 =
            .fromKey newKey (manager.keyVersion + 1) :=
        congrArg Prod.snd hRotated
      refine ⟨?_, ?_, ?_, ?_⟩
      · have hAnswer :=
          (congrArg Prod.fst hRotated).trans
            (congrArg Prod.fst hUncached).symm
        exact congrArg KeyAnswer.key hAnswer
      · rw [hManager]
        rfl
      · rw [hManager]
        change
          (manager.keyVersion + 1).toNat =
            manager.keyVersion.toNat + 1
        rw [UInt32.toNat_add]
        exact Nat.mod_eq_of_lt hRange
      · rw [hManager]
        exact KeyManager.cacheCurrent_fromKey _ _
  | encrypt stateId plaintext nonce =>
      rcases StateEncryptor.encrypt_spec hCache stateId
          plaintext nonce with
        ⟨after, hAfter, hSame, hCache', _⟩
      apply Performs.of_sameKey rfl
      · exact
          congrArg KeyAnswer.encrypted
            (encrypt_uncached hCache stateId plaintext nonce)
      · exact hAfter ▸ hSame
      · exact hAfter ▸ hCache'
  | decrypt stateId encrypted =>
      have hAfter :
          manager.SameKey
              (StateEncryptor.decrypt stateId encrypted
                manager).2 ∧
            (StateEncryptor.decrypt stateId encrypted
              manager).2.CacheCurrent := by
        by_cases hVersion :
            encrypted.keyVersion = manager.keyVersion
        · rcases StateEncryptor.decrypt_of_version_eq hCache
              hVersion stateId
            with ⟨after, hDecrypt, hSame, hCache'⟩
          rw [hDecrypt, Exec.ofExcept_state]
          exact ⟨hSame, hCache'⟩
        · rw [StateEncryptor.decrypt_of_version_ne hVersion]
          exact ⟨.refl manager, hCache⟩
      apply Performs.of_sameKey rfl
      · exact
          congrArg KeyAnswer.decrypted
            (decrypt_uncached hCache stateId encrypted)
      · exact hAfter.1
      · exact hAfter.2

end KeyCall

------------------------------------------------------------
-- Hosts
------------------------------------------------------------

/-
  A host of a key manager with its key file.  After a
  restart that loads no key there is no manager.
-/
structure KeyHost where
  manager : Option KeyManager
  storage : FileKeyStorage

/- What a host does, and what becomes of its file calls. -/
inductive HostCall where
  | key (call : KeyCall)
  | storeKey
      (write : KeyFileWrite)
      (permissions : Except String Unit)
  | deleteKey (removal : Except String Unit)
  | restart (read : Except String Unit)

namespace HostCall

/- The call on the key manager, if it is one. -/
def keyCall? : HostCall → Option KeyCall
| key call => some call
| storeKey _ _ | deleteKey _ | restart _ => none

/-
  Whether the current master key is in the file after a
  call, by whether it was there before.
-/
def savedAfter
    (saved : Bool) : HostCall → Bool
| key call => saved && !call.rotates
| storeKey (.notOpened _) _ => saved
| storeKey (.broken _ _) _ => false
| storeKey .written _ => true
| deleteKey (.ok _) => false
| deleteKey (.error _) => saved
| restart _ => saved

/- A restart finds the current master key, and reads it. -/
def RestartsSaved
    (saved : Bool) : HostCall → Prop
| restart read => saved = true ∧ read = .ok ()
| key _ | storeKey _ _ | deleteKey _ => True

end HostCall

namespace KeyHost

variable [BuildProfile] [Sha256] [Aes256Gcm]

/- The host after a call. -/
def step
    (host : KeyHost) : HostCall → KeyHost
| .key call =>
    { host with
      manager :=
        host.manager.map fun manager =>
          (call.perform manager).2 }
| .storeKey write permissions =>
    match host.manager with
    | none => host
    | some manager =>
        { host with
          storage :=
            (FileKeyStorage.storeKey write permissions
              manager.masterKey manager.keyVersion
              host.storage).2 }
| .deleteKey removal =>
    { host with
      storage :=
        (FileKeyStorage.deleteKey removal host.storage).2 }
| .restart read =>
    { host with
      manager :=
        match (FileKeyStorage.loadKey read
            host.storage).1 with
        | .ok (some (key, version)) =>
            some (.fromKey key version)
        | .ok none | .err _ | .panicked => none }

/- What the host answers to the calls on its manager. -/
def answers
    (host : KeyHost) :
    List HostCall → List (Option KeyAnswer)
| [] => []
| call :: rest =>
    match call with
    | .key keyCall =>
        (host.manager.map fun manager =>
            (keyCall.perform manager).1) ::
          answers (host.step (.key keyCall)) rest
    | .storeKey _ _ | .deleteKey _ | .restart _ =>
        answers (host.step call) rest

theorem answers_key
    (host : KeyHost)
    (call : KeyCall)
    (rest : List HostCall) :
    host.answers (.key call :: rest) =
      (host.manager.map fun manager =>
          (call.perform manager).1) ::
        (host.step (.key call)).answers rest :=
  rfl

/- What a manager answers that is never restarted. -/
def managerAnswers
    (manager : KeyManager) : List KeyCall → List KeyAnswer
| [] => []
| call :: rest =>
    (call.perform manager).1 ::
      managerAnswers (call.perform manager).2 rest

/- A host with a manager that has stored no key yet. -/
def start
    (masterKey : EncryptionKey)
    (keyVersion : UInt32) : KeyHost where
  manager := some (.fromKey masterKey keyVersion)
  storage := ⟨none⟩

------------------------------------------------------------
-- What the File Holds
------------------------------------------------------------

/-
  The file holds the current key of a manager, or it is
  missing, or too short, or holds a key of an earlier
  version.
-/
inductive Filed
    (manager : KeyManager) :
    Bool → FileKeyStorage → Prop where
  | current :
      Filed manager true
        ⟨some
          (FileKeyStorage.serialize manager.masterKey
            manager.keyVersion)⟩
  | missing : Filed manager false ⟨none⟩
  | broken
      (data : Bytes)
      (hShort : data.length < 36) :
      Filed manager false ⟨some data⟩
  | earlier
      (key : EncryptionKey)
      (version : UInt32)
      (hEarlier :
        version.toNat < manager.keyVersion.toNat) :
      Filed manager false
        ⟨some (FileKeyStorage.serialize key version)⟩

variable {manager : KeyManager} {saved : Bool}
variable {storage : FileKeyStorage} {host : KeyHost}

omit [BuildProfile] [Sha256] [Aes256Gcm] in
/- The file holds as much of the key as before. -/
theorem Filed.of_sameKey
    {other : KeyManager}
    (hFiled : Filed manager saved storage)
    (hSame : manager.SameKey other) :
    Filed other saved storage := by
  cases hFiled with
  | current =>
      rw [← hSame.masterKey, ← hSame.keyVersion]
      exact .current
  | missing => exact .missing
  | broken data hShort => exact .broken data hShort
  | earlier key version hEarlier =>
      rw [← hSame.keyVersion] at hEarlier
      exact .earlier key version hEarlier

omit [BuildProfile] [Sha256] [Aes256Gcm] in
/- With the next version no key in the file is current. -/
theorem Filed.of_rotated
    {other : KeyManager}
    (hFiled : Filed manager saved storage)
    (hNext :
      other.keyVersion.toNat =
        manager.keyVersion.toNat + 1) :
    Filed other false storage := by
  cases hFiled with
  | current => exact .earlier _ _ (by omega)
  | missing => exact .missing
  | broken data hShort => exact .broken data hShort
  | earlier key version hEarlier =>
      exact .earlier key version (by omega)

omit [BuildProfile] [Sha256] [Aes256Gcm] in
/- What storing the key leaves in the file. -/
theorem Filed.storeKey
    (hFiled : Filed manager saved storage)
    (write : KeyFileWrite)
    (permissions : Except String Unit) :
    Filed manager
      (HostCall.savedAfter saved
        (.storeKey write permissions))
      (FileKeyStorage.storeKey write permissions
        manager.masterKey manager.keyVersion storage).2 := by
  cases write with
  | notOpened message => exact hFiled
  | broken written message =>
      refine .broken _ ?_
      rw [List.length_take]
      have hFew := written.isLt
      omega
  | written =>
      unfold FileKeyStorage.storeKey
      dsimp only
      rw [Exec.update_bind_apply, Exec.ofExcept_state]
      exact .current

omit [BuildProfile] [Sha256] [Aes256Gcm] in
/- What deleting the key leaves in the file. -/
theorem Filed.deleteKey
    (hFiled : Filed manager saved storage)
    (removal : Except String Unit) :
    Filed manager
      (HostCall.savedAfter saved (.deleteKey removal))
      (FileKeyStorage.deleteKey removal storage).2 := by
  cases removal with
  | error message =>
      cases hFiled with
      | current => exact .current
      | missing => exact .missing
      | broken data hShort => exact .broken data hShort
      | earlier key version hEarlier =>
          exact .earlier key version hEarlier
  | ok _ =>
      cases hFiled with
      | current => exact .missing
      | missing => exact .missing
      | broken data hShort => exact .missing
      | earlier key version hEarlier => exact .missing

------------------------------------------------------------
-- A Host and a Manager That Goes On
------------------------------------------------------------

/-
  The host has the master key of a manager that was never
  restarted, and its file what has been saved of it.
-/
structure Mirrors
    (saved : Bool)
    (manager : KeyManager)
    (host : KeyHost) : Prop where
  cache : manager.CacheCurrent
  running :
    ∃ own, host.manager = some own ∧
      manager.SameKey own ∧ own.CacheCurrent
  filed : Filed manager saved host.storage

/- The manager that goes on, after a call of the host. -/
def goesOn
    (manager : KeyManager) : HostCall → KeyManager
| .key call => (call.perform manager).2
| .storeKey _ _ | .deleteKey _ | .restart _ => manager

omit [BuildProfile] [Aes256Gcm] in
theorem mirrors_start
    (masterKey : EncryptionKey)
    (keyVersion : UInt32) :
    Mirrors false (.fromKey masterKey keyVersion)
      (start masterKey keyVersion) where
  cache := KeyManager.cacheCurrent_fromKey _ _
  running :=
    ⟨_, rfl, .refl _, KeyManager.cacheCurrent_fromKey _ _⟩
  filed := .missing

/- Managers with one master key answer alike. -/
theorem perform_sameKey
    {own : KeyManager}
    (hSame : manager.SameKey own)
    (hCache : manager.CacheCurrent)
    (hOwn : own.CacheCurrent)
    (call : KeyCall)
    (hRange :
      manager.keyVersion.toNat + call.rotations < 2 ^ 32) :
    (call.perform own).1 = (call.perform manager).1 ∧
      (call.perform manager).2.SameKey
        (call.perform own).2 ∧
      (call.perform own).2.CacheCurrent := by
  have hManager := call.perform_spec hCache hRange
  rw [← hSame.keyVersion] at hRange
  have hPerforms := call.perform_spec hOwn hRange
  refine ⟨?_, ⟨?_, ?_⟩, hPerforms.cache⟩
  · rw [hPerforms.answer, hManager.answer, hSame.masterKey,
      hSame.keyVersion]
  · rw [hPerforms.masterKey, hManager.masterKey,
      hSame.masterKey]
  · apply UInt32.toNat.inj
    rw [hPerforms.keyVersion, hManager.keyVersion,
      hSame.keyVersion]

/- Every call keeps the host with the manager. -/
theorem mirrors_step
    (hMirrors : Mirrors saved manager host)
    (call : HostCall)
    (hSaved : call.RestartsSaved saved)
    (hRange :
      ∀ keyCall, call.keyCall? = some keyCall →
        manager.keyVersion.toNat + keyCall.rotations <
          2 ^ 32) :
    Mirrors (call.savedAfter saved) (goesOn manager call)
      (host.step call) := by
  rcases hMirrors with
    ⟨hCache, ⟨own, hManager, hSame, hOwn⟩, hFiled⟩
  cases call with
  | key keyCall =>
      have hFits := hRange keyCall rfl
      have hPerforms := keyCall.perform_spec hCache hFits
      have hBoth :=
        perform_sameKey hSame hCache hOwn keyCall hFits
      refine
        ⟨hPerforms.cache, ⟨_, ?_, hBoth.2.1, hBoth.2.2⟩, ?_⟩
      · unfold step
        rw [hManager]
        rfl
      · change
          Filed (keyCall.perform manager).2
            (saved && !keyCall.rotates) host.storage
        have hVersion := hPerforms.keyVersion
        unfold KeyCall.rotations at hVersion
        cases hRotates : keyCall.rotates with
        | true =>
            rw [hRotates, if_pos rfl] at hVersion
            rw [Bool.not_true, Bool.and_false]
            exact hFiled.of_rotated hVersion
        | false =>
            rw [Bool.not_false, Bool.and_true]
            exact
              hFiled.of_sameKey (hPerforms.sameKey hRotates)
  | storeKey write permissions =>
      refine ⟨hCache, ⟨own, ?_, hSame, hOwn⟩, ?_⟩
      · unfold step
        rw [hManager]
      · unfold step
        rw [hManager]
        dsimp only
        rw [hSame.masterKey, hSame.keyVersion]
        exact hFiled.storeKey write permissions
  | deleteKey removal =>
      exact
        ⟨hCache, ⟨own, hManager, hSame, hOwn⟩,
          hFiled.deleteKey removal⟩
  | restart read =>
      rcases hSaved with ⟨rfl, rfl⟩
      refine
        ⟨hCache,
          ⟨.fromKey manager.masterKey manager.keyVersion, ?_,
            ⟨rfl, rfl⟩,
            KeyManager.cacheCurrent_fromKey _ _⟩,
          hFiled⟩
      rcases host with ⟨_, storage⟩
      cases hFiled with
      | current =>
          unfold step
          dsimp only
          rw [FileKeyStorage.loadKey_serialize]

/- The calls on the manager among those of a host. -/
def keyCalls
    (calls : List HostCall) : List KeyCall :=
  calls.filterMap HostCall.keyCall?

/-
  In a run whose restarts find the current key the host
  answers what the manager answers that goes on, and has its
  master key at the end.
-/
theorem mirrors_run
    {calls : List HostCall}
    (hMirrors : Mirrors saved manager host)
    (hSaved :
      Runs.AlongRun HostCall.savedAfter
        (fun saved call => call.RestartsSaved saved) saved
        calls)
    (hRange :
      manager.keyVersion.toNat +
          KeyHistory.rotationsIn (keyCalls calls) <
        2 ^ 32) :
    host.answers calls =
        (managerAnswers manager (keyCalls calls)).map
          some ∧
      Mirrors (Runs.run HostCall.savedAfter saved calls)
        (Runs.run goesOn manager calls)
        (Runs.run step host calls) ∧
      (Runs.run goesOn manager calls).keyVersion.toNat =
        manager.keyVersion.toNat +
          KeyHistory.rotationsIn (keyCalls calls) := by
  induction calls generalizing saved manager host with
  | nil => exact ⟨rfl, hMirrors, rfl⟩
  | cons call rest ih =>
      rcases hSaved with ⟨hCall, hRest⟩
      cases hKey : call.keyCall? with
      | none =>
          have hCalls :
              keyCalls (call :: rest) = keyCalls rest :=
            List.filterMap_cons_none hKey
          have hManager : goesOn manager call = manager := by
            cases call with
            | key keyCall => cases hKey
            | storeKey write permissions => rfl
            | deleteKey removal => rfl
            | restart read => rfl
          have hAnswers :
              host.answers (call :: rest) =
                (host.step call).answers rest := by
            cases call with
            | key keyCall => cases hKey
            | storeKey write permissions => rfl
            | deleteKey removal => rfl
            | restart read => rfl
          have hNext :=
            mirrors_step hMirrors call hCall
              (fun keyCall hSome => by
                rw [hKey] at hSome
                cases hSome)
          rw [hManager] at hNext
          rw [hCalls] at hRange
          have hLater := ih hNext hRest hRange
          rw [hCalls, hAnswers, Runs.run_cons,
            Runs.run_cons, Runs.run_cons, hManager]
          exact hLater
      | some keyCall =>
          have hCalls :
              keyCalls (call :: rest) =
                keyCall :: keyCalls rest :=
            List.filterMap_cons_some hKey
          have hCount :
              KeyHistory.rotationsIn
                  (keyCall :: keyCalls rest) =
                KeyHistory.rotationsIn (keyCalls rest) +
                  keyCall.rotations :=
            List.countP_cons
          rw [hCalls, hCount] at hRange
          have hFits :
              manager.keyVersion.toNat +
                  keyCall.rotations <
                2 ^ 32 := by
            omega
          have hNext :=
            mirrors_step hMirrors call hCall
              (fun other hSome => by
                rw [hKey] at hSome
                cases hSome
                exact hFits)
          have hVersion :=
            (keyCall.perform_spec hMirrors.cache
              hFits).keyVersion
          rcases hMirrors.running with
            ⟨own, hOwn, hSame, hCache⟩
          have hAnswer :=
            (perform_sameKey hSame hMirrors.cache hCache
              keyCall hFits).1
          cases call with
          | storeKey write permissions => cases hKey
          | deleteKey removal => cases hKey
          | restart read => cases hKey
          | key _ =>
              cases hKey
              rcases ih hNext hRest (by
                  rw [goesOn, hVersion]
                  omega) with
                ⟨hLater, hMirrors', hVersion'⟩
              refine ⟨?_, hMirrors', ?_⟩
              · rw [hCalls, answers_key, hLater, hOwn,
                  Option.map_some, hAnswer]
                rfl
              · rw [hCalls, hCount, Runs.run_cons,
                  hVersion', goesOn, hVersion]
                omega

/-
  A host whose restarts all find the current master key
  answers as a manager that is never restarted.
-/
theorem answers_run
    (masterKey : EncryptionKey)
    (keyVersion : UInt32)
    (calls : List HostCall)
    (hSaved :
      Runs.AlongRun HostCall.savedAfter
        (fun saved call => call.RestartsSaved saved) false
        calls)
    (hRange :
      keyVersion.toNat +
          KeyHistory.rotationsIn (keyCalls calls) <
        2 ^ 32) :
    (start masterKey keyVersion).answers calls =
      (managerAnswers (.fromKey masterKey keyVersion)
        (keyCalls calls)).map some :=
  (mirrors_run (mirrors_start masterKey keyVersion) hSaved
    hRange).1

omit [BuildProfile] [Sha256] [Aes256Gcm] in
/- The calls on a manager are all calls of its host. -/
@[simp] theorem keyCalls_map
    (calls : List KeyCall) :
    keyCalls (calls.map .key) = calls := by
  unfold keyCalls
  rw [List.filterMap_map]
  exact List.filterMap_some

omit [BuildProfile] [Sha256] [Aes256Gcm] in
/- Calls on the manager alone do not restart the host. -/
theorem restartsSaved_map
    (calls : List KeyCall)
    (saved : Bool) :
    Runs.AlongRun HostCall.savedAfter
      (fun saved call => call.RestartsSaved saved) saved
      (calls.map .key) := by
  apply Runs.alongRun_of_forall_mem
  intro call hCall state
  rcases List.mem_map.mp hCall with ⟨keyCall, _, rfl⟩
  trivial

omit [BuildProfile] in
/- A manager whose version is another one is told by data. -/
theorem decrypt_answer_ne
    (other : KeyManager)
    (hCache : manager.CacheCurrent)
    (hVersion : manager.keyVersion ≠ other.keyVersion)
    (nonce : NonceBytes) :
    (StateEncryptor.decrypt ""
        ⟨[], nonce, manager.keyVersion⟩ other).1 ≠
      (StateEncryptor.decrypt ""
        ⟨[], nonce, manager.keyVersion⟩ manager).1 := by
  rcases StateEncryptor.decrypt_of_version_eq hCache
      (rfl :
        (⟨[], nonce, manager.keyVersion⟩ :
            EncryptedData).keyVersion =
          manager.keyVersion)
      ""
    with ⟨after, hDecrypt, _, _⟩
  rw [hDecrypt,
    StateEncryptor.decrypt_of_version_ne hVersion]
  cases Aes256Gcm.decrypt (manager.currentKey "") nonce
      [] with
  | ok plaintext => exact nofun
  | error message => exact nofun

/- A key that was not saved is missed after a restart. -/
theorem exists_answer_ne
    (hMirrors : Mirrors false manager host) :
    ∃ call : KeyCall,
      call.rotates = false ∧
        (host.step (.restart (.ok ()))).answers
            [.key call] ≠
          host.answers [.key call] := by
  rcases hMirrors with
    ⟨_, ⟨own, hManager, hSame, hOwn⟩, hFiled⟩
  rcases host with ⟨_, storage⟩
  subst hManager
  -- Without a manager there is no answer at all.
  have hNone :
      (KeyHost.step ⟨some own, storage⟩
          (.restart (.ok ()))).manager =
        none →
      ∃ call : KeyCall,
        call.rotates = false ∧
          (KeyHost.step ⟨some own, storage⟩
              (.restart (.ok ()))).answers [.key call] ≠
            KeyHost.answers ⟨some own, storage⟩
              [.key call] := by
    intro hGone
    refine ⟨.deriveKey "", rfl, ?_⟩
    rw [answers_key, answers_key, hGone]
    exact nofun
  cases hFiled with
  | missing => exact hNone rfl
  | broken data hShort =>
      apply hNone
      unfold step
      dsimp only
      rw [FileKeyStorage.loadKey_of_length_ne
        (Nat.ne_of_lt hShort)]
  | earlier key version hEarlier =>
      have hLoaded :
          (KeyHost.step
              ⟨some own,
                ⟨some
                  (FileKeyStorage.serialize key version)⟩⟩
              (.restart (.ok ()))).manager =
            some (.fromKey key version) := by
        unfold step
        dsimp only
        rw [FileKeyStorage.loadKey_serialize]
      have hVersion : own.keyVersion ≠ version := by
        intro hOther
        rw [← hSame.keyVersion, hOther] at hEarlier
        exact Nat.lt_irrefl _ hEarlier
      refine
        ⟨.decrypt "" ⟨[], .replicate 12 0, own.keyVersion⟩,
          rfl, ?_⟩
      rw [answers_key, answers_key, hLoaded]
      intro hAnswers
      have hAnswer :=
        KeyAnswer.decrypted.inj
          (Option.some.inj (List.cons.inj hAnswers).1)
      exact
        decrypt_answer_ne (.fromKey key version) hOwn
          hVersion _ hAnswer

/-
  After a run whose restarts have all found the current
  master key, one more restart makes no difference to any
  later calls if and only if the current master key has been
  saved since the last rotation, and is still in the file.
-/
theorem restart_iff
    (masterKey : EncryptionKey)
    (keyVersion : UInt32)
    (calls : List HostCall)
    (hSaved :
      Runs.AlongRun HostCall.savedAfter
        (fun saved call => call.RestartsSaved saved) false
        calls)
    (hRange :
      keyVersion.toNat +
          KeyHistory.rotationsIn (keyCalls calls) <
        2 ^ 32) :
    (∀ more : List KeyCall,
        keyVersion.toNat +
              KeyHistory.rotationsIn (keyCalls calls) +
            KeyHistory.rotationsIn more <
          2 ^ 32 →
        ((Runs.run step (start masterKey keyVersion)
              calls).step
            (.restart (.ok ()))).answers (more.map .key) =
          (Runs.run step (start masterKey keyVersion)
            calls).answers (more.map .key)) ↔
      Runs.run HostCall.savedAfter false calls = true := by
  rcases mirrors_run (mirrors_start masterKey keyVersion)
      hSaved hRange with
    ⟨_, hMirrors, hVersion⟩
  change
    (Runs.run goesOn (.fromKey masterKey keyVersion)
        calls).keyVersion.toNat =
      keyVersion.toNat + _
    at hVersion
  constructor
  · intro hSame
    by_contra hNot
    rw [Bool.not_eq_true] at hNot
    rw [hNot] at hMirrors
    rcases exists_answer_ne hMirrors with
      ⟨call, hRotates, hDiffers⟩
    have hNone : KeyHistory.rotationsIn [call] = 0 := by
      rw [KeyHistory.rotationsIn, List.countP_singleton,
        hRotates]
      rfl
    apply hDiffers
    apply hSame [call]
    rw [hNone]
    exact hRange
  · intro hFiled more hMore
    rw [← hVersion] at hMore
    have hRestarted :=
      mirrors_step hMirrors (.restart (.ok ()))
        ⟨hFiled, rfl⟩ nofun
    have hThere :=
      mirrors_run hRestarted (restartsSaved_map more _)
        (by rw [keyCalls_map]; exact hMore)
    have hHere :=
      mirrors_run hMirrors (restartsSaved_map more _)
        (by rw [keyCalls_map]; exact hMore)
    exact hThere.1.trans hHere.1.symm

end KeyHost

end IsaWorkspace

------------------------------------------------------------
-- A Restart
------------------------------------------------------------

namespace IsaWorkspace

open RotationSample

namespace KeyStorageSample

/- A rotated key is stored before the host restarts. -/
def calls : List HostCall :=
  [.key (.encrypt "a" plaintext nonce), .key (.rotateKey ones),
    .storeKey .written (.ok ()), .restart (.ok ()),
    .key (.deriveKey "a")]

theorem saved_calls :
    Runs.AlongRun HostCall.savedAfter
      (fun saved call => call.RestartsSaved saved) false
      calls :=
  ⟨trivial, trivial, trivial, ⟨rfl, rfl⟩, trivial, trivial⟩

end KeyStorageSample

namespace KeyHost

open KeyStorageSample

theorem answers_sample :
    (start zeros 1).answers calls =
      (managerAnswers (.fromKey zeros 1)
        [.encrypt "a" plaintext nonce, .rotateKey ones,
          .deriveKey "a"]).map some :=
  answers_run zeros 1 calls saved_calls (by decide)

/- The host may restart once more, and derive the key. -/
theorem restart_sample :
    ((Runs.run step (start zeros 1) calls).step
        (.restart (.ok ()))).answers
          [.key (.deriveKey "a")] =
      (Runs.run step (start zeros 1) calls).answers
        [.key (.deriveKey "a")] :=
  (restart_iff zeros 1 calls saved_calls (by decide)).mpr
    rfl [.deriveKey "a"] (by decide)

end KeyHost

end IsaWorkspace
