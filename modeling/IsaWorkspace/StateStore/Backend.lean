import IsaWorkspace.Foundations.Exec
import IsaWorkspace.Foundations.HashMap
import IsaWorkspace.Foundations.Hex

/-
  Storage backends of the state store.

  A backend is a type of backend states with three calls on
  it.  `MemoryBackend` keeps a map and never fails.
  `LocalBackend` keeps one file per key through the file
  calls of a `FileSystem`, each of which may fail.

  Main declarations:
    * `StateStoreError`
    * `StorageBackendTrait`
    * `MemoryBackend`
    * `FileSystem`, `LocalBackend`
    * `LawfulBackend`
-/

------------------------------------------------------------
-- The Backend Interface
------------------------------------------------------------

namespace IsaWorkspace

inductive StateStoreError where
  | ioError (message : String)
  | serializationError (message : String)
  | notFound (message : String)
  | alreadyExists (message : String)
  | corrupted (message : String)
deriving DecidableEq, Repr

/- The calls the store makes on its backend. -/
class StorageBackendTrait (B : Type) where
  put : String → Bytes → Exec B StateStoreError Unit
  get : String → Exec B StateStoreError Bytes
  delete : String → Exec B StateStoreError Unit

end IsaWorkspace

------------------------------------------------------------
-- Memory Backend
------------------------------------------------------------

namespace IsaWorkspace

/- In-memory backend. -/
structure MemoryBackend where
  store : HashMap String Bytes

namespace MemoryBackend

def new : MemoryBackend where
  store := ∅

def put
    (key : String)
    (data : Bytes) :
    Exec MemoryBackend StateStoreError Unit :=
  Exec.update fun backend =>
    { backend with store := backend.store.insert key data }

def get
    (key : String) :
    Exec MemoryBackend StateStoreError Bytes := do
  let backend ← Exec.read
  match backend.store.lookup key with
  | some data => pure data
  | none =>
      Exec.fail
        (.notFound ("Key " ++ key ++ " not found"))

def delete
    (key : String) :
    Exec MemoryBackend StateStoreError Unit :=
  Exec.update fun backend =>
    { backend with store := backend.store.erase key }

instance : StorageBackendTrait MemoryBackend where
  put := put
  get := get
  delete := delete

end MemoryBackend

end IsaWorkspace

------------------------------------------------------------
-- Local Backend
------------------------------------------------------------

namespace IsaWorkspace

/-
  The file calls the local backend makes.  Each may fail with
  a system message, and `F` is whatever state they act on.
-/
class FileSystem (F : Type) where
  createDirAll : String → Exec F String Unit
  write : String → Bytes → Exec F String Unit
  read : String → Exec F String Bytes
  removeFile : String → Exec F String Unit

/- Local filesystem backend. -/
structure LocalBackend (F : Type) where
  basePath : String
  files : F

namespace LocalBackend

/-
  The first `count` bytes of a text; `none` is the panic of
  a slice that ends inside a character.
-/
def byteSlice
    (count : Nat) :
    List Char → Option (List Char)
| [] => if count = 0 then some [] else none
| char :: rest =>
    if count = 0 then
      some []
    else if char.utf8Size ≤ count then
      (byteSlice (count - char.utf8Size) rest).map
        (char :: ·)
    else
      none

/- Characters of one byte each are sliced off in front. -/
theorem byteSlice_append
    {front : List Char}
    (rest : List Char)
    (hFront : ∀ char ∈ front, char.utf8Size = 1) :
    byteSlice front.length (front ++ rest) =
      some front := by
  induction front with
  | nil => cases rest <;> rfl
  | cons char others ih =>
      have hChar := hFront char List.mem_cons_self
      have hOthers :=
        ih fun other hOther =>
          hFront other (List.mem_cons_of_mem char hOther)
      rw [List.length_cons, List.cons_append]
      unfold byteSlice
      rw [if_neg (Nat.succ_ne_zero _), hChar,
        if_pos (Nat.le_add_left 1 _), Nat.add_sub_cancel,
        hOthers]
      rfl

theorem prefix_of_byteSlice
    {count : Nat}
    {chars front : List Char}
    (hSlice : byteSlice count chars = some front) :
    front <+: chars := by
  induction chars generalizing count front with
  | nil =>
      unfold byteSlice at hSlice
      split at hSlice
      · cases hSlice
        exact List.nil_prefix
      · cases hSlice
  | cons char rest ih =>
      unfold byteSlice at hSlice
      split at hSlice
      · cases hSlice
        exact List.nil_prefix
      · split at hSlice
        · rcases Option.map_eq_some_iff.mp hSlice with
            ⟨others, hOthers, rfl⟩
          exact (List.prefix_cons_inj char).mpr (ih hOthers)
        · cases hSlice

/- Whether a path starts at the root. -/
def isAbsolute
    (path : String) : Bool :=
  path.toList.head? = some '/'

/- An absolute second part replaces the first one. -/
def join
    (base part : String) : String :=
  if isAbsolute part then part
  else if base = "" ∨ base.toList.getLast? = some '/' then
    base ++ part
  else
    base ++ "/" ++ part

/-
  The named parts of a path.  A dot counts only at the start
  of a relative path.
-/
def components
    (path : String) : List (List Char) :=
  match path.toList.splitOn '/' with
  | [] => []
  | first :: rest =>
      (if first = [] then [] else [first]) ++
        rest.filter fun part =>
          decide (part ≠ [] ∧ part ≠ ['.'])

/- A path without its last part. -/
def parent
    (path : String) : Option String :=
  match components path with
  | [] => none
  | parts =>
      some
        (String.ofList
          ((if isAbsolute path then ['/'] else []) ++
            ['/'].intercalate parts.dropLast))

/-
  The file of a key.  Keys of two bytes or more go into a
  directory named by their first two bytes.
-/
def keyToPath
    (basePath key : String) : Option String :=
  if 2 ≤ key.utf8ByteSize then
    (byteSlice 2 key.toList).map fun dir =>
      join (join basePath (String.ofList dir)) key
  else
    some (join basePath key)

variable {F : Type} [FileSystem F]

/- Make a file call on the backend's files. -/
def onFiles
    {α : Type}
    (describe : String → String)
    (call : Exec F String α) :
    Exec (LocalBackend F) StateStoreError α :=
  Exec.mapErr (fun message => .ioError (describe message))
    (Exec.onPart LocalBackend.files
      (fun backend files => { backend with files := files })
      call)

/- The file of a key under this backend's base path. -/
def pathOf
    (key : String) :
    Exec (LocalBackend F) StateStoreError String := do
  let backend ← Exec.read
  Exec.orPanic (keyToPath backend.basePath key)

def put
    (key : String)
    (data : Bytes) :
    Exec (LocalBackend F) StateStoreError Unit := do
  let path ← pathOf key
  match parent path with
  | none => pure ()
  | some dir =>
      onFiles ("Failed to create dir: " ++ ·)
        (FileSystem.createDirAll dir)
  onFiles
    (fun message =>
      "Failed to write " ++ path ++ ": " ++ message)
    (FileSystem.write path data)

def get
    (key : String) :
    Exec (LocalBackend F) StateStoreError Bytes := do
  let path ← pathOf key
  onFiles
    (fun message =>
      "Failed to read " ++ path ++ ": " ++ message)
    (FileSystem.read path)

def delete
    (key : String) :
    Exec (LocalBackend F) StateStoreError Unit := do
  let path ← pathOf key
  onFiles
    (fun message =>
      "Failed to delete " ++ path ++ ": " ++ message)
    (FileSystem.removeFile path)

instance : StorageBackendTrait (LocalBackend F) where
  put := put
  get := get
  delete := delete

end LocalBackend

end IsaWorkspace

------------------------------------------------------------
-- Lawful Backends
------------------------------------------------------------

namespace IsaWorkspace

/-
  A backend that behaves as a map from keys to bytes.  Any
  call may fail, and one that does not return leaves the
  stored objects as they were.
-/
class LawfulBackend (B : Type)
    extends StorageBackendTrait B where
  contents : B → HashMap String Bytes
  contents_put :
    ∀ key data backend,
      contents (put key data backend).2 =
        if (put key data backend).1 = .ok () then
          (contents backend).insert key data
        else
          contents backend
  contents_get :
    ∀ key backend,
      contents (get key backend).2 = contents backend
  lookup_of_get :
    ∀ key backend data,
      (get key backend).1 = .ok data →
        (contents backend).lookup key = some data
  contents_delete :
    ∀ key backend,
      contents (delete key backend).2 =
        if (delete key backend).1 = .ok () then
          (contents backend).erase key
        else
          contents backend

namespace LawfulBackend

variable {B : Type} [LawfulBackend B]

/- A put that returned stored the object. -/
theorem contents_of_put_ok
    {key : String}
    {data : Bytes}
    {backend backend' : B}
    {done : Unit}
    (hPut :
      StorageBackendTrait.put key data backend =
        (.ok done, backend')) :
    contents backend' =
      (contents backend).insert key data := by
  have hContents := contents_put key data backend
  rw [hPut] at hContents
  simpa using hContents

/- A put that did not return stored nothing. -/
theorem contents_of_put_failed
    {key : String}
    {data : Bytes}
    {backend backend' : B}
    {outcome : Outcome StateStoreError Unit}
    (hPut :
      StorageBackendTrait.put key data backend =
        (outcome, backend'))
    (hFailed : outcome ≠ .ok ()) :
    contents backend' = contents backend := by
  have hContents := contents_put key data backend
  rw [hPut] at hContents
  simpa [hFailed] using hContents

/- Reading leaves the stored objects alone. -/
theorem contents_of_get
    {key : String}
    {backend backend' : B}
    {outcome : Outcome StateStoreError Bytes}
    (hGet :
      StorageBackendTrait.get key backend =
        (outcome, backend')) :
    contents backend' = contents backend := by
  have hContents := contents_get key backend
  rwa [hGet] at hContents

/- A get that returned found its object. -/
theorem lookup_of_get_ok
    {key : String}
    {data : Bytes}
    {backend backend' : B}
    (hGet :
      StorageBackendTrait.get key backend =
        (.ok data, backend')) :
    (contents backend).lookup key = some data := by
  apply lookup_of_get key backend data
  rw [hGet]

/- A delete that returned removed the object. -/
theorem contents_of_delete_ok
    {key : String}
    {backend backend' : B}
    {done : Unit}
    (hDelete :
      StorageBackendTrait.delete key backend =
        (.ok done, backend')) :
    contents backend' = (contents backend).erase key := by
  have hContents := contents_delete key backend
  rw [hDelete] at hContents
  simpa using hContents

/- A delete that did not return removed nothing. -/
theorem contents_of_delete_failed
    {key : String}
    {backend backend' : B}
    {outcome : Outcome StateStoreError Unit}
    (hDelete :
      StorageBackendTrait.delete key backend =
        (outcome, backend'))
    (hFailed : outcome ≠ .ok ()) :
    contents backend' = contents backend := by
  have hContents := contents_delete key backend
  rw [hDelete] at hContents
  simpa [hFailed] using hContents

end LawfulBackend

namespace MemoryBackend

@[simp] theorem put_apply
    (key : String)
    (data : Bytes)
    (backend : MemoryBackend) :
    StorageBackendTrait.put key data backend =
      (.ok (),
        { store := backend.store.insert key data }) := rfl

theorem get_apply
    (key : String)
    (backend : MemoryBackend) :
    StorageBackendTrait.get key backend =
      match backend.store.lookup key with
      | some data => (.ok data, backend)
      | none =>
          (.err (.notFound ("Key " ++ key ++ " not found")),
            backend) := by
  cases hLookup : backend.store.lookup key with
  | none =>
      simp [StorageBackendTrait.get, get, hLookup]
  | some data =>
      simp [StorageBackendTrait.get, get, hLookup]

@[simp] theorem delete_apply
    (key : String)
    (backend : MemoryBackend) :
    StorageBackendTrait.delete key backend =
      (.ok (),
        { store := backend.store.erase key }) := rfl

/- The memory backend is lawful and never fails to write. -/
instance : LawfulBackend MemoryBackend where
  contents := MemoryBackend.store
  contents_put := by
    intro key data backend
    simp
  contents_get := by
    intro key backend
    rw [get_apply]
    cases backend.store.lookup key <;> rfl
  lookup_of_get := by
    intro key backend data hGet
    rw [get_apply] at hGet
    cases hLookup : backend.store.lookup key with
    | none => simp [hLookup] at hGet
    | some found => simpa [hLookup] using hGet
  contents_delete := by
    intro key backend
    simp

end MemoryBackend

end IsaWorkspace
