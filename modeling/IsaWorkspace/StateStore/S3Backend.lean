import IsaWorkspace.StateStore.Backend

/-
  The S3 storage backend.

  A cache stands in front of objects that HTTP requests
  reach.  A key names an object through the URL that is made
  of it.  What the server does with a request, and whether
  its response comes back, is up to the reply.

  Main declarations:
    * `S3Config`, `S3Config.buildUrl`
    * `UrlParser`, `S3Config.target`
    * `S3Method`, `ErrorStatus`, `S3Reply`
    * `S3Backend.put`, `get`, `delete`, `objectExists`
    * `S3Backend.sendChange_after`, `sendChange_ok_iff`
    * `S3Backend.put_frame`, `delete_frame`
    * `S3Backend.answer`, `get_served_iff`, `answer_get`
-/

------------------------------------------------------------
-- URLs
------------------------------------------------------------

namespace IsaWorkspace

/- S3 configuration. -/
structure S3Config where
  endpoint : String
  bucket : String
  pathStyle : Bool
  useHttps : Bool
deriving DecidableEq

/-
  The URL library: what a text that is a URL requests, and
  nothing for any other text.
-/
class UrlParser where
  parse : String → Option String

namespace S3Config

/- The default: an object store on this machine. -/
def default : S3Config where
  endpoint := "http://localhost:9000"
  bucket := "isa-states"
  pathStyle := true
  useHttps := false

/- A text without the given characters at its end. -/
def trimEndMatches
    (char : Char)
    (text : String) : String :=
  String.ofList
    (text.toList.reverse.dropWhile (· = char)).reverse

/- A text without so many of the given texts at its start. -/
def dropPrefixes
    (start : List Char) :
    Nat → List Char → List Char
| 0, text => text
| times + 1, text =>
    if start.isPrefixOf text then
      dropPrefixes start times (text.drop start.length)
    else
      text

/- A text without any of the given texts at its start. -/
def trimStartMatches
    (start : String)
    (text : String) : String :=
  String.ofList
    (dropPrefixes start.toList text.length text.toList)

/-
  Build the S3 URL for a key, with its first two bytes for
  sharding; `none` is a panic where they end in a character.
-/
def buildUrl
    (config : S3Config)
    (key : String) : Option String :=
  let shard :=
    if 2 ≤ key.utf8ByteSize then
      (LocalBackend.byteSlice 2 key.toList).map String.ofList
    else
      some "xx"
  shard.map fun shard =>
    if config.pathStyle then
      trimEndMatches '/' config.endpoint ++ "/" ++
        config.bucket ++ "/" ++ shard ++ "/" ++ key
    else
      (if config.useHttps then "https" else "http") ++
        "://" ++
        trimStartMatches "https://"
          (trimStartMatches "http://" config.endpoint) ++
        "/" ++ config.bucket ++
        (if '.' ∈ config.endpoint.toList then "" else ".") ++
        "/" ++ (shard ++ "/" ++ key)

/- What is requested for a key, if anything can be. -/
def target
    [UrlParser]
    (config : S3Config)
    (key : String) : Option String :=
  (config.buildUrl key).bind UrlParser.parse

end S3Config

end IsaWorkspace

------------------------------------------------------------
-- Requests
------------------------------------------------------------

namespace IsaWorkspace

/- The requests that are sent. -/
inductive S3Method where
  | put
  | get
  | delete
  | head

/- A method as it stands in the texts of errors. -/
def S3Method.text : S3Method → String
| put => "PUT"
| get => "GET"
| delete => "DELETE"
| head => "HEAD"

/-
  The statuses that a call does not take for a refusal: any
  success, and that of no object where that is expected.  A
  get takes one status for a success.
-/
def S3Method.takes
    (method : S3Method)
    (code : Nat) : Bool :=
  match method with
  | put | head => 200 ≤ code && code < 300
  | get => code = 200 || code = 404
  | delete => (200 ≤ code && code < 300) || code = 404

/- A status that a call takes for a refusal. -/
structure ErrorStatus (method : S3Method) where
  code : Nat
  reason : String
  notTaken : method.takes code = false

/- A status as it is printed. -/
def ErrorStatus.text
    {method : S3Method}
    (status : ErrorStatus method) : String :=
  toString status.code ++ " " ++ status.reason

/-
  What becomes of a request.  One that fails may have been
  carried out all the same.
-/
inductive S3Reply (method : S3Method) where
  | served
  | brokenOff (message : String)
  | refused
      (status : ErrorStatus method)
      (body : String)
      (applied : Bool)
  | unreachable (message : String) (applied : Bool)

namespace S3Reply

variable {method : S3Method}

/- The server has carried the request out. -/
def applies : S3Reply method → Bool
| served => true
| brokenOff _ => true
| refused _ _ applied => applied
| unreachable _ applied => applied

/- What a call returns that only looks at the status. -/
def outcome : S3Reply method → Outcome StateStoreError Unit
| served => .ok ()
| brokenOff _ => .ok ()
| refused status body _ =>
    .err
      (.ioError
        ("S3 " ++ method.text ++ " failed with status " ++
          status.text ++ ": " ++ body))
| unreachable message _ =>
    .err
      (.ioError
        ("S3 " ++ method.text ++ " failed: " ++ message))

/- The response is a success. -/
def succeeds : S3Reply method → Bool
| served => true
| brokenOff _ => true
| refused _ _ _ => false
| unreachable _ _ => false

theorem outcome_ok_iff
    (reply : S3Reply method) :
    reply.outcome = .ok () ↔ reply.succeeds = true := by
  cases reply with
  | served => exact iff_of_true rfl rfl
  | brokenOff message => exact iff_of_true rfl rfl
  | refused status body applied =>
      exact
        iff_of_false (fun hOk => by cases hOk)
          (fun hTrue => by cases hTrue)
  | unreachable message applied =>
      exact
        iff_of_false (fun hOk => by cases hOk)
          (fun hTrue => by cases hTrue)

end S3Reply

------------------------------------------------------------
-- Calls
------------------------------------------------------------

/-
  S3 backend for state storage, with the objects that its
  client reaches.
-/
structure S3Backend where
  config : S3Config
  client : HashMap String Bytes
  cache : HashMap String Bytes

namespace S3Backend

variable [UrlParser]

/-
  Send a request that changes an object.  The cache is
  changed before it is sent.
-/
def sendChange
    {method : S3Method}
    (reply : S3Reply method)
    (key : String)
    (touch : HashMap String Bytes → HashMap String Bytes)
    (change :
      String → HashMap String Bytes →
        HashMap String Bytes) :
    Exec S3Backend StateStoreError Unit := do
  let backend ← Exec.read
  let url ← Exec.orPanic (backend.config.buildUrl key)
  Exec.update fun backend =>
    { backend with cache := touch backend.cache }
  -- the host of the URL goes into a header
  let target ← Exec.orPanic (UrlParser.parse url)
  Exec.update fun backend =>
    if reply.applies then
      { backend with client := change target backend.client }
    else
      backend
  Exec.ofOutcome (reply.outcome)

/- Put an object to S3. -/
def put
    (reply : S3Reply .put)
    (key : String)
    (data : Bytes) :
    Exec S3Backend StateStoreError Unit :=
  sendChange reply key (·.insert key data)
    fun target client => client.insert target data

/- Get an object from S3. -/
def get
    (reply : S3Reply .get)
    (key : String) :
    Exec S3Backend StateStoreError Bytes := do
  let backend ← Exec.read
  match backend.cache.lookup key with
  | some data => pure data
  | none => do
      let url ← Exec.orPanic (backend.config.buildUrl key)
      let target ← Exec.orPanic (UrlParser.parse url)
      match reply with
      | .unreachable message _ =>
          Exec.fail (.ioError ("S3 GET failed: " ++ message))
      | .refused status body _ =>
          Exec.fail
            (.ioError
              ("S3 GET failed with status " ++ status.text ++
                ": " ++ body))
      | .brokenOff message =>
          match backend.client.lookup target with
          | some _ =>
              Exec.fail
                (.ioError ("S3 GET read failed: " ++ message))
          | none =>
              Exec.fail
                (.notFound ("S3 object not found: " ++ key))
      | .served =>
          match backend.client.lookup target with
          | some data => do
              Exec.update fun backend =>
                { backend with
                  cache := backend.cache.insert key data }
              pure data
          | none =>
              Exec.fail
                (.notFound ("S3 object not found: " ++ key))

/- Delete an object from S3. -/
def delete
    (reply : S3Reply .delete)
    (key : String) :
    Exec S3Backend StateStoreError Unit :=
  sendChange reply key (·.erase key)
    fun target client => client.erase target

/- Check if an object exists. -/
def objectExists
    (reply : S3Reply .head)
    (key : String) :
    Exec S3Backend StateStoreError Bool := do
  let backend ← Exec.read
  match backend.cache.lookup key with
  | some _ => pure true
  | none => do
      let url ← Exec.orPanic (backend.config.buildUrl key)
      let target ← Exec.orPanic (UrlParser.parse url)
      match reply with
      | .unreachable message _ =>
          Exec.fail
            (.ioError ("S3 HEAD failed: " ++ message))
      | .refused _ _ _ => pure false
      | .brokenOff _ =>
          pure (backend.client.lookup target).isSome
      | .served =>
          pure (backend.client.lookup target).isSome

------------------------------------------------------------
-- What Calls Do
------------------------------------------------------------

/- The object that a request has changed, if any. -/
def changed
    {method : S3Method}
    (backend : S3Backend)
    (reply : S3Reply method)
    (key : String) : Option String :=
  if reply.applies then backend.config.target key else none

section Changes

variable {method : S3Method} {reply : S3Reply method}
variable {key : String}
variable
  {touch : HashMap String Bytes → HashMap String Bytes}
variable
  {change :
    String → HashMap String Bytes → HashMap String Bytes}
variable {backend : S3Backend}

/- Without a URL nothing happens. -/
theorem sendChange_of_no_url
    (hUrl : backend.config.buildUrl key = none) :
    sendChange reply key touch change backend =
      (.panicked, backend) := by
  unfold sendChange
  rw [Exec.read_bind_apply, hUrl]
  rfl

/- What is no URL is found out after the cache is changed. -/
theorem sendChange_of_bad_url
    {url : String}
    (hUrl : backend.config.buildUrl key = some url)
    (hParse : UrlParser.parse url = none) :
    sendChange reply key touch change backend =
      (.panicked,
        { backend with cache := touch backend.cache }) := by
  unfold sendChange
  rw [Exec.read_bind_apply, hUrl, Exec.orPanic_some,
    Exec.pure_bind_apply, Exec.update_bind_apply, hParse]
  rfl

/- A request is sent with the cache changed. -/
theorem sendChange_of_target
    {target : String}
    (hTarget : backend.config.target key = some target) :
    sendChange reply key touch change backend =
      (reply.outcome,
        { backend with
          cache := touch backend.cache
          client :=
            if reply.applies then
              change target backend.client
            else
              backend.client }) := by
  rcases Option.bind_eq_some_iff.mp hTarget with
    ⟨url, hUrl, hParse⟩
  unfold sendChange
  rw [Exec.read_bind_apply, hUrl, Exec.orPanic_some,
    Exec.pure_bind_apply, Exec.update_bind_apply, hParse,
    Exec.orPanic_some, Exec.pure_bind_apply,
    Exec.update_bind_apply, Exec.ofOutcome_apply]
  cases reply.applies with
  | false => rfl
  | true => rfl

/- The cache is changed, and the object where there is one. -/
theorem sendChange_after
    (hUrl : backend.config.buildUrl key ≠ none) :
    (sendChange reply key touch change backend).2 =
      { backend with
        cache := touch backend.cache
        client :=
          match backend.changed reply key with
          | some target => change target backend.client
          | none => backend.client } := by
  rcases Option.ne_none_iff_exists'.mp hUrl with
    ⟨url, hBuild⟩
  unfold changed
  cases hTarget : backend.config.target key with
  | none =>
      have hParse : UrlParser.parse url = none := by
        unfold S3Config.target at hTarget
        rw [hBuild] at hTarget
        exact hTarget
      rw [sendChange_of_bad_url hBuild hParse, ite_self]
  | some target =>
      rw [sendChange_of_target hTarget]
      cases reply.applies with
      | false => rfl
      | true => rfl

/- It succeeds if there is a URL and the response does. -/
theorem sendChange_ok_iff :
    (sendChange reply key touch change backend).1 =
        .ok () ↔
      backend.config.target key ≠ none ∧
        reply.succeeds = true := by
  cases hTarget : backend.config.target key with
  | none =>
      refine iff_of_false ?_ fun hBoth => hBoth.1 rfl
      cases hUrl : backend.config.buildUrl key with
      | none =>
          rw [sendChange_of_no_url hUrl]
          exact fun hOk => by cases hOk
      | some url =>
          have hParse : UrlParser.parse url = none := by
            unfold S3Config.target at hTarget
            rw [hUrl] at hTarget
            exact hTarget
          rw [sendChange_of_bad_url hUrl hParse]
          exact fun hOk => by cases hOk
  | some target =>
      rw [sendChange_of_target hTarget,
        reply.outcome_ok_iff]
      exact (and_iff_right (Option.some_ne_none _)).symm

/- Only what has a URL is reported to have failed. -/
theorem target_of_sendChange_err
    {error : StateStoreError}
    (hError :
      (sendChange reply key touch change backend).1 =
        .err error) :
    ∃ target, backend.config.target key = some target := by
  cases hUrl : backend.config.buildUrl key with
  | none =>
      rw [sendChange_of_no_url hUrl] at hError
      cases hError
  | some url =>
      cases hParse : UrlParser.parse url with
      | none =>
          rw [sendChange_of_bad_url hUrl hParse] at hError
          cases hError
      | some target =>
          refine ⟨target, ?_⟩
          unfold S3Config.target
          rw [hUrl]
          exact hParse

end Changes

section Frames

variable {backend : S3Backend} {key : String}
variable (hUrl : backend.config.buildUrl key ≠ none)
include hUrl

/- What a put leaves behind, however it ends. -/
theorem put_frame
    (reply : S3Reply .put)
    (data : Bytes) :
    (put reply key data backend).2.config =
        backend.config ∧
      (put reply key data backend).2.cache =
          backend.cache.insert key data ∧
        ∀ target,
          (put reply key data backend).2.client.lookup
              target =
            if backend.changed reply key = some target then
              some data
            else
              backend.client.lookup target := by
  unfold put
  rw [sendChange_after hUrl]
  refine ⟨rfl, rfl, ?_⟩
  intro target
  cases backend.changed reply key with
  | none => rfl
  | some changed =>
      dsimp only
      rw [HashMap.lookup_insert_eq_ite]
      simp only [Option.some_inj, eq_comm]

/- What a delete leaves behind, however it ends. -/
theorem delete_frame
    (reply : S3Reply .delete) :
    (delete reply key backend).2.config = backend.config ∧
      (delete reply key backend).2.cache =
          backend.cache.erase key ∧
        ∀ target,
          (delete reply key backend).2.client.lookup target =
            if backend.changed reply key = some target then
              none
            else
              backend.client.lookup target := by
  unfold delete
  rw [sendChange_after hUrl]
  refine ⟨rfl, rfl, ?_⟩
  intro target
  cases backend.changed reply key with
  | none => rfl
  | some changed =>
      dsimp only
      rw [HashMap.lookup_erase_eq_ite]
      simp only [Option.some_inj, eq_comm]

end Frames

------------------------------------------------------------
-- What Calls Answer
------------------------------------------------------------

variable {backend : S3Backend} {key : String}

/- The data that is cached or else stored for a key. -/
def answer
    (backend : S3Backend)
    (key : String) : Option Bytes :=
  (backend.cache.lookup key).or
    ((backend.config.target key).bind backend.client.lookup)

/- A request that is served returns what there is. -/
theorem get_served_iff
    {data : Bytes} :
    (get .served key backend).1 = .ok data ↔
      backend.answer key = some data := by
  unfold get answer
  rw [Exec.read_bind_apply]
  cases hCache : backend.cache.lookup key with
  | some cached =>
      dsimp only
      rw [Option.some_or, Option.some_inj]
      exact
        ⟨fun hOk => by cases hOk; rfl,
          fun hSame => by cases hSame; rfl⟩
  | none =>
      dsimp only
      rw [Option.none_or]
      unfold S3Config.target
      cases hUrl : backend.config.buildUrl key with
      | none =>
          exact
            iff_of_false (fun hOk => by cases hOk)
              (fun hNone => by cases hNone)
      | some url =>
          rw [Exec.orPanic_some, Exec.pure_bind_apply,
            Option.bind_some]
          cases hParse : UrlParser.parse url with
          | none =>
              exact
                iff_of_false (fun hOk => by cases hOk)
                  (fun hNone => by cases hNone)
          | some target =>
              rw [Exec.orPanic_some, Exec.pure_bind_apply,
                Option.bind_some]
              cases hObject : backend.client.lookup target with
              | none =>
                  exact
                    iff_of_false (fun hOk => by cases hOk)
                      (fun hNone => by cases hNone)
              | some stored =>
                  rw [Option.some_inj]
                  exact
                    ⟨fun hOk => by cases hOk; rfl,
                      fun hSame => by cases hSame; rfl⟩

/- What is cached is returned, whatever the network does. -/
theorem get_of_cached
    (reply : S3Reply .get)
    {data : Bytes}
    (hCache : backend.cache.lookup key = some data) :
    get reply key backend = (.ok data, backend) := by
  unfold get
  rw [Exec.read_bind_apply, hCache]
  rfl

/- What is not cached is not returned without the network. -/
theorem get_unreachable_ne_ok
    (hCache : backend.cache.lookup key = none)
    (message : String)
    (applied : Bool)
    (data : Bytes) :
    (get (.unreachable message applied) key backend).1 ≠
      .ok data := by
  unfold get
  rw [Exec.read_bind_apply, hCache]
  dsimp only
  cases backend.config.buildUrl key with
  | none => exact fun hOk => by cases hOk
  | some url =>
      rw [Exec.orPanic_some, Exec.pure_bind_apply]
      cases UrlParser.parse url with
      | none => exact fun hOk => by cases hOk
      | some target => exact fun hOk => by cases hOk

/- A get may cache what it has found, and nothing else. -/
theorem get_after
    (reply : S3Reply .get)
    (key : String)
    (backend : S3Backend) :
    (get reply key backend).2 = backend ∨
      ∃ target data,
        backend.cache.lookup key = none ∧
          backend.config.target key = some target ∧
            backend.client.lookup target = some data ∧
              (get reply key backend).2 =
                { backend with
                  cache := backend.cache.insert key data } := by
  cases hCache : backend.cache.lookup key with
  | some cached =>
      left
      rw [get_of_cached reply hCache]
  | none =>
      unfold get S3Config.target
      rw [Exec.read_bind_apply, hCache]
      dsimp only
      cases backend.config.buildUrl key with
      | none => exact Or.inl rfl
      | some url =>
          rw [Exec.orPanic_some, Exec.pure_bind_apply,
            Option.bind_some]
          cases UrlParser.parse url with
          | none => exact Or.inl rfl
          | some target =>
              rw [Exec.orPanic_some, Exec.pure_bind_apply]
              cases hObject :
                  backend.client.lookup target with
              | none =>
                  left
                  cases reply <;> rfl
              | some data =>
                  cases reply with
                  | served =>
                      exact
                        Or.inr
                          ⟨target, data, rfl, rfl, hObject,
                            rfl⟩
                  | brokenOff message => exact Or.inl rfl
                  | refused status body applied =>
                      exact Or.inl rfl
                  | unreachable message applied =>
                      exact Or.inl rfl

/- A get changes no answer. -/
theorem answer_get
    (reply : S3Reply .get)
    (key other : String)
    (backend : S3Backend) :
    (get reply key backend).2.answer other =
      backend.answer other := by
  rcases get_after reply key backend with
    hSame | ⟨target, data, hCache, hTarget, hObject, hAfter⟩
  · rw [hSame]
  · rw [hAfter]
    unfold answer
    dsimp only
    rw [HashMap.lookup_insert_eq_ite]
    by_cases hOther : other = key
    · rw [if_pos hOther, hOther, hCache, hTarget,
        Option.bind_some, hObject]
      rfl
    · rw [if_neg hOther]

/- Asking whether an object exists changes nothing. -/
theorem objectExists_after
    (reply : S3Reply .head)
    (key : String)
    (backend : S3Backend) :
    (objectExists reply key backend).2 = backend := by
  unfold objectExists
  rw [Exec.read_bind_apply]
  cases backend.cache.lookup key with
  | some cached => rfl
  | none =>
      dsimp only
      cases backend.config.buildUrl key with
      | none => rfl
      | some url =>
          rw [Exec.orPanic_some, Exec.pure_bind_apply]
          cases UrlParser.parse url with
          | none => rfl
          | some target => cases reply <;> rfl

end S3Backend

end IsaWorkspace
