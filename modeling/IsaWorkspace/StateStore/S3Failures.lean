import IsaWorkspace.Foundations.Runs
import IsaWorkspace.StateStore.S3Backend

/-
  Failed requests of the S3 backend.

  The cache is changed before a request is sent and stays so
  when the request fails: a put that failed is served from
  the cache, a delete that failed is looked up again.  What
  a key answers goes wrong exactly there, or where another
  key has the same URL.

  Main declarations:
    * `S3Op`, `S3Backend.Alike`
    * `S3Backend.alike_put_iff`, `alike_delete_iff`
    * `S3History`, `S3History.Serves`
    * `S3History.KeepsServing`
    * `S3History.serves_step_iff`
    * `S3Backend.failuresInvisible_iff`
-/

------------------------------------------------------------
-- Invisible Calls
------------------------------------------------------------

namespace IsaWorkspace

/- The calls on an S3 backend, with the server's replies. -/
inductive S3Op where
  | put (reply : S3Reply .put) (key : String) (data : Bytes)
  | get (reply : S3Reply .get) (key : String)
  | delete (reply : S3Reply .delete) (key : String)
  | objectExists (reply : S3Reply .head) (key : String)

namespace S3Backend

variable [UrlParser]

/- The backend after a call, whatever that returns. -/
def apply
    (backend : S3Backend) : S3Op → S3Backend
| .put reply key data => (put reply key data backend).2
| .get reply key => (get reply key backend).2
| .delete reply key => (delete reply key backend).2
| .objectExists reply key =>
    (objectExists reply key backend).2

/-
  From now on a key is answered alike by both backends, after
  any calls and for any replies.
-/
def Alike
    (backend other : S3Backend)
    (key : String) : Prop :=
  ∀ ops onGet onHead,
    (get onGet key (Runs.run apply backend ops)).1 =
        (get onGet key (Runs.run apply other ops)).1 ∧
      (objectExists onHead key
            (Runs.run apply backend ops)).1 =
        (objectExists onHead key (Runs.run apply other ops)).1

variable {backend : S3Backend} {key : String} {data : Bytes}
variable {error : StateStoreError}

theorem Alike.refl
    (backend : S3Backend)
    (key : String) :
    Alike backend backend key :=
  fun _ _ _ => ⟨rfl, rfl⟩

/- A put that failed is not seen if its data was cached. -/
theorem alike_put_iff
    {reply : S3Reply .put}
    (hError : (put reply key data backend).1 = .err error)
    (hSame :
      (put reply key data backend).2.client =
        backend.client) :
    Alike (put reply key data backend).2 backend key ↔
      backend.cache.lookup key = some data := by
  rcases target_of_sendChange_err hError with
    ⟨target, hTarget⟩
  have hAfter :
      (put reply key data backend).2 =
        { backend with
          cache := backend.cache.insert key data } := by
    have hClient := hSame
    unfold put at hClient ⊢
    rw [sendChange_of_target hTarget] at hClient ⊢
    dsimp only at hClient ⊢
    rw [hClient]
  rw [hAfter]
  constructor
  · intro hAlike
    have hNow :=
      (hAlike [] (.unreachable "" false)
        (.unreachable "" false)).1
    have hCached :
        ({ backend with
            cache :=
              backend.cache.insert key
                data } : S3Backend).cache.lookup key =
          some data :=
      Finmap.lookup_insert _
    change
      (get _ key { backend with cache := _ }).1 =
        (get _ key backend).1 at hNow
    rw [get_of_cached _ hCached] at hNow
    cases hBefore : backend.cache.lookup key with
    | none =>
        exact
          absurd hNow.symm
            (get_unreachable_ne_ok hBefore "" false data)
    | some cached =>
        rw [get_of_cached _ hBefore] at hNow
        cases hNow
        rfl
  · intro hCached
    have hInsert :
        backend.cache.insert key data = backend.cache :=
      HashMap.insert_lookup hCached
    rw [hInsert]
    exact Alike.refl backend key

/- A delete that failed is not seen if nothing was cached. -/
theorem alike_delete_iff
    {reply : S3Reply .delete}
    (hError : (delete reply key backend).1 = .err error)
    (hSame :
      (delete reply key backend).2.client =
        backend.client) :
    Alike (delete reply key backend).2 backend key ↔
      backend.cache.lookup key = none := by
  rcases target_of_sendChange_err hError with
    ⟨target, hTarget⟩
  have hAfter :
      (delete reply key backend).2 =
        { backend with cache := backend.cache.erase key } := by
    have hClient := hSame
    unfold delete at hClient ⊢
    rw [sendChange_of_target hTarget] at hClient ⊢
    dsimp only at hClient ⊢
    rw [hClient]
  rw [hAfter]
  constructor
  · intro hAlike
    have hNow :=
      (hAlike [] (.unreachable "" false)
        (.unreachable "" false)).1
    change
      (get _ key { backend with cache := _ }).1 =
        (get _ key backend).1 at hNow
    cases hBefore : backend.cache.lookup key with
    | none => rfl
    | some cached =>
        have hErased :
            ({ backend with
                cache :=
                  backend.cache.erase
                    key } : S3Backend).cache.lookup key =
              none :=
          Finmap.lookup_erase _ _
        rw [get_of_cached _ hBefore] at hNow
        exact
          absurd hNow
            (get_unreachable_ne_ok hErased "" false cached)
  · intro hMissing
    have hErase :
        backend.cache.erase key = backend.cache :=
      HashMap.erase_of_lookup_none hMissing
    rw [hErase]
    exact Alike.refl backend key

end S3Backend

------------------------------------------------------------
-- What Was Stored
------------------------------------------------------------

/-
  A backend, and for each key the data of the last put that
  succeeded, if no delete has succeeded since.
-/
structure S3History where
  backend : S3Backend
  stored : HashMap String Bytes

namespace S3History

variable [UrlParser]

/- What is stored after a call. -/
def storedAfter
    (history : S3History) : S3Op → HashMap String Bytes
| .put reply key data =>
    if (S3Backend.put reply key data history.backend).1 =
        .ok () then
      history.stored.insert key data
    else
      history.stored
| .delete reply key =>
    if (S3Backend.delete reply key history.backend).1 =
        .ok () then
      history.stored.erase key
    else
      history.stored
| .get _ _ => history.stored
| .objectExists _ _ => history.stored

/- Make a call and take note of what it stores. -/
def step
    (history : S3History)
    (op : S3Op) : S3History where
  backend := history.backend.apply op
  stored := history.storedAfter op

/- What was stored is returned when a request is served. -/
def Serves
    (history : S3History) : Prop :=
  ∀ key data,
    history.stored.lookup key = some data →
      (S3Backend.get .served key history.backend).1 =
        .ok data

/-
  No other key that was stored and is not cached has the URL
  of the object that is changed, or it has the new data.
-/
def SparesOthers
    {method : S3Method}
    (history : S3History)
    (reply : S3Reply method)
    (key : String)
    (object : Option Bytes) : Prop :=
  ∀ target other data,
    history.backend.changed reply key = some target →
      other ≠ key →
        history.backend.config.target other = some target →
          history.backend.cache.lookup other = none →
            history.stored.lookup other = some data →
              object = some data

/- A request is sent for a key, and its response succeeds. -/
def Succeeds
    {method : S3Method}
    (history : S3History)
    (reply : S3Reply method)
    (key : String) : Prop :=
  history.backend.config.target key ≠ none ∧
    reply.succeeds = true

instance
    {method : S3Method}
    (history : S3History)
    (reply : S3Reply method)
    (key : String) :
    Decidable (history.Succeeds reply key) :=
  inferInstanceAs (Decidable (_ ∧ _))

/-
  A put that fails is of the data stored already.  A delete
  that fails leaves the object there.  None of them changes
  what another key is answered with.
-/
def KeepsServing
    (history : S3History) : S3Op → Prop
| .put reply key data =>
    history.backend.config.buildUrl key ≠ none →
      (¬ history.Succeeds reply key →
          ∀ stored,
            history.stored.lookup key = some stored →
              stored = data) ∧
        history.SparesOthers reply key (some data)
| .delete reply key =>
    history.backend.config.buildUrl key ≠ none →
      (¬ history.Succeeds reply key →
          ∀ stored,
            history.stored.lookup key = some stored →
              ∃ target,
                history.backend.config.target key =
                    some target ∧
                  reply.applies = false ∧
                    history.backend.client.lookup target =
                      some stored) ∧
        history.SparesOthers reply key none
| .get _ _ => True
| .objectExists _ _ => True

------------------------------------------------------------
-- Single Calls
------------------------------------------------------------

variable {history : S3History}

theorem serves_iff :
    history.Serves ↔
      ∀ key data,
        history.stored.lookup key = some data →
          history.backend.answer key = some data := by
  unfold Serves
  simp only [S3Backend.get_served_iff]

section Changes

variable {after : S3Backend} {stored : HashMap String Bytes}
variable {method : S3Method} {reply : S3Reply method}
variable {key : String}
variable {object : Option Bytes}

/- What a change of one object leaves of another key. -/
theorem answer_other_iff
    (hConfig : after.config = history.backend.config)
    (hCache :
      ∀ other ≠ key,
        after.cache.lookup other =
          history.backend.cache.lookup other)
    (hClient :
      ∀ target,
        after.client.lookup target =
          if history.backend.changed reply key =
              some target then
            object
          else
            history.backend.client.lookup target)
    {other : String}
    (hOther : other ≠ key)
    {data : Bytes}
    (hBefore :
      history.backend.answer other = some data) :
    after.answer other = some data ↔
      ∀ target,
        history.backend.changed reply key = some target →
          history.backend.config.target other =
              some target →
            history.backend.cache.lookup other = none →
              object = some data := by
  unfold S3Backend.answer at hBefore ⊢
  rw [hConfig, hCache other hOther]
  cases hCached : history.backend.cache.lookup other with
  | some cached =>
      rw [hCached, Option.some_or] at hBefore
      rw [Option.some_or]
      refine iff_of_true hBefore ?_
      intro _ _ _ hNone
      cases hNone
  | none =>
      rw [hCached, Option.none_or] at hBefore
      rw [Option.none_or]
      cases hTarget :
          history.backend.config.target other with
      | none =>
          rw [hTarget] at hBefore
          cases hBefore
      | some target =>
          rw [hTarget, Option.bind_some] at hBefore
          rw [Option.bind_some, hClient target]
          by_cases hChanged :
              history.backend.changed reply key = some target
          · rw [if_pos hChanged]
            constructor
            · intro hObject _ _ _ _
              exact hObject
            · intro hAll
              exact hAll target hChanged rfl rfl
          · rw [if_neg hChanged]
            refine iff_of_true hBefore ?_
            intro found hFound hSame _
            cases hSame
            exact absurd hFound hChanged

/- A change of one object, with its key apart. -/
theorem serves_change_iff
    (hServes : history.Serves)
    (hConfig : after.config = history.backend.config)
    (hCache :
      ∀ other ≠ key,
        after.cache.lookup other =
          history.backend.cache.lookup other)
    (hClient :
      ∀ target,
        after.client.lookup target =
          if history.backend.changed reply key =
              some target then
            object
          else
            history.backend.client.lookup target)
    (hStored :
      ∀ other ≠ key,
        stored.lookup other = history.stored.lookup other) :
    Serves ⟨after, stored⟩ ↔
      (∀ data,
          stored.lookup key = some data →
            after.answer key = some data) ∧
        history.SparesOthers reply key object := by
  have hOther :
      ∀ other ≠ key, ∀ data,
        history.stored.lookup other = some data →
          (after.answer other = some data ↔
            ∀ target,
              history.backend.changed reply key =
                  some target →
                history.backend.config.target other =
                    some target →
                  history.backend.cache.lookup other =
                      none →
                    object = some data) :=
    fun other hNe data hThere =>
      answer_other_iff hConfig hCache hClient hNe
        (serves_iff.mp hServes other data hThere)
  rw [serves_iff]
  constructor
  · intro hAfter
    refine ⟨hAfter key, ?_⟩
    intro target other data hChanged hNe hTarget hNone hThere
    have hAnswer :=
      hAfter other data ((hStored other hNe).trans hThere)
    exact
      (hOther other hNe data hThere).mp hAnswer target
        hChanged hTarget hNone
  · rintro ⟨hKey, hSpares⟩ other data hThere
    by_cases hNe : other = key
    · rw [hNe] at hThere ⊢
      exact hKey data hThere
    · rw [hStored other hNe] at hThere
      apply (hOther other hNe data hThere).mpr
      intro target hChanged hTarget hNone
      exact
        hSpares target other data hChanged hNe hTarget hNone
          hThere

end Changes

/- Without a URL a call that changes objects does nothing. -/
theorem step_of_no_url
    {key : String}
    (hUrl : history.backend.config.buildUrl key = none) :
    (∀ reply data,
        history.step (.put reply key data) = history) ∧
      ∀ reply,
        history.step (.delete reply key) = history := by
  constructor
  · intro reply data
    unfold step storedAfter S3Backend.apply S3Backend.put
    simp only [S3Backend.sendChange_of_no_url hUrl]
    rfl
  · intro reply
    unfold step storedAfter S3Backend.apply S3Backend.delete
    simp only [S3Backend.sendChange_of_no_url hUrl]
    rfl

/- What a call stores is under its own key. -/
theorem lookup_storedAfter_other
    (key : String)
    {other : String}
    (hOther : other ≠ key) :
    (∀ reply data,
        (history.storedAfter (.put reply key data)).lookup
            other =
          history.stored.lookup other) ∧
      ∀ reply,
        (history.storedAfter (.delete reply key)).lookup
            other =
          history.stored.lookup other := by
  constructor
  · intro reply data
    change Finmap.lookup other (if _ then _ else _) = _
    split
    · exact Finmap.lookup_insert_of_ne _ hOther
    · rfl
  · intro reply
    change Finmap.lookup other (if _ then _ else _) = _
    split
    · exact Finmap.lookup_erase_ne hOther
    · rfl

theorem lookup_storedAfter_put
    (reply : S3Reply .put)
    (key : String)
    (data : Bytes) :
    (history.storedAfter (.put reply key data)).lookup key =
      if history.Succeeds reply key then
        some data
      else
        history.stored.lookup key := by
  have hOk :
      (S3Backend.put reply key data history.backend).1 =
          .ok () ↔
        history.Succeeds reply key :=
    S3Backend.sendChange_ok_iff
  change Finmap.lookup key (if _ then _ else _) = _
  by_cases hSucceeds : history.Succeeds reply key
  · rw [if_pos hSucceeds, if_pos (hOk.mpr hSucceeds)]
    exact Finmap.lookup_insert _
  · rw [if_neg hSucceeds, if_neg (mt hOk.mp hSucceeds)]

theorem lookup_storedAfter_delete
    (reply : S3Reply .delete)
    (key : String) :
    (history.storedAfter (.delete reply key)).lookup key =
      if history.Succeeds reply key then
        none
      else
        history.stored.lookup key := by
  have hOk :
      (S3Backend.delete reply key history.backend).1 =
          .ok () ↔
        history.Succeeds reply key :=
    S3Backend.sendChange_ok_iff
  change Finmap.lookup key (if _ then _ else _) = _
  by_cases hSucceeds : history.Succeeds reply key
  · rw [if_pos hSucceeds, if_pos (hOk.mpr hSucceeds)]
    exact Finmap.lookup_erase _ _
  · rw [if_neg hSucceeds, if_neg (mt hOk.mp hSucceeds)]

/- A put serves its own data from then on. -/
theorem serves_put_iff
    (hServes : history.Serves)
    (reply : S3Reply .put)
    (key : String)
    (data : Bytes) :
    (history.step (.put reply key data)).Serves ↔
      history.KeepsServing (.put reply key data) := by
  by_cases hUrl : history.backend.config.buildUrl key = none
  · rw [(step_of_no_url hUrl).1 reply data]
    exact iff_of_true hServes fun hNot => absurd hUrl hNot
  · rcases S3Backend.put_frame hUrl reply data with
      ⟨hConfig, hCache, hClient⟩
    have hAnswer :
        (S3Backend.put reply key data
            history.backend).2.answer key =
          some data := by
      unfold S3Backend.answer
      rw [hCache, Finmap.lookup_insert, Option.some_or]
    have hStep :
        (history.step (.put reply key data)).Serves ↔
          (∀ found,
              (history.storedAfter
                    (.put reply key data)).lookup key =
                  some found →
                (S3Backend.put reply key data
                      history.backend).2.answer key =
                  some found) ∧
            history.SparesOthers reply key (some data) := by
      refine serves_change_iff hServes hConfig ?_ hClient ?_
      · intro other hOther
        exact
          (congrArg (Finmap.lookup other) hCache).trans
            (Finmap.lookup_insert_of_ne _ hOther)
      · intro other hOther
        exact
          (lookup_storedAfter_other key hOther).1 reply data
    rw [hStep, hAnswer, lookup_storedAfter_put]
    change _ ↔ (_ → _ ∧ _)
    rw [forall_prop_of_true hUrl]
    apply and_congr_left
    intro _
    by_cases hSucceeds : history.Succeeds reply key
    · rw [if_pos hSucceeds]
      exact
        iff_of_true (fun _ hSame => hSame)
          fun hNot => absurd hSucceeds hNot
    · rw [if_neg hSucceeds, forall_prop_of_true hSucceeds]
      simp only [Option.some_inj, eq_comm]

/- A delete that fails has the object looked up again. -/
theorem serves_delete_iff
    (hServes : history.Serves)
    (reply : S3Reply .delete)
    (key : String) :
    (history.step (.delete reply key)).Serves ↔
      history.KeepsServing (.delete reply key) := by
  by_cases hUrl : history.backend.config.buildUrl key = none
  · rw [(step_of_no_url hUrl).2 reply]
    exact iff_of_true hServes fun hNot => absurd hUrl hNot
  · rcases S3Backend.delete_frame hUrl reply with
      ⟨hConfig, hCache, hClient⟩
    have hAnswer :
        ∀ found,
          (S3Backend.delete reply key
                history.backend).2.answer key =
              some found ↔
            ∃ target,
              history.backend.config.target key =
                  some target ∧
                reply.applies = false ∧
                  history.backend.client.lookup target =
                    some found := by
      intro found
      unfold S3Backend.answer
      rw [hCache, hConfig, Finmap.lookup_erase,
        Option.none_or, Option.bind_eq_some_iff]
      apply exists_congr
      intro target
      apply and_congr_right
      intro hTarget
      rw [hClient target]
      unfold S3Backend.changed
      rw [hTarget]
      cases reply.applies with
      | true => simp
      | false => simp
    have hStep :
        (history.step (.delete reply key)).Serves ↔
          (∀ found,
              (history.storedAfter
                    (.delete reply key)).lookup key =
                  some found →
                (S3Backend.delete reply key
                      history.backend).2.answer key =
                  some found) ∧
            history.SparesOthers reply key none := by
      refine serves_change_iff hServes hConfig ?_ hClient ?_
      · intro other hOther
        exact
          (congrArg (Finmap.lookup other) hCache).trans
            (Finmap.lookup_erase_ne hOther)
      · intro other hOther
        exact (lookup_storedAfter_other key hOther).2 reply
    rw [hStep, lookup_storedAfter_delete]
    simp only [hAnswer]
    change _ ↔ (_ → _ ∧ _)
    rw [forall_prop_of_true hUrl]
    apply and_congr_left
    intro _
    by_cases hSucceeds : history.Succeeds reply key
    · rw [if_pos hSucceeds]
      refine iff_of_true ?_ fun hNot => absurd hSucceeds hNot
      intro found hNone
      cases hNone
    · rw [if_neg hSucceeds, forall_prop_of_true hSucceeds]

/- The condition decides whether a call keeps serving. -/
theorem serves_step_iff
    (op : S3Op)
    (hServes : history.Serves) :
    (history.step op).Serves ↔ history.KeepsServing op := by
  cases op with
  | put reply key data =>
      exact serves_put_iff hServes reply key data
  | delete reply key =>
      exact serves_delete_iff hServes reply key
  | get reply key =>
      refine iff_of_true ?_ trivial
      apply serves_iff.mpr
      intro other data hStored
      exact
        (S3Backend.answer_get reply key other
            history.backend).trans
          (serves_iff.mp hServes other data hStored)
  | objectExists reply key =>
      refine iff_of_true ?_ trivial
      apply serves_iff.mpr
      intro other data hStored
      have hSame :=
        S3Backend.objectExists_after reply key
          history.backend
      have hAfter :
          (history.step (.objectExists reply key)).backend =
            history.backend := hSame
      rw [hAfter]
      exact serves_iff.mp hServes other data hStored

end S3History

------------------------------------------------------------
-- Failures
------------------------------------------------------------

/-
  A put that fails and changes no object is not seen exactly
  when its data was cached already, and a delete when nothing
  was cached.  In a run, what was stored is served exactly as
  long as every call meets the condition.
-/
theorem S3Backend.failuresInvisible_iff
    [UrlParser]
    (backend : S3Backend) :
    (∀ reply key data error,
        (put reply key data backend).1 = .err error →
          (put reply key data backend).2.client =
              backend.client →
            (Alike (put reply key data backend).2 backend
                key ↔
              backend.cache.lookup key = some data)) ∧
      (∀ reply key error,
        (delete reply key backend).1 = .err error →
          (delete reply key backend).2.client =
              backend.client →
            (Alike (delete reply key backend).2 backend
                key ↔
              backend.cache.lookup key = none)) ∧
        ∀ ops,
          Runs.Throughout S3History.step S3History.Serves
              ⟨backend, ∅⟩ ops ↔
            Runs.AlongRun S3History.step
              S3History.KeepsServing ⟨backend, ∅⟩ ops := by
  refine ⟨?_, ?_, ?_⟩
  · intro reply key data error hError hSame
    exact alike_put_iff hError hSame
  · intro reply key error hError hSame
    exact alike_delete_iff hError hSame
  · intro ops
    apply
      Runs.throughout_iff_alongRun fun _ op hServes =>
        S3History.serves_step_iff op hServes
    intro key data hStored
    cases hStored

end IsaWorkspace

------------------------------------------------------------
-- Sample Failures
------------------------------------------------------------

namespace IsaWorkspace

namespace S3Sample

/- Plain URLs are requested as they are. -/
scoped instance : UrlParser where
  parse url := some url

/- An empty backend of an empty bucket. -/
def empty : S3Backend :=
  ⟨S3Config.default, ∅, ∅⟩

/- The server cannot be reached. -/
def offline
    {method : S3Method} : S3Reply method :=
  .unreachable "error sending request" false

end S3Sample

open S3Sample

namespace S3Backend

/- The conditions for an empty backend. -/
theorem failuresInvisible_empty :
    ((put offline "ab" [1] empty).1 =
          .err
            (.ioError
              "S3 PUT failed: error sending request") ∧
        (put offline "ab" [1] empty).2.client = ∅ ∧
          (Alike (put offline "ab" [1] empty).2 empty "ab" ↔
            empty.cache.lookup "ab" = some [1])) ∧
      ((delete offline "ab" empty).1 =
            .err
              (.ioError
                "S3 DELETE failed: error sending request") ∧
          (Alike (delete offline "ab" empty).2 empty "ab" ↔
            empty.cache.lookup "ab" = none)) := by
  rcases failuresInvisible_iff empty with ⟨hPut, hDelete, _⟩
  exact
    ⟨⟨rfl, rfl, hPut offline "ab" [1] _ rfl rfl⟩, rfl,
      hDelete offline "ab" _ rfl rfl⟩

/-
  A put that failed is served from the cache, and another
  one takes the place of what was stored before.
-/
theorem failuresInvisible_offline :
    (¬ Alike (put offline "ab" [1] empty).2 empty "ab") ∧
      ¬ Runs.Throughout S3History.step S3History.Serves
        ⟨empty, ∅⟩
        [.put .served "ab" [1], .put offline "ab" [2]] := by
  constructor
  · intro hAlike
    have hCached :=
      (alike_put_iff rfl rfl).mp hAlike
    cases hCached
  · intro hRun
    have hLast := hRun.last "ab" [1]
    have hStored :
        (Runs.run S3History.step ⟨empty, ∅⟩
              [.put .served "ab" [1],
                .put offline "ab" [2]]).stored.lookup "ab" =
          some [1] := by
      decide +kernel
    have hAnswer :
        (get .served "ab"
            (Runs.run S3History.step ⟨empty, ∅⟩
              [.put .served "ab" [1],
                .put offline "ab" [2]]).backend).1 =
          .ok [2] := by
      decide +kernel
    rw [hAnswer] at hLast
    cases hLast hStored

end S3Backend

end IsaWorkspace
