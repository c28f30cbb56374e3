import IsaWorkspace.Api.Handlers
import IsaWorkspace.StateStore.Steps

/-
  From the text of a TTL to the expiration of a state.

  A TTL is multiplied in an unsigned word, and the word is
  read as a signed one when the state is stored.  Above the
  greatest date the store panics, except for words near the
  greatest one, which count as seconds before now.

  Main declarations:
    * `ttlValue`, `toNat_of_parseTtl`
    * `addSeconds_exact_iff`
    * `StateStore.HonoursTtl`
    * `StateStore.honoursTtl_iff`
-/

------------------------------------------------------------
-- Parsed Values
------------------------------------------------------------

namespace IsaWorkspace

/- The number of a TTL times the seconds of its unit. -/
def ttlValue
    (text : String) : Nat :=
  Numeral.value 10 (ttlDigits text) *
    ((parseTtlUnit (ttlUnit text)).map UInt64.toNat).getD 0

/- A product that is returned is the one of the words. -/
theorem toNat_of_checkedMul
    [BuildProfile]
    {left right product : UInt64}
    (hProduct : checkedMul left right = some product) :
    product.toNat = left.toNat * right.toNat % 2 ^ 64 := by
  have hWords : product = left * right := by
    unfold checkedMul at hProduct
    split at hProduct
    · exact (Option.some.inj hProduct).symm
    · split at hProduct
      · cases hProduct
      · exact (Option.some.inj hProduct).symm
  rw [hWords]
  exact UInt64.toNat_mul left right

/- What is parsed is the value of the text in one word. -/
theorem toNat_of_parseTtl
    [BuildProfile]
    {text : String}
    {seconds : UInt64}
    (hAccepted : parseTtl (some text) = .ok (some seconds)) :
    seconds.toNat = ttlValue text % 2 ^ 64 := by
  unfold parseTtl at hAccepted
  dsimp only at hAccepted
  split at hAccepted
  · cases hAccepted
  · split at hAccepted
    · cases hAccepted
    · split at hAccepted
      · cases hAccepted
      · next hWord =>
          split at hAccepted
          · cases hAccepted
          · next factor hFactor =>
              split at hAccepted
              · cases hAccepted
              · next product hProduct =>
                  cases hAccepted
                  rw [toNat_of_checkedMul hProduct]
                  unfold ttlValue
                  rw [hFactor, UInt64.toNat_ofNat_of_lt'
                    (Nat.lt_of_not_le hWord)]
                  rfl

------------------------------------------------------------
-- Dates
------------------------------------------------------------

/-
  An instant so many seconds later is exact if the number is
  what the word counts, and the instant is not out of range.
-/
theorem addSeconds_exact_iff
    (now : DateTime)
    {seconds : UInt64}
    {value : Nat}
    (hSeconds : seconds.toNat = value % 2 ^ 64) :
    (∃ expiration,
        now.addSeconds seconds.toInt64 = some expiration ∧
          expiration.nanos =
            now.nanos + value * 1000000000) ↔
      now.nanos + value * 1000000000 ≤
        8210266876799999999999 := by
  constructor
  · rintro ⟨expiration, _, hExact⟩
    rw [← hExact]
    exact expiration.inRange.2
  · intro hRange
    have hNow := now.inRange.1
    have hSmall : value < 2 ^ 62 := by omega
    have hWord : seconds.toNat = value := by
      rw [hSeconds]
      exact Nat.mod_eq_of_lt (by omega)
    have hSigned :
        seconds.toInt64.toInt = value := by
      have hHalf : 2 * seconds.toBitVec.toNat < 2 ^ 64 := by
        change 2 * seconds.toNat < 2 ^ 64
        omega
      exact
        (BitVec.toInt_eq_toNat_of_lt hHalf).trans
          (congrArg Nat.cast hWord)
    have hDuration :
        DateTime.durationSeconds seconds.toInt64 =
          some ((value : Int) * 1000000000) := by
      unfold DateTime.durationSeconds
      rw [hSigned, if_pos (by omega)]
    have hInRange :
        -8334601228800000000000 ≤
            now.nanos + value * 1000000000 ∧
          now.nanos + value * 1000000000 ≤
            8210266876799999999999 :=
      ⟨by omega, hRange⟩
    refine
      ⟨⟨now.nanos + value * 1000000000, hInRange⟩, ?_, rfl⟩
    unfold DateTime.addSeconds DateTime.ofNanos?
    rw [hDuration, Option.bind_some, dif_pos hInRange]

------------------------------------------------------------
-- Expirations
------------------------------------------------------------

namespace StateStore

variable {B : Type} [StorageBackendTrait B]
variable [Sha256] [SerdeJson State] [BuildProfile]

/-
  A state with the TTL of the text is stored, and expires
  exactly so much later than now: not before now, so that it
  is not collected.
-/
omit [BuildProfile] in
def HonoursTtl
    (now createdAt : DateTime)
    (state : State)
    (store : StateStore B)
    (text : String) : Prop :=
  state.metadata.ttlSeconds.map UInt64.toNat =
      some (ttlValue text) ∧
    ∃ stored expiration,
      (storeState now createdAt state store).1 = .ok stored ∧
        stored.expiresAt = some expiration ∧
        expiration.nanos =
          now.nanos + ttlValue text * 1000000000 ∧
        now ≤ expiration ∧
        isExpired now stored = false

omit [StorageBackendTrait B] [Sha256] [SerdeJson State]
  [BuildProfile] in
theorem expiresAt_some
    (now : DateTime)
    (seconds : UInt64) :
    expiresAt now (some seconds) =
      (now.addSeconds seconds.toInt64).map some := rfl

/- What is stored is the entry with its expiration. -/
omit [BuildProfile] in
theorem storeState_result
    {now createdAt : DateTime}
    {state : State}
    {store : StateStore B}
    {bytes : Bytes}
    (hJson : SerdeJson.toVec state = .ok bytes)
    (hPut :
      (StorageBackendTrait.put (computeHash bytes) bytes
        store.backend).1 = .ok ()) :
    (storeState now createdAt state store).1 =
      match expiresAt now state.metadata.ttlSeconds with
      | none => .panicked
      | some expiration =>
          .ok
            (newEntry createdAt expiration state
              (computeHash bytes) bytes) := by
  rw [storeState_eq, hJson]
  dsimp only
  rcases hCall :
      StorageBackendTrait.put (computeHash bytes) bytes
        store.backend with
    ⟨outcome, backend⟩
  rw [hCall] at hPut
  cases hPut
  dsimp only
  cases expiresAt now state.metadata.ttlSeconds <;> rfl

/-
  The TTL that is parsed is honoured exactly when the date
  so much later is in the range of dates.
-/
theorem honoursTtl_iff
    (text : String)
    (seconds : UInt64)
    (now createdAt : DateTime)
    (state : State)
    (store : StateStore B)
    (bytes : Bytes)
    (hAccepted : parseTtl (some text) = .ok (some seconds))
    (hTtl : state.metadata.ttlSeconds = some seconds)
    (hJson : SerdeJson.toVec state = .ok bytes)
    (hPut :
      (StorageBackendTrait.put (computeHash bytes) bytes
        store.backend).1 = .ok ()) :
    HonoursTtl now createdAt state store text ↔
      now.nanos + ttlValue text * 1000000000 ≤
        8210266876799999999999 := by
  have hValue := toNat_of_parseTtl hAccepted
  unfold HonoursTtl
  rw [storeState_result hJson hPut, hTtl,
    ← addSeconds_exact_iff now hValue]
  constructor
  · rintro ⟨_, stored, expiration, hStored, hExpires,
      hExact, _, _⟩
    refine ⟨expiration, ?_, hExact⟩
    rw [expiresAt_some] at hStored
    cases hDate : now.addSeconds seconds.toInt64 with
    | none =>
        rw [hDate] at hStored
        cases hStored
    | some date =>
        rw [hDate] at hStored
        cases hStored
        exact hExpires
  · rintro ⟨expiration, hDate, hExact⟩
    have hLater : now ≤ expiration := by
      change now.nanos ≤ expiration.nanos
      omega
    have hRange := expiration.inRange.2
    have hNow := now.inRange.1
    have hWord : seconds.toNat = ttlValue text := by
      rw [hValue]
      exact Nat.mod_eq_of_lt (by omega)
    refine
      ⟨congrArg some hWord,
        newEntry createdAt (some expiration) state
          (computeHash bytes) bytes,
        expiration, ?_, rfl, hExact, hLater, ?_⟩
    · rw [expiresAt_some, hDate]
      rfl
    · apply decide_eq_false
      rintro ⟨hEarlier, _⟩
      exact absurd hLater (Int.not_le.mpr hEarlier)

end StateStore

end IsaWorkspace

namespace IsaWorkspace

namespace StateStore

open Sample in
/- Of sixty seconds the state expires a minute later. -/
theorem honoursTtl_minute :
    HonoursTtl epoch epoch first
      (StateStore.new ⟨2⟩ MemoryBackend.new) "60s" := by
  apply
    (honoursTtl_iff "60s" 60 epoch epoch first
      (StateStore.new ⟨2⟩ MemoryBackend.new) firstJson
      (by decide +kernel) rfl toVec_first rfl).mpr
  decide +kernel

/- A TTL of an hour less than a word can count. -/
def wrappedText : String :=
  "18446744073709548016s"

def wrappedState : State :=
  Sample.state "a" "first" (some 18446744073709548016)

def wrappedJson : Bytes :=
  Sample.json "a" "first" "18446744073709548016"

/- The digest of the JSON of that state. -/
@[reducible] def wrappedSha256 : Sha256 where
  digest _ :=
    digestOf
      0xf7bfe1a44d8f558a488046ca8f55b9eb6536154ad0d89064276cc09e281cdaba

@[reducible] def wrappedSerde : SerdeJson State where
  toVec _ := .ok wrappedJson
  fromSlice _ := .ok wrappedState

def hourAgo : DateTime :=
  ⟨-3600000000000, by decide⟩

def wrappedEntry : StoredState :=
  newEntry .unixEpoch (some hourAgo) wrappedState
    (@computeHash wrappedSha256 wrappedJson) wrappedJson

/- What is stored at the epoch expires an hour before it. -/
theorem storeState_wrapped :
    (@storeState MemoryBackend _ wrappedSha256 wrappedSerde
        .unixEpoch .unixEpoch wrappedState
        (StateStore.new ⟨2⟩ MemoryBackend.new)).1 =
      .ok wrappedEntry := by
  refine
    (@storeState_result MemoryBackend _ wrappedSha256
      wrappedSerde _ _ _ _ wrappedJson rfl rfl).trans ?_
  have hDate :
      expiresAt .unixEpoch
          wrappedState.metadata.ttlSeconds =
        some (some hourAgo) := by
    decide +kernel
  rw [hDate]
  rfl

/- It is parsed, and the state has expired at once. -/
theorem honoursTtl_wrapped :
    @parseTtl ⟨true⟩ (some wrappedText) =
        .ok (some 18446744073709548016) ∧
      ¬ @HonoursTtl MemoryBackend _ wrappedSha256
        wrappedSerde .unixEpoch .unixEpoch wrappedState
        (StateStore.new ⟨2⟩ MemoryBackend.new)
        wrappedText := by
  refine ⟨by decide +kernel, ?_⟩
  rintro ⟨_, stored, expiration, hStored, hExpires, _,
    hLater, _⟩
  rw [storeState_wrapped] at hStored
  cases hStored
  cases hExpires
  revert hLater
  decide

end StateStore

end IsaWorkspace
