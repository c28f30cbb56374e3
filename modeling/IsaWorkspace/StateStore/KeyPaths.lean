import IsaWorkspace.Foundations.PathWalk
import IsaWorkspace.StateStore.Operations

/-
  Where the local backend puts its keys.

  A key is a relative path of its own, and its first two
  bytes are one, too.  The file of a key is below the base
  path if the moves of both never go above their start.  The
  text of a key is checked nowhere.

  Main declarations:
    * `LocalBackend.location`, `LocalBackend.location_join`
    * `LocalBackend.SafeKeys`, `LocalBackend.WellPlaced`
    * `LocalBackend.safeKeys_iff`
    * `LocalBackend.safeKeys_hashes`
-/

------------------------------------------------------------
-- Locations
------------------------------------------------------------

namespace IsaWorkspace

namespace LocalBackend

open PathWalk

/- What a part of a path does; a dot stays in its place. -/
def move
    (part : List Char) : Option (Move (List Char)) :=
  if part = [] ∨ part = ['.'] then
    none
  else if part = ['.', '.'] then
    some .up
  else
    some (.down part)

def moves
    (path : String) : List (Move (List Char)) :=
  (components path).filterMap move

/-
  Where a path leads from a working directory, read by its
  text alone.
-/
def location
    (workingDir : List (List Char))
    (path : String) : List (List Char) :=
  walk (if isAbsolute path then [] else workingDir)
    (moves path)

/- Empty parts and dots do not matter for moves. -/
theorem moves_eq
    (path : String) :
    moves path =
      (path.toList.splitOn '/').filterMap move := by
  unfold moves components
  cases path.toList.splitOn '/' with
  | nil => rfl
  | cons first rest =>
      have hRest :
          (rest.filter fun part =>
              decide (part ≠ [] ∧ part ≠ ['.'])).filterMap
              move =
            rest.filterMap move := by
        rw [List.filterMap_filter]
        apply List.filterMap_congr
        intro part _
        split
        · rfl
        · next hStay =>
            unfold move
            rw [decide_eq_true_iff, not_and_or, not_not,
              not_not] at hStay
            rw [if_pos hStay]
      dsimp only
      rw [List.filterMap_append, hRest]
      by_cases hEmpty : first = []
      · rw [if_pos hEmpty, hEmpty]
        rfl
      · rw [if_neg hEmpty]
        exact List.filterMap_append.symm

/- Moves around a separator. -/
theorem filterMap_move_splitOn
    (front rest : List Char) :
    ((front ++ '/' :: rest).splitOn '/').filterMap move =
      (front.splitOn '/').filterMap move ++
        (rest.splitOn '/').filterMap move := by
  rw [List.splitOn_append_cons_self, List.filterMap_append]

/- A relative part is appended behind one separator. -/
theorem join_relative
    {base part : String}
    (hPart : isAbsolute part = false) :
    join base part =
      if base = "" ∨ base.toList.getLast? = some '/' then
        base ++ part
      else
        base ++ "/" ++ part := by
  unfold join
  rw [if_neg (Bool.eq_false_iff.mp hPart)]

/- Parts that are joined are moved along in order. -/
theorem moves_join
    {base part : String}
    (hPart : isAbsolute part = false) :
    moves (join base part) = moves base ++ moves part := by
  rw [join_relative hPart, moves_eq, moves_eq base,
    moves_eq part]
  by_cases hBase :
      base = "" ∨ base.toList.getLast? = some '/'
  · rw [if_pos hBase, String.toList_append]
    rcases hBase with rfl | hSlash
    · rfl
    · rcases List.getLast?_eq_some_iff.mp hSlash with
        ⟨front, hFront⟩
      rw [hFront, List.append_assoc, List.singleton_append,
        filterMap_move_splitOn, filterMap_move_splitOn]
      change _ = (_ ++ []) ++ _
      rw [List.append_nil]
  · rw [if_neg hBase, String.toList_append,
      String.toList_append, List.append_assoc]
    exact filterMap_move_splitOn base.toList part.toList

theorem isAbsolute_join
    {base part : String}
    (hPart : isAbsolute part = false) :
    isAbsolute (join base part) = isAbsolute base := by
  rw [join_relative hPart]
  by_cases hEmpty : base = ""
  · rw [if_pos (Or.inl hEmpty), hEmpty, String.empty_append,
      hPart]
    rfl
  · have hSome : base.toList ≠ [] := by
      rwa [Ne, String.toList_eq_nil_iff]
    have hHead (others : List Char) :
        (base.toList ++ others).head? = base.toList.head? :=
      List.head?_append_of_ne_nil _ hSome
    unfold isAbsolute
    split
    · rw [String.toList_append, hHead]
    · rw [String.toList_append, String.toList_append,
        List.append_assoc, hHead]

/- A relative part is walked from where the base leads. -/
theorem location_join
    (workingDir : List (List Char))
    {base part : String}
    (hPart : isAbsolute part = false) :
    location workingDir (join base part) =
      walk (location workingDir base) (moves part) := by
  unfold location
  rw [isAbsolute_join hPart, moves_join hPart, walk_append]

end LocalBackend

end IsaWorkspace

------------------------------------------------------------
-- Safe Keys
------------------------------------------------------------

namespace IsaWorkspace

namespace LocalBackend

open PathWalk

/-
  Keys whose files are below the base path wherever that is,
  and are neither the same nor one below the other.
-/
structure SafeKeys
    (keys : Set String) : Prop where
  confined :
    ∀ key ∈ keys, ∀ workingDir basePath,
      ∃ path,
        keyToPath basePath key = some path ∧
          location workingDir basePath <+:
            location workingDir path ∧
          location workingDir path ≠
            location workingDir basePath
  apart :
    ∀ key ∈ keys, ∀ other ∈ keys, key ≠ other →
      ∀ workingDir basePath path otherPath,
        keyToPath basePath key = some path →
          keyToPath basePath other = some otherPath →
            ¬ location workingDir path <+:
              location workingDir otherPath

/-
  The moves of a key, those of its first two bytes included;
  `none` where two bytes end inside a character.
-/
def keyMoves
    (key : String) : Option (List (Move (List Char))) :=
  if 2 ≤ key.utf8ByteSize then
    (byteSlice 2 key.toList).map fun dir =>
      moves (String.ofList dir) ++ moves key
  else
    some (moves key)

/- The names a relative key leads to without going above. -/
def keyNames
    (key : String) : Option (List (List Char)) :=
  if isAbsolute key then none
  else (keyMoves key).bind (reach [])

/-
  Relative keys that lead to a name, and never to the same
  names or on from the names of another key.
-/
structure WellPlaced
    (keys : Set String) : Prop where
  named :
    ∀ key ∈ keys,
      ∃ names, keyNames key = some names ∧ names ≠ []
  apart :
    ∀ key ∈ keys, ∀ other ∈ keys, key ≠ other →
      ∀ names otherNames,
        keyNames key = some names →
          keyNames other = some otherNames →
            ¬ names <+: otherNames

------------------------------------------------------------
-- Paths of Keys
------------------------------------------------------------

/- The front of a relative path is relative. -/
theorem isAbsolute_front
    {key : String}
    {front : List Char}
    (hKey : isAbsolute key = false)
    (hFront : front <+: key.toList) :
    isAbsolute (String.ofList front) = false := by
  apply decide_eq_false
  rw [String.toList_ofList]
  intro hHead
  rcases hFront with ⟨rest, hRest⟩
  apply of_decide_eq_false hKey
  rw [← hRest, List.head?_append, hHead]
  rfl

/- A slice that panics leaves no path. -/
theorem keyToPath_none
    {key : String}
    (basePath : String)
    (hMoves : keyMoves key = none) :
    keyToPath basePath key = none := by
  unfold keyMoves at hMoves
  unfold keyToPath
  split at hMoves
  · next hLong =>
      rw [if_pos hLong, Option.map_eq_none_iff.mp hMoves]
      rfl
  · cases hMoves

/- An absolute key is its own path. -/
theorem keyToPath_absolute
    {key path : String}
    {basePath : String}
    (hKey : isAbsolute key = true)
    (hPath : keyToPath basePath key = some path) :
    path = key := by
  have hJoin (base : String) : join base key = key := by
    unfold join
    rw [if_pos hKey]
  unfold keyToPath at hPath
  split at hPath
  · rcases Option.map_eq_some_iff.mp hPath with
      ⟨dir, _, hDir⟩
    rw [hJoin] at hDir
    exact hDir.symm
  · rw [hJoin] at hPath
    exact (Option.some.inj hPath).symm

/- A relative key is walked from the base path. -/
theorem keyToPath_relative
    {key : String}
    {keyed : List (Move (List Char))}
    (basePath : String)
    (hKey : isAbsolute key = false)
    (hMoves : keyMoves key = some keyed) :
    ∃ path,
      keyToPath basePath key = some path ∧
        ∀ workingDir,
          location workingDir path =
            walk (location workingDir basePath) keyed := by
  unfold keyMoves at hMoves
  unfold keyToPath
  by_cases hLong : 2 ≤ key.utf8ByteSize
  · rw [if_pos hLong] at hMoves
    rw [if_pos hLong]
    rcases Option.map_eq_some_iff.mp hMoves with
      ⟨dir, hDir, rfl⟩
    have hRelative :=
      isAbsolute_front hKey (prefix_of_byteSlice hDir)
    refine
      ⟨join (join basePath (String.ofList dir)) key, ?_, ?_⟩
    · rw [hDir]
      rfl
    · intro workingDir
      rw [location_join workingDir hKey,
        location_join workingDir hRelative, walk_append]
  · rw [if_neg hLong] at hMoves
    rw [if_neg hLong]
    cases hMoves
    exact ⟨join basePath key, rfl, fun workingDir =>
      location_join workingDir hKey⟩

/- Where the names of a key are is below the base path. -/
theorem keyToPath_keyNames
    {key : String}
    {names : List (List Char)}
    (basePath : String)
    (hNames : keyNames key = some names) :
    ∃ path,
      keyToPath basePath key = some path ∧
        ∀ workingDir,
          location workingDir path =
            location workingDir basePath ++ names := by
  unfold keyNames at hNames
  split at hNames
  · cases hNames
  · next hRelative =>
      rcases Option.bind_eq_some_iff.mp hNames with
        ⟨keyed, hMoves, hReach⟩
      rcases keyToPath_relative basePath
          (Bool.eq_false_iff.mpr hRelative) hMoves with
        ⟨path, hPath, hLocation⟩
      refine ⟨path, hPath, ?_⟩
      intro workingDir
      have hWalk :=
        walk_of_reach (location workingDir basePath) hReach
      rw [List.append_nil] at hWalk
      rw [hLocation, hWalk]

end LocalBackend

end IsaWorkspace

------------------------------------------------------------
-- Placement
------------------------------------------------------------

namespace IsaWorkspace

namespace LocalBackend

open PathWalk

/- Without a path to go on there is the working directory. -/
theorem location_empty
    (workingDir : List (List Char)) :
    location workingDir "" = workingDir := rfl

/- A key that is safe alone leads to a name below its start. -/
theorem named_of_safe
    {keys : Set String}
    {key : String}
    (hSafe : SafeKeys keys)
    (hKey : key ∈ keys) :
    ∃ names, keyNames key = some names ∧ names ≠ [] := by
  have hRelative : isAbsolute key = false := by
    rw [Bool.eq_false_iff]
    intro hAbsolute
    -- below the key itself there is no such file
    rcases hSafe.confined key hKey [] key with
      ⟨path, hPath, _, hOther⟩
    rw [keyToPath_absolute hAbsolute hPath] at hOther
    exact hOther rfl
  unfold keyNames
  rw [if_neg (Bool.eq_false_iff.mp hRelative)]
  cases hMoves : keyMoves key with
  | none =>
      rcases hSafe.confined key hKey [] "" with
        ⟨path, hPath, _⟩
      rw [keyToPath_none "" hMoves] at hPath
      cases hPath
  | some keyed =>
      rw [Option.bind_some]
      rcases keyToPath_relative "" hRelative hMoves with
        ⟨path, hPath, hLocation⟩
      have hConfined (workingDir : List (List Char)) :
          workingDir <+: walk workingDir keyed ∧
            walk workingDir keyed ≠ workingDir := by
        rcases hSafe.confined key hKey workingDir "" with
          ⟨same, hSame, hPrefix, hOther⟩
        rw [hPath] at hSame
        cases hSame
        rw [hLocation, location_empty] at hPrefix hOther
        exact ⟨hPrefix, hOther⟩
      cases hReach : reach [] keyed with
      | none =>
          -- a directory of a name that no move knows
          rcases exists_fresh keyed with ⟨name, hFresh⟩
          have hMem :=
            (hConfined [name]).1.mem List.mem_cons_self
          exact absurd hMem
            (notMem_walk_of_reach_none hFresh hReach)
      | some names =>
          refine ⟨names, rfl, ?_⟩
          rintro rfl
          exact (hConfined []).2 (walk_of_reach [] hReach)

theorem wellPlaced_of_safe
    {keys : Set String}
    (hSafe : SafeKeys keys) : WellPlaced keys := by
  refine ⟨fun key hKey => named_of_safe hSafe hKey, ?_⟩
  intro key hKey other hOther hNe names otherNames hNames
    hOtherNames hPrefix
  rcases keyToPath_keyNames "" hNames with
    ⟨path, hPath, hLocation⟩
  rcases keyToPath_keyNames "" hOtherNames with
    ⟨otherPath, hOtherPath, hOtherLocation⟩
  apply hSafe.apart key hKey other hOther hNe [] "" path
    otherPath hPath hOtherPath
  rw [hLocation, hOtherLocation]
  exact (List.prefix_append_right_inj _).mpr hPrefix

theorem safe_of_wellPlaced
    {keys : Set String}
    (hPlaced : WellPlaced keys) : SafeKeys keys := by
  constructor
  · intro key hKey workingDir basePath
    rcases hPlaced.named key hKey with
      ⟨names, hNames, hSome⟩
    rcases keyToPath_keyNames basePath hNames with
      ⟨path, hPath, hLocation⟩
    refine ⟨path, hPath, ?_, ?_⟩
    · rw [hLocation]
      exact List.prefix_append _ _
    · rw [hLocation]
      intro hSame
      exact hSome (List.append_right_eq_self.mp hSame)
  · intro key hKey other hOther hNe workingDir basePath
      path otherPath hPath hOtherPath hPrefix
    rcases hPlaced.named key hKey with
      ⟨names, hNames, _⟩
    rcases hPlaced.named other hOther with
      ⟨otherNames, hOtherNames, _⟩
    rcases keyToPath_keyNames basePath hNames with
      ⟨same, hSame, hLocation⟩
    rcases keyToPath_keyNames basePath hOtherNames with
      ⟨otherSame, hOtherSame, hOtherLocation⟩
    rw [hPath] at hSame
    rw [hOtherPath] at hOtherSame
    cases hSame
    cases hOtherSame
    rw [hLocation, hOtherLocation] at hPrefix
    exact hPlaced.apart key hKey other hOther hNe names
      otherNames hNames hOtherNames
      ((List.prefix_append_right_inj _).mp hPrefix)

/-
  Keys are safe exactly if they are relative, are not sliced
  inside a character, never go above their start, and lead to
  names that are apart.
-/
theorem safeKeys_iff
    (keys : Set String) :
    SafeKeys keys ↔ WellPlaced keys :=
  ⟨wellPlaced_of_safe, safe_of_wellPlaced⟩

/- Any text can be the hash that a page claims. -/
theorem safeKeys_pageHashes :
    keyToPath "/data" "aé" = none ∧
      keyToPath "/data" "/etc/passwd" =
        some "/etc/passwd" ∧
      ¬ SafeKeys (Set.range MemoryPage.pageHash) := by
  have hPanics : keyToPath "/data" "aé" = none := by
    decide +kernel
  refine ⟨hPanics, by decide +kernel, ?_⟩
  intro hSafe
  have hKey : "aé" ∈ Set.range MemoryPage.pageHash :=
    ⟨{ pageHash := "aé"
       data := []
       compression := .none
       originalSize := 0 }, rfl⟩
  rcases hSafe.confined "aé" hKey [] "/data" with
    ⟨path, hPath, _⟩
  rw [hPanics] at hPath
  cases hPath

end LocalBackend

end IsaWorkspace

------------------------------------------------------------
-- Plain Keys
------------------------------------------------------------

namespace IsaWorkspace

namespace LocalBackend

open PathWalk

/-
  A file name of two one-byte characters or more that does
  not begin with two dots.
-/
def IsPlainKey
    (key : String) : Prop :=
  ∃ first second rest,
    key.toList = first :: second :: rest ∧
      first.utf8Size = 1 ∧
      second.utf8Size = 1 ∧
      ¬ (first = '.' ∧ second = '.') ∧
      '/' ∉ key.toList

/- A name is one move. -/
theorem moves_name
    {path : String}
    (hSlash : '/' ∉ path.toList) :
    moves path = (move path.toList).toList := by
  have hOther :
      ∀ char ∈ path.toList, (char == '/') = false := by
    intro char hChar
    rw [beq_eq_false_iff_ne]
    rintro rfl
    exact hSlash hChar
  rw [moves_eq,
    List.splitOn_eq_singleton_of_beq_eq_false hOther]
  cases hMove : move path.toList with
  | none => exact List.filterMap_cons_none hMove
  | some down => exact List.filterMap_cons_some hMove

theorem two_le_utf8ByteSize
    {key : String}
    {first second : Char}
    {rest : List Char}
    (hKey : key.toList = first :: second :: rest) :
    2 ≤ key.utf8ByteSize := by
  have hParts :
      key =
        String.singleton first ++ String.singleton second ++
          String.ofList rest := by
    apply String.toList_inj.mp
    simp [hKey]
  rw [hParts, String.utf8ByteSize_append,
    String.utf8ByteSize_append,
    String.utf8ByteSize_singleton,
    String.utf8ByteSize_singleton]
  have hFirst := first.utf8Size_pos
  have hSecond := second.utf8Size_pos
  omega

/- A plain key is a file in the directory of its front. -/
theorem keyNames_plain
    {key : String}
    (hPlain : IsPlainKey key) :
    ∃ dir, keyNames key = some [dir, key.toList] := by
  rcases hPlain with
    ⟨first, second, rest, hKey, hFirst, hSecond, hDots,
      hSlash⟩
  have hRelative : ¬ isAbsolute key = true := by
    intro hAbsolute
    have hHead := of_decide_eq_true hAbsolute
    exact hSlash (List.mem_of_head? hHead)
  have hSlice :
      byteSlice 2 key.toList = some [first, second] := by
    have hFront : ∀ char ∈ [first, second],
        char.utf8Size = 1 := by
      simp [hFirst, hSecond]
    rw [hKey]
    exact byteSlice_append rest hFront
  have hDirMove :
      move [first, second] =
        some (.down [first, second]) := by
    unfold move
    rw [if_neg (by simp), if_neg (by simpa using hDots)]
  have hKeyMove :
      move key.toList = some (.down key.toList) := by
    unfold move
    rw [hKey, if_neg (by simp), if_neg]
    rintro ⟨⟩
    exact hDots ⟨rfl, rfl⟩
  have hDirSlash :
      '/' ∉ (String.ofList [first, second]).toList := by
    rw [String.toList_ofList]
    intro hMem
    apply hSlash
    rw [hKey]
    exact List.mem_append_left rest hMem
  refine ⟨[first, second], ?_⟩
  unfold keyNames keyMoves
  rw [if_neg hRelative, if_pos (two_le_utf8ByteSize hKey),
    hSlice, Option.map_some, moves_name hDirSlash,
    moves_name hSlash, String.toList_ofList, hDirMove,
    hKeyMove]
  rfl

/- Different names are different files. -/
theorem wellPlaced_plain
    {keys : Set String}
    (hPlain : ∀ key ∈ keys, IsPlainKey key) :
    WellPlaced keys := by
  constructor
  · intro key hKey
    rcases keyNames_plain (hPlain key hKey) with
      ⟨dir, hNames⟩
    exact ⟨_, hNames, List.cons_ne_nil _ _⟩
  · intro key hKey other hOther hNe names otherNames hNames
      hOtherNames hPrefix
    rcases keyNames_plain (hPlain key hKey) with
      ⟨dir, hDir⟩
    rcases keyNames_plain (hPlain other hOther) with
      ⟨otherDir, hOtherDir⟩
    rw [hDir] at hNames
    rw [hOtherDir] at hOtherNames
    cases hNames
    cases hOtherNames
    have hSame := hPrefix.eq_of_length rfl
    apply hNe
    apply String.toList_inj.mp
    exact (List.cons.inj (List.cons.inj hSame).2).1

/- All hashes that are computed are safe keys. -/
theorem safeKeys_hashes
    [Sha256] : SafeKeys (Set.range computeHash) := by
  have hDigit :
      ∀ value < 16,
        (hexDigit value).utf8Size = 1 ∧
          hexDigit value ≠ '.' ∧ hexDigit value ≠ '/' := by
    decide
  apply safe_of_wellPlaced
  apply wellPlaced_plain
  rintro _ ⟨data, rfl⟩
  have hChars :
      ∀ char ∈ (computeHash data).toList,
        char.utf8Size = 1 ∧ char ≠ '.' ∧ char ≠ '/' := by
    intro char hChar
    rcases exists_of_mem_hexEncode hChar with
      ⟨value, hValue, rfl⟩
    exact hDigit value hValue
  have hLength : (computeHash data).toList.length = 64 := by
    rw [String.length_toList]
    exact sha256Hex_length data
  cases hText : (computeHash data).toList with
  | nil =>
      rw [hText] at hLength
      cases hLength
  | cons first others =>
      cases others with
      | nil =>
          rw [hText] at hLength
          cases hLength
      | cons second rest =>
          rw [hText] at hChars
          have hFirst := hChars first (by simp)
          have hSecond := hChars second (by simp)
          refine ⟨first, second, rest, hText, hFirst.1,
            hSecond.1, fun hDots => hFirst.2.1 hDots.1, ?_⟩
          rw [hText]
          exact fun hSlash => (hChars '/' hSlash).2.2 rfl

end LocalBackend

end IsaWorkspace
