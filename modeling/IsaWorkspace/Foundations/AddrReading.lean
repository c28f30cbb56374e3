import IsaWorkspace.Foundations.SocketAddr
import IsaWorkspace.Foundations.Text

/-
  Reading printed addresses piece by piece.

  Each reading function of the address parser reads what the
  printer wrote, where the text behind it cannot go on with
  the piece, and leaves the end of its input.

  Main declarations:
    * `AddrParser.NoDigit`, `AddrParser.EndsGroups`
    * `AddrParser.IsAddrChar`
    * `SocketAddr.isAddrChar_of_mem_fmt`
    * `AddrParser.readIpv4Addr_fmt`
    * `AddrParser.readGroups_fmtSubslice`
    * `AddrParser.readIpv6Addr_fmt`
    * `AddrParser.suffix_of_readIpv6Addr`
-/

------------------------------------------------------------
-- Characters of Printed Addresses
------------------------------------------------------------

namespace IsaWorkspace

namespace AddrParser

open Numeral

/- No digit follows. -/
def NoDigit
    (base : Nat)
    (rest : List Char) : Prop :=
  ∀ char ∈ rest.head?, isDigit base char = false

theorem noDigit_cons
    {base : Nat}
    {char : Char}
    (hChar : isDigit base char = false)
    (rest : List Char) :
    NoDigit base (char :: rest) := by
  intro other hOther
  cases hOther
  exact hChar

/- Digits and letters are between `0` and `z`. -/
theorem range_of_isDigit
    {base : Nat}
    {char : Char}
    (hDigit : isDigit base char = true) :
    48 ≤ char.toNat ∧ char.toNat ≤ 122 := by
  unfold isDigit digitValue at hDigit
  have hRaw : rawDigit char ≠ none := by
    intro hNone
    rw [hNone] at hDigit
    cases hDigit
  unfold rawDigit at hRaw
  split at hRaw
  · rename_i hRange
    exact ⟨hRange.1, le_trans hRange.2 (by decide)⟩
  · split at hRaw
    · rename_i hRange
      exact ⟨le_trans (by decide) hRange.1, hRange.2⟩
    · split at hRaw
      · rename_i hRange
        exact
          ⟨le_trans (by decide) hRange.1,
            le_trans hRange.2 (by decide)⟩
      · exact absurd rfl hRaw

/- The characters that printed addresses are made of. -/
def IsAddrChar
    (char : Char) : Prop :=
  isDigit 16 char = true ∨ char = ':' ∨ char = '.' ∨
    char = '[' ∨ char = ']'

theorem IsAddrChar.ascii
    {char : Char}
    (hChar : IsAddrChar char) :
    char.toNat < 128 := by
  rcases hChar with hDigit | rfl | rfl | rfl | rfl
  · have hRange := range_of_isDigit hDigit
    omega
  all_goals decide

theorem IsAddrChar.not_whitespace
    {char : Char}
    (hChar : IsAddrChar char) :
    Text.isWhitespace char = false := by
  rcases hChar with hDigit | rfl | rfl | rfl | rfl
  · have hRange := range_of_isDigit hDigit
    unfold Text.isWhitespace
    apply decide_eq_false
    omega
  all_goals decide

/- A decimal digit is a hexadecimal one. -/
theorem isDigit_mono
    {small large : Nat}
    (hLe : small ≤ large)
    {char : Char}
    (hDigit : isDigit small char = true) :
    isDigit large char = true := by
  unfold isDigit digitValue at hDigit ⊢
  rw [Option.isSome_iff_exists] at hDigit ⊢
  rcases hDigit with ⟨digit, hFilter⟩
  rcases Option.filter_eq_some_iff.mp hFilter with
    ⟨hRaw, hSmall⟩
  refine ⟨digit, Option.filter_eq_some_iff.mpr ⟨hRaw, ?_⟩⟩
  exact
    decide_eq_true
      (Nat.lt_of_lt_of_le (of_decide_eq_true hSmall) hLe)

/- IPv4 addresses are digits and points. -/
theorem of_mem_ipv4_fmt
    {ip : Ipv4Addr}
    {char : Char}
    (hChar : char ∈ ip.fmt) :
    isDigit 10 char = true ∨ char = '.' := by
  have hDigits :
      ∀ {number : Nat}, char ∈ Nat.toDigits 10 number →
        isDigit 10 char = true :=
    isDigit_of_mem_toDigits (by decide) (by decide)
  unfold Ipv4Addr.fmt at hChar
  simp only [List.mem_append, List.mem_cons] at hChar
  rcases hChar with h | h | h | h | h | h | h
  · exact Or.inl (hDigits h)
  · exact Or.inr h
  · exact Or.inl (hDigits h)
  · exact Or.inr h
  · exact Or.inl (hDigits h)
  · exact Or.inr h
  · exact Or.inl (hDigits h)

theorem isDigit_of_mem_fmtSegment
    {segment : UInt16}
    {char : Char}
    (hChar : char ∈ Ipv6Addr.fmtSegment segment) :
    isDigit 16 char = true :=
  isDigit_of_mem_toDigits (by decide) (by decide) hChar

/- Segments are hexadecimal digits and colons. -/
theorem of_mem_fmtSubslice
    {segments : List UInt16}
    {char : Char}
    (hChar : char ∈ Ipv6Addr.fmtSubslice segments) :
    isDigit 16 char = true ∨ char = ':' := by
  cases segments with
  | nil => cases hChar
  | cons first tail =>
      rw [Ipv6Addr.fmtSubslice, List.mem_append,
        Ipv6Addr.fmtTail, List.mem_flatMap] at hChar
      rcases hChar with hFirst | ⟨segment, _, hSegment⟩
      · exact Or.inl (isDigit_of_mem_fmtSegment hFirst)
      · rcases List.mem_cons.mp hSegment with hColon | hDigit
        · exact Or.inr hColon
        · exact Or.inl (isDigit_of_mem_fmtSegment hDigit)

/- IPv6 addresses are digits, colons and points. -/
theorem of_mem_ipv6_fmt
    {ip : Ipv6Addr}
    {char : Char}
    (hChar : char ∈ ip.fmt) :
    isDigit 16 char = true ∨ char = ':' ∨ char = '.' := by
  have hGroups :
      ∀ {segments : List UInt16},
        char ∈ Ipv6Addr.fmtSubslice segments →
          isDigit 16 char = true ∨ char = ':' ∨ char = '.' := by
    intro segments hMem
    rcases of_mem_fmtSubslice hMem with hDigit | hColon
    · exact Or.inl hDigit
    · exact Or.inr (Or.inl hColon)
  unfold Ipv6Addr.fmt at hChar
  split at hChar
  · rename_i mapped hMapped
    rcases List.mem_append.mp hChar with hFirst | hIpv4
    · have hAll :
          ∀ char ∈ "::ffff:".toList,
            isDigit 16 char = true ∨ char = ':' ∨
              char = '.' := by
        decide
      exact hAll char hFirst
    · rcases of_mem_ipv4_fmt hIpv4 with hDigit | hPoint
      · exact Or.inl (isDigit_mono (by decide) hDigit)
      · exact Or.inr (Or.inr hPoint)
  · dsimp only at hChar
    split at hChar
    · simp only [List.mem_append, List.mem_cons] at hChar
      rcases hChar with hHead | hColon | hColon | hTail
      · exact hGroups hHead
      · exact Or.inr (Or.inl hColon)
      · exact Or.inr (Or.inl hColon)
      · exact hGroups hTail
    · exact hGroups hChar

end AddrParser

namespace SocketAddr

open AddrParser Numeral

theorem isAddrChar_of_mem_fmtHost
    {ip : IpAddr}
    {char : Char}
    (hChar : char ∈ fmtHost ip) :
    IsAddrChar char := by
  cases ip with
  | v4 ip =>
      rcases of_mem_ipv4_fmt hChar with hDigit | hPoint
      · exact Or.inl (isDigit_mono (by decide) hDigit)
      · exact Or.inr (Or.inr (Or.inl hPoint))
  | v6 ip =>
      simp only [fmtHost, List.mem_cons, List.mem_append,
        List.not_mem_nil, or_false] at hChar
      rcases hChar with hOpen | hFmt | hClose
      · exact Or.inr (Or.inr (Or.inr (Or.inl hOpen)))
      · rcases of_mem_ipv6_fmt hFmt with h | h | h
        · exact Or.inl h
        · exact Or.inr (Or.inl h)
        · exact Or.inr (Or.inr (Or.inl h))
      · exact Or.inr (Or.inr (Or.inr (Or.inr hClose)))

/- What a printed address is made of. -/
theorem isAddrChar_of_mem_fmt
    {ip : IpAddr}
    {port : UInt16}
    {char : Char}
    (hChar : char ∈ (new ip port).fmt) :
    IsAddrChar char := by
  rw [fmt_new, List.mem_append, List.mem_cons] at hChar
  rcases hChar with hHost | hColon | hPort
  · exact isAddrChar_of_mem_fmtHost hHost
  · exact Or.inr (Or.inl hColon)
  · have hDigit :=
      isDigit_of_mem_toDigits (by decide) (by decide) hPort
    exact Or.inl (isDigit_mono (by decide) hDigit)

end SocketAddr

end IsaWorkspace

------------------------------------------------------------
-- Reading Printed IPv4 Addresses
------------------------------------------------------------

namespace IsaWorkspace

namespace AddrParser

open Numeral

theorem readGivenChar_cons
    (char : Char)
    (rest : List Char) :
    readGivenChar char (char :: rest) = some rest := by
  rw [readGivenChar, if_pos rfl]

theorem readGivenChar_ne
    {target char : Char}
    (hNe : char ≠ target)
    (rest : List Char) :
    readGivenChar target (char :: rest) = none := by
  rw [readGivenChar, if_neg hNe]

theorem readGivenChar_none
    {target : Char}
    {input : List Char}
    (hNone : target ∉ input) :
    readGivenChar target input = none := by
  cases input with
  | nil => rfl
  | cons char rest =>
      apply readGivenChar_ne
      rintro rfl
      exact hNone List.mem_cons_self

theorem suffix_of_readGivenChar
    {target : Char}
    {input rest : List Char}
    (hRead : readGivenChar target input = some rest) :
    rest <:+ input := by
  cases input with
  | nil => cases hRead
  | cons char others =>
      rw [readGivenChar] at hRead
      split at hRead
      · cases hRead
        exact List.suffix_cons char rest
      · cases hRead

variable {α : Type}
variable {inner : List Char → Option (α × List Char)}

/- The first piece has no separator before it. -/
theorem readSeparator_first
    (separator : Char)
    (input : List Char) :
    readSeparator separator 0 inner input = inner input :=
  if_neg (Nat.lt_irrefl 0)

/- The other pieces have one. -/
theorem readSeparator_cons
    (separator : Char)
    (index : Nat)
    (input : List Char) :
    readSeparator separator (index + 1) inner
        (separator :: input) =
      inner input := by
  unfold readSeparator
  rw [if_pos (Nat.succ_pos index), readGivenChar_cons]
  rfl

theorem suffix_of_readSeparator
    (hInner :
      ∀ {input rest : List Char} {item : α},
        inner input = some (item, rest) → rest <:+ input)
    {separator : Char}
    {index : Nat}
    {input rest : List Char}
    {item : α}
    (hRead :
      readSeparator separator index inner input =
        some (item, rest)) :
    rest <:+ input := by
  unfold readSeparator at hRead
  split at hRead
  · rcases Option.bind_eq_some_iff.mp hRead with
      ⟨others, hGiven, hItem⟩
    exact
      (hInner hItem).trans (suffix_of_readGivenChar hGiven)
  · exact hInner hRead

/- An octet is read back. -/
theorem readOctet_toDigits
    (octet : UInt8)
    {rest : List Char}
    (hRest : NoDigit 10 rest) :
    readOctet (Nat.toDigits 10 octet.toNat ++ rest) =
      some (octet, rest) := by
  have hRange : octet.toNat < 256 := octet.toNat_lt
  have hLength :
      (Nat.toDigits 10 octet.toNat).length ≤ 3 :=
    (Nat.length_toDigits_le_iff (by decide)
      (by decide)).mpr (by omega)
  have hMost :
      ∀ most ∈ some 3,
        (Nat.toDigits 10 octet.toNat).length ≤ most := by
    intro most hMem
    cases hMem
    exact hLength
  unfold readOctet
  rw [readNumber_toDigits (by decide) (by decide) hRange
    hMost hRest]
  rw [Option.map_some, UInt8.ofNat_toNat]

theorem readOctet_none
    {input : List Char}
    (hHead : NoDigit 10 input) :
    readOctet input = none := by
  unfold readOctet
  rw [readNumber_none hHead]
  rfl

theorem suffix_of_readOctet
    {input rest : List Char}
    {octet : UInt8}
    (hRead : readOctet input = some (octet, rest)) :
    rest <:+ input := by
  rcases Option.map_eq_some_iff.mp hRead with
    ⟨read, hNumber, hEq⟩
  cases hEq
  exact suffix_of_readNumber hNumber

/- A printed IPv4 address is read back. -/
theorem readIpv4Addr_fmt
    (ip : Ipv4Addr)
    {rest : List Char}
    (hRest : NoDigit 10 rest) :
    readIpv4Addr (ip.fmt ++ rest) = some (ip, rest) := by
  have hPoint :
      ∀ others, NoDigit 10 ('.' :: others) :=
    noDigit_cons (by decide)
  unfold readIpv4Addr Ipv4Addr.fmt
  simp only [List.append_assoc, List.cons_append]
  rw [readSeparator_first, readOctet_toDigits _ (hPoint _)]
  dsimp only [Option.bind_eq_bind, Option.bind_some]
  rw [readSeparator_cons, readOctet_toDigits _ (hPoint _)]
  dsimp only [Option.bind_some]
  rw [readSeparator_cons, readOctet_toDigits _ (hPoint _)]
  dsimp only [Option.bind_some]
  rw [readSeparator_cons, readOctet_toDigits _ hRest]
  rfl

/- There is no IPv4 address where the first octet fails. -/
theorem readIpv4Addr_noDigit
    {input : List Char}
    (hHead : NoDigit 10 input) :
    readIpv4Addr input = none := by
  unfold readIpv4Addr
  rw [readSeparator_first, readOctet_none hHead]
  rfl

/- There is no IPv4 address without points. -/
theorem readIpv4Addr_noPoint
    {input : List Char}
    (hPoint : '.' ∉ input) :
    readIpv4Addr input = none := by
  unfold readIpv4Addr
  rw [readSeparator_first]
  cases hOctet : readOctet input with
  | none => rfl
  | some read =>
      have hRest : '.' ∉ read.2 := fun hMem =>
        hPoint ((suffix_of_readOctet hOctet).subset hMem)
      have hNone :
          readSeparator '.' 1 readOctet read.2 = none := by
        unfold readSeparator
        rw [if_pos Nat.one_pos, readGivenChar_none hRest]
        rfl
      dsimp only [Option.bind_eq_bind, Option.bind_some]
      rw [hNone]
      rfl

theorem suffix_of_readIpv4Addr
    {input rest : List Char}
    {ip : Ipv4Addr}
    (hRead : readIpv4Addr input = some (ip, rest)) :
    rest <:+ input := by
  have hOctet :
      ∀ {index : Nat} {input rest : List Char}
          {octet : UInt8},
        readSeparator '.' index readOctet input =
            some (octet, rest) →
          rest <:+ input :=
    suffix_of_readSeparator suffix_of_readOctet
  unfold readIpv4Addr at hRead
  simp only [Option.bind_eq_bind, Option.bind_eq_some_iff,
    Prod.exists, Option.some.injEq, Prod.mk.injEq] at hRead
  rcases hRead with
    ⟨a, afterA, hA, b, afterB, hB, c, afterC, hC, d, afterD,
      hD, _, rfl⟩
  exact
    (hOctet hD).trans
      ((hOctet hC).trans ((hOctet hB).trans (hOctet hA)))

end AddrParser

end IsaWorkspace

------------------------------------------------------------
-- Reading Groups
------------------------------------------------------------

namespace IsaWorkspace

namespace AddrParser

open Numeral

/- A printed segment is read back. -/
theorem readGroup_fmtSegment
    (segment : UInt16)
    {rest : List Char}
    (hRest : NoDigit 16 rest) :
    readGroup (Ipv6Addr.fmtSegment segment ++ rest) =
      some (segment, rest) := by
  have hRange : segment.toNat < 65536 := segment.toNat_lt
  have hLength :
      (Nat.toDigits 16 segment.toNat).length ≤ 4 :=
    (Nat.length_toDigits_le_iff (by decide)
      (by decide)).mpr (by omega)
  have hMost :
      ∀ most ∈ some 4,
        (Nat.toDigits 16 segment.toNat).length ≤ most := by
    intro most hMem
    cases hMem
    exact hLength
  unfold readGroup Ipv6Addr.fmtSegment
  rw [readNumber_toDigits (by decide) (by decide) hRange
    hMost hRest]
  rw [Option.map_some, UInt16.ofNat_toNat]

theorem readGroup_none
    {input : List Char}
    (hHead : NoDigit 16 input) :
    readGroup input = none := by
  unfold readGroup
  rw [readNumber_none hHead]
  rfl

theorem suffix_of_readGroup
    {input rest : List Char}
    {group : UInt16}
    (hRead : readGroup input = some (group, rest)) :
    rest <:+ input := by
  rcases Option.map_eq_some_iff.mp hRead with
    ⟨read, hNumber, hEq⟩
  cases hEq
  exact suffix_of_readNumber hNumber

/- What ends a series of groups: a bracket or two colons. -/
inductive EndsGroups : List Char → Prop where
  | bracket (rest : List Char) : EndsGroups (']' :: rest)
  | zeroes (rest : List Char) :
      EndsGroups (':' :: ':' :: rest)

theorem EndsGroups.noDigit
    {rest : List Char}
    (hEnds : EndsGroups rest)
    {base : Nat}
    (hBase : base ≤ 16) :
    NoDigit base rest := by
  have hNot :
      ∀ {char : Char}, isDigit 16 char = false →
        isDigit base char = false := by
    intro char hChar
    by_contra hDigit
    have hTrue :=
      isDigit_mono hBase (Bool.not_eq_false _ ▸ hDigit)
    rw [hChar] at hTrue
    cases hTrue
  cases hEnds with
  | bracket others => exact noDigit_cons (hNot (by decide)) _
  | zeroes others => exact noDigit_cons (hNot (by decide)) _

/- Nothing that needs a digit is read at the end. -/
theorem readSeparator_ends
    {α : Type}
    {inner : List Char → Option (α × List Char)}
    (hInner :
      ∀ {input}, NoDigit 16 input → inner input = none)
    {rest : List Char}
    (hEnds : EndsGroups rest)
    (index : Nat) :
    readSeparator ':' index inner rest = none := by
  cases index with
  | zero =>
      rw [readSeparator_first]
      exact hInner (hEnds.noDigit (le_refl 16))
  | succ index =>
      cases hEnds with
      | bracket others =>
          unfold readSeparator
          rw [if_pos (Nat.succ_pos index),
            readGivenChar_ne (by decide)]
          rfl
      | zeroes others =>
          rw [readSeparator_cons]
          exact hInner (noDigit_cons (by decide) _)

/- No IPv4 address starts with what is no digit at all. -/
theorem readIpv4Addr_noDigit16
    {input : List Char}
    (hHead : NoDigit 16 input) :
    readIpv4Addr input = none := by
  apply readIpv4Addr_noDigit
  intro char hChar
  by_contra hDigit
  have hTrue :=
    isDigit_mono (by decide : 10 ≤ 16)
      (Bool.not_eq_false _ ▸ hDigit)
  rw [hHead char hChar] at hTrue
  cases hTrue

/- At the end no more groups are read. -/
theorem readGroups_ends
    {rest : List Char}
    (hEnds : EndsGroups rest)
    (room index : Nat) :
    readGroups room index rest = (([], false), rest) := by
  have hIpv4 :=
    readSeparator_ends readIpv4Addr_noDigit16 hEnds index
  have hGroup :=
    readSeparator_ends readGroup_none hEnds index
  cases room with
  | zero => rfl
  | succ room =>
      rw [readGroups, hIpv4, ite_self, hGroup]

/- Where there are no points, one group is read. -/
theorem readGroups_group
    {input rest : List Char}
    {group : UInt16}
    {index : Nat}
    (hPoint : '.' ∉ input)
    (hGroup :
      readSeparator ':' index readGroup input =
        some (group, rest))
    (room : Nat) :
    readGroups (room + 1) index input =
      ((group :: (readGroups room (index + 1) rest).1.1,
          (readGroups room (index + 1) rest).1.2),
        (readGroups room (index + 1) rest).2) := by
  have hIpv4 :
      readSeparator ':' index readIpv4Addr input = none := by
    unfold readSeparator
    split
    · cases hGiven : readGivenChar ':' input with
      | none => rfl
      | some others =>
          apply readIpv4Addr_noPoint
          intro hMem
          apply hPoint
          exact
            (suffix_of_readGivenChar hGiven).subset hMem
    · exact readIpv4Addr_noPoint hPoint
  rw [readGroups, hIpv4, ite_self, hGroup]

theorem point_notMem_fmtSegment
    (segment : UInt16) :
    '.' ∉ Ipv6Addr.fmtSegment segment := by
  intro hMem
  have hDigit := isDigit_of_mem_fmtSegment hMem
  revert hDigit
  decide

/- There are no points in groups before what has none. -/
theorem point_notMem_fmtTail
    (segments : List UInt16)
    {rest : List Char}
    (hPoint : '.' ∉ rest) :
    '.' ∉ Ipv6Addr.fmtTail segments ++ rest := by
  intro hMem
  rcases List.mem_append.mp hMem with hTail | hRest
  · rcases List.mem_flatMap.mp hTail with
      ⟨segment, _, hSegment⟩
    rcases List.mem_cons.mp hSegment with hColon | hDigits
    · cases hColon
    · exact point_notMem_fmtSegment segment hDigits
  · exact hPoint hRest

/- A group ends where the next one or the end follows. -/
theorem noDigit_fmtTail
    {rest : List Char}
    (hEnds : EndsGroups rest)
    (segments : List UInt16) :
    NoDigit 16 (Ipv6Addr.fmtTail segments ++ rest) := by
  cases segments with
  | nil => exact hEnds.noDigit (le_refl 16)
  | cons next more => exact noDigit_cons (by decide) _

theorem fmtTail_cons_append
    (segment : UInt16)
    (others : List UInt16)
    (rest : List Char) :
    Ipv6Addr.fmtTail (segment :: others) ++ rest =
      ':' ::
        (Ipv6Addr.fmtSegment segment ++
          (Ipv6Addr.fmtTail others ++ rest)) := by
  unfold Ipv6Addr.fmtTail
  rw [List.flatMap_cons, List.cons_append, List.cons_append,
    List.append_assoc]

/- After the first one, groups are read with their colons. -/
theorem readGroups_tail
    {rest : List Char}
    (hEnds : EndsGroups rest)
    (hPoint : '.' ∉ rest)
    (segments : List UInt16)
    {room : Nat}
    (hRoom : segments.length ≤ room)
    (index : Nat) :
    readGroups room (index + 1)
        (Ipv6Addr.fmtTail segments ++ rest) =
      ((segments, false), rest) := by
  induction segments generalizing room index with
  | nil => exact readGroups_ends hEnds room (index + 1)
  | cons segment others ih =>
      cases room with
      | zero => exact absurd hRoom (Nat.not_succ_le_zero _)
      | succ room =>
          have hGroup :
              readSeparator ':' (index + 1) readGroup
                  (Ipv6Addr.fmtTail (segment :: others) ++
                    rest) =
                some
                  (segment,
                    Ipv6Addr.fmtTail others ++ rest) := by
            rw [fmtTail_cons_append, readSeparator_cons,
              readGroup_fmtSegment segment
                (noDigit_fmtTail hEnds others)]
          rw [readGroups_group
            (point_notMem_fmtTail _ hPoint) hGroup,
            ih (Nat.le_of_succ_le_succ hRoom)]

/- Printed segments are read back. -/
theorem readGroups_fmtSubslice
    {rest : List Char}
    (hEnds : EndsGroups rest)
    (hPoint : '.' ∉ rest)
    (segments : List UInt16)
    {room : Nat}
    (hRoom : segments.length ≤ room) :
    readGroups room 0
        (Ipv6Addr.fmtSubslice segments ++ rest) =
      ((segments, false), rest) := by
  cases segments with
  | nil => exact readGroups_ends hEnds room 0
  | cons first tail =>
      cases room with
      | zero => exact absurd hRoom (Nat.not_succ_le_zero _)
      | succ room =>
          have hNoPoint :
              '.' ∉
                Ipv6Addr.fmtSegment first ++
                  (Ipv6Addr.fmtTail tail ++ rest) := by
            intro hMem
            rcases List.mem_append.mp hMem with hLeft | hRight
            · exact point_notMem_fmtSegment first hLeft
            · exact point_notMem_fmtTail tail hPoint hRight
          have hGroup :
              readSeparator ':' 0 readGroup
                  (Ipv6Addr.fmtSegment first ++
                    (Ipv6Addr.fmtTail tail ++ rest)) =
                some (first, Ipv6Addr.fmtTail tail ++ rest) := by
            rw [readSeparator_first,
              readGroup_fmtSegment first
                (noDigit_fmtTail hEnds tail)]
          rw [Ipv6Addr.fmtSubslice, List.append_assoc,
            readGroups_group hNoPoint hGroup,
            readGroups_tail hEnds hPoint tail
              (Nat.le_of_succ_le_succ hRoom)]

theorem suffix_of_readGroups
    (room index : Nat)
    (input : List Char) :
    (readGroups room index input).2 <:+ input := by
  induction room generalizing index input with
  | zero => exact List.suffix_refl input
  | succ room ih =>
      rw [readGroups]
      dsimp only
      split
      · rename_i ip rest hEmbedded
        split at hEmbedded
        · exact
            suffix_of_readSeparator suffix_of_readIpv4Addr
              hEmbedded
        · cases hEmbedded
      · split
        · exact List.suffix_refl input
        · rename_i group rest hGroup
          exact
            (ih (index + 1) rest).trans
              (suffix_of_readSeparator suffix_of_readGroup
                hGroup)

end AddrParser

end IsaWorkspace

------------------------------------------------------------
-- Reading Printed IPv6 Addresses
------------------------------------------------------------

namespace IsaWorkspace

namespace Ipv6Addr

/- The segments of a run are zeroes. -/
def IsZeroSpan
    (span : Span)
    (segments : List UInt16) : Prop :=
  ∃ before after,
    segments =
        before ++ (List.replicate span.len 0 ++ after) ∧
      before.length = span.start

theorem IsZeroSpan.append
    {span : Span}
    {segments : List UInt16}
    (hSpan : IsZeroSpan span segments)
    (others : List UInt16) :
    IsZeroSpan span (segments ++ others) := by
  rcases hSpan with ⟨before, after, rfl, hStart⟩
  refine ⟨before, after ++ others, ?_, hStart⟩
  rw [List.append_assoc, List.append_assoc]

/-
  The scan keeps that the longest run is one, and that the
  current run reaches up to where the scan is.
-/
theorem scanZeroes_spec
    (rest : List UInt16)
    {before : List UInt16}
    {longest current : Span}
    (hLongest : IsZeroSpan longest before)
    (hCurrent :
      current.len = 0 ∨
        ∃ first,
          before = first ++ List.replicate current.len 0 ∧
            first.length = current.start) :
    IsZeroSpan
      (scanZeroes before.length longest current rest)
      (before ++ rest) := by
  induction rest generalizing before longest current with
  | nil =>
      rw [List.append_nil]
      exact hLongest
  | cons segment others ih =>
      have hText :
          before ++ segment :: others =
            (before ++ [segment]) ++ others := by
        rw [List.append_assoc, List.singleton_append]
      have hLength :
          before.length + 1 =
            (before ++ [segment]).length := by
        rw [List.length_append, List.length_singleton]
      rw [scanZeroes, hText, hLength]
      split
      · rename_i hZero
        subst hZero
        have hNext :
            ∃ first,
              before ++ [0] =
                  first ++
                    List.replicate (current.len + 1) 0 ∧
                first.length =
                  if current.len = 0 then
                    before.length
                  else
                    current.start := by
          by_cases hNew : current.len = 0
          · refine ⟨before, ?_, (if_pos hNew).symm⟩
            rw [hNew]
            rfl
          · rcases hCurrent.resolve_left hNew with
              ⟨first, hBefore, hStart⟩
            refine ⟨first, ?_, ?_⟩
            · rw [List.replicate_succ', ← List.append_assoc,
                ← hBefore]
            · rw [if_neg hNew, hStart]
        apply ih
        · dsimp only
          by_cases hLonger : longest.len < current.len + 1
          · rw [if_pos hLonger]
            rcases hNext with ⟨first, hFirst, hStart⟩
            refine ⟨first, [], ?_, hStart⟩
            rw [List.append_nil]
            exact hFirst
          · rw [if_neg hLonger]
            exact hLongest.append [0]
        · exact Or.inr hNext
      · apply ih
        · exact hLongest.append [segment]
        · exact Or.inl rfl

/- The segments around the run that is not printed. -/
theorem longestZeroes_spec
    (segments : List UInt16) :
    ∃ zeroes,
      segments =
          segments.take (longestZeroes segments).start ++
            (List.replicate zeroes 0 ++
              segments.drop
                ((longestZeroes segments).start +
                  (longestZeroes segments).len)) ∧
        zeroes = (longestZeroes segments).len ∧
          (segments.take
              (longestZeroes segments).start).length =
            (longestZeroes segments).start := by
  have hNone : IsZeroSpan ⟨0, 0⟩ [] :=
    ⟨[], [], rfl, rfl⟩
  have hSpan :
      IsZeroSpan (longestZeroes segments) segments :=
    scanZeroes_spec segments hNone (Or.inl rfl)
  rcases hSpan with ⟨before, after, hSegments, hStart⟩
  generalize longestZeroes segments = span at *
  have hTake : segments.take span.start = before := by
    rw [hSegments, ← hStart, List.take_left]
  have hDrop :
      segments.drop (span.start + span.len) = after := by
    rw [hSegments, ← List.append_assoc, ← hStart]
    apply List.drop_left'
    rw [List.length_append, List.length_replicate]
  exact
    ⟨span.len, by rw [hTake, hDrop]; exact hSegments, rfl,
      by rw [hTake, hStart]⟩

/- A mapped address is printed and read as its octets. -/
theorem segments_of_mapped
    {ip : Ipv6Addr}
    {mapped : Ipv4Addr}
    (hMapped : ip.toIpv4Mapped = some mapped) :
    ip.segments =
      List.replicate 5 0 ++
        [0xFFFF, fromOctets mapped.a mapped.b,
          fromOctets mapped.c mapped.d] := by
  unfold toIpv4Mapped at hMapped
  split at hMapped
  · rename_i s0 s1 s2 s3 s4 s5 s6 s7 hSegments
    split at hMapped
    · rename_i hPrefix
      rcases hPrefix with ⟨rfl, rfl, rfl, rfl, rfl, rfl⟩
      cases hMapped
      rw [hSegments]
      dsimp only
      rw [fromOctets_octets, fromOctets_octets]
      rfl
    · cases hMapped
  · cases hMapped

end Ipv6Addr

namespace AddrParser

open Numeral

/- Eight groups are an address. -/
theorem readIpv6Addr_full
    {input rest : List Char}
    {ip : Ipv6Addr}
    {flag : Bool}
    (hHead :
      readGroups 8 0 input = ((ip.segments, flag), rest)) :
    readIpv6Addr input = some (ip, rest) := by
  unfold readIpv6Addr
  simp only [hHead, ip.length_eq, dite_true]

/- Groups around two colons are the address they join to. -/
theorem readIpv6Addr_join
    {input rest left : List Char}
    {head tail : List UInt16}
    {flag : Bool}
    {ip : Ipv6Addr}
    (hHead :
      readGroups 8 0 input =
        ((head, false), ':' :: ':' :: rest))
    (hTail :
      readGroups (8 - (head.length + 1)) 0 rest =
        ((tail, flag), left))
    (hShort : head.length ≠ 8)
    (hJoin :
      ip.segments =
        head ++
          (List.replicate (8 - head.length - tail.length) 0 ++
            tail)) :
    readIpv6Addr input = some (ip, left) := by
  unfold readIpv6Addr
  simp only [hHead, hShort, dite_false, Bool.false_eq_true,
    if_false, readGivenChar_cons, Option.bind_eq_bind,
    Option.bind_some, hTail, Option.some.injEq,
    Prod.mk.injEq, and_true]
  cases ip
  dsimp only at hJoin
  subst hJoin
  rfl

/- An IPv4 address in an IPv6 address is read back. -/
private theorem readIpv6Addr_mapped
    {ip : Ipv6Addr}
    {mapped : Ipv4Addr}
    (hMapped : ip.toIpv4Mapped = some mapped)
    (rest : List Char) :
    readIpv6Addr
        ("::ffff:".toList ++ mapped.fmt ++ ']' :: rest) =
      some (ip, ']' :: rest) := by
  have hGroup :
      readGroup
          ('f' :: 'f' :: 'f' :: 'f' :: ':' ::
            (mapped.fmt ++ ']' :: rest)) =
        some (0xFFFF, ':' :: (mapped.fmt ++ ']' :: rest)) :=
    readGroup_fmtSegment 0xFFFF
      (noDigit_cons (by decide) _)
  have hIpv4 :
      readIpv4Addr (mapped.fmt ++ ']' :: rest) =
        some (mapped, ']' :: rest) :=
    readIpv4Addr_fmt mapped (noDigit_cons (by decide) _)
  have hFirst :
      readIpv4Addr
          ('f' :: 'f' :: 'f' :: 'f' :: ':' ::
            (mapped.fmt ++ ']' :: rest)) =
        none :=
    readIpv4Addr_noDigit (noDigit_cons (by decide) _)
  have hTail :
      readGroups 7 0
          ('f' :: 'f' :: 'f' :: 'f' :: ':' ::
            (mapped.fmt ++ ']' :: rest)) =
        (([0xFFFF,
            Ipv6Addr.fromOctets mapped.a mapped.b,
            Ipv6Addr.fromOctets mapped.c mapped.d],
          true), ']' :: rest) := by
    rw [readGroups, readSeparator_first, hFirst, ite_self,
      readSeparator_first, hGroup]
    dsimp only
    rw [readGroups, readSeparator_cons, hIpv4,
      if_pos (by decide)]
  apply
    readIpv6Addr_join
      (readGroups_ends (EndsGroups.zeroes _) 8 0) hTail
      (by decide)
  exact Ipv6Addr.segments_of_mapped hMapped

/- Groups around left-out zeroes are read back. -/
private theorem readIpv6Addr_zeroes
    {ip : Ipv6Addr}
    {start stop zeroes : Nat}
    (hSegments :
      ip.segments =
        ip.segments.take start ++
          (List.replicate zeroes 0 ++ ip.segments.drop stop))
    (hStart : (ip.segments.take start).length = start)
    (hLong : 1 < zeroes)
    {rest : List Char}
    (hNoPoint : '.' ∉ ']' :: rest) :
    readIpv6Addr
        (Ipv6Addr.fmtSubslice (ip.segments.take start) ++
          ':' :: ':' ::
            (Ipv6Addr.fmtSubslice (ip.segments.drop stop) ++
              ']' :: rest)) =
      some (ip, ']' :: rest) := by
  have hTotal := congrArg List.length hSegments
  rw [List.length_append, List.length_append,
    List.length_replicate, ip.length_eq, hStart] at hTotal
  have hTailPoint :
      '.' ∉
        ':' :: ':' ::
          (Ipv6Addr.fmtSubslice (ip.segments.drop stop) ++
            ']' :: rest) := by
    simp only [List.mem_cons, List.mem_append]
    rintro (hEq | hEq | hMem | hMem)
    · cases hEq
    · cases hEq
    · have hChar := of_mem_fmtSubslice hMem
      revert hChar
      decide
    · exact hNoPoint (List.mem_cons.mpr hMem)
  have hHead :=
    readGroups_fmtSubslice (EndsGroups.zeroes _) hTailPoint
      (ip.segments.take start)
      (hStart.trans_le (by omega : start ≤ 8))
  have hTail :=
    readGroups_fmtSubslice (EndsGroups.bracket rest) hNoPoint
      (ip.segments.drop stop)
      (by omega :
        _ ≤ 8 - ((ip.segments.take start).length + 1))
  apply readIpv6Addr_join hHead hTail (by omega)
  have hCount :
      8 - (ip.segments.take start).length -
          (ip.segments.drop stop).length =
        zeroes := by
    omega
  rw [hCount]
  exact hSegments

/- A printed IPv6 address is read back. -/
theorem readIpv6Addr_fmt
    (ip : Ipv6Addr)
    {rest : List Char}
    (hPoint : '.' ∉ rest) :
    readIpv6Addr (ip.fmt ++ ']' :: rest) =
      some (ip, ']' :: rest) := by
  have hNoPoint : '.' ∉ ']' :: rest := by
    intro hMem
    rcases List.mem_cons.mp hMem with hEq | hRest
    · cases hEq
    · exact hPoint hRest
  unfold Ipv6Addr.fmt
  cases hMapped : ip.toIpv4Mapped with
  | some mapped => exact readIpv6Addr_mapped hMapped rest
  | none =>
      dsimp only
      rcases Ipv6Addr.longestZeroes_spec ip.segments with
        ⟨zeroes, hSegments, hZeroes, hStart⟩
      split
      · next hLong =>
          rw [List.append_assoc, List.cons_append,
            List.cons_append]
          exact
            readIpv6Addr_zeroes hSegments hStart
              (hZeroes ▸ hLong) hNoPoint
      · apply readIpv6Addr_full
        exact
          readGroups_fmtSubslice (EndsGroups.bracket rest)
            hNoPoint ip.segments (le_of_eq ip.length_eq)

theorem suffix_of_readIpv6Addr
    {input rest : List Char}
    {ip : Ipv6Addr}
    (hRead : readIpv6Addr input = some (ip, rest)) :
    rest <:+ input := by
  have hHead := suffix_of_readGroups 8 0 input
  unfold readIpv6Addr at hRead
  dsimp only at hRead
  split at hRead
  · cases hRead
    exact hHead
  · split at hRead
    · cases hRead
    · rcases Option.bind_eq_some_iff.mp hRead with
        ⟨first, hFirst, hRest⟩
      rcases Option.bind_eq_some_iff.mp hRest with
        ⟨second, hSecond, hTail⟩
      cases hTail
      exact
        (suffix_of_readGroups _ 0 second).trans
          ((suffix_of_readGivenChar hSecond).trans
            ((suffix_of_readGivenChar hFirst).trans hHead))

end AddrParser

end IsaWorkspace
