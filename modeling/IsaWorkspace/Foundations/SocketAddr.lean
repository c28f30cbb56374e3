import IsaWorkspace.Foundations.Numerals
import Mathlib.Algebra.Order.Group.Nat

/-
  Socket addresses of the standard library, and their text.

  The first part has the types and how addresses are
  printed, the second part the parser.  Each reading function
  takes its piece from the front of a text and returns the
  text after it; where it fails, nothing is taken.

  Main declarations:
    * `Ipv4Addr`, `Ipv6Addr`, `IpAddr`
    * `SocketAddrV4`, `SocketAddrV6`, `SocketAddr`
    * `SocketAddr.new`, `SocketAddr.fmt`
    * `AddrParser.readIpv4Addr`, `AddrParser.readIpv6Addr`
    * `AddrParser.readSocketAddr`, `SocketAddr.parse`
-/

------------------------------------------------------------
-- Addresses
------------------------------------------------------------

namespace IsaWorkspace

/- Four octets. -/
structure Ipv4Addr where
  a : UInt8
  b : UInt8
  c : UInt8
  d : UInt8
deriving DecidableEq, Repr

/- Eight segments of sixteen bits. -/
structure Ipv6Addr where
  segments : List UInt16
  length_eq : segments.length = 8
deriving DecidableEq, Repr

inductive IpAddr where
  | v4 (ip : Ipv4Addr)
  | v6 (ip : Ipv6Addr)
deriving DecidableEq, Repr

structure SocketAddrV4 where
  ip : Ipv4Addr
  port : UInt16
deriving DecidableEq, Repr

structure SocketAddrV6 where
  ip : Ipv6Addr
  port : UInt16
  flowinfo : UInt32
  scopeId : UInt32
deriving DecidableEq, Repr

inductive SocketAddr where
  | v4 (addr : SocketAddrV4)
  | v6 (addr : SocketAddrV6)
deriving DecidableEq, Repr

namespace SocketAddr

/- The address of a port of a host. -/
def new
    (ip : IpAddr)
    (port : UInt16) : SocketAddr :=
  match ip with
  | .v4 ip => .v4 ⟨ip, port⟩
  | .v6 ip => .v6 ⟨ip, port, 0, 0⟩

/- Two ports of a host are two addresses. -/
theorem new_inj
    {ip : IpAddr}
    {port other : UInt16} :
    new ip port = new ip other ↔ port = other := by
  cases ip with
  | v4 ip => simp [new]
  | v6 ip => simp [new]

end SocketAddr

end IsaWorkspace

------------------------------------------------------------
-- Printing
------------------------------------------------------------

namespace IsaWorkspace

namespace Ipv4Addr

def fmt
    (ip : Ipv4Addr) : List Char :=
  Nat.toDigits 10 ip.a.toNat ++
    '.' :: (Nat.toDigits 10 ip.b.toNat ++
      '.' :: (Nat.toDigits 10 ip.c.toNat ++
        '.' :: Nat.toDigits 10 ip.d.toNat))

end Ipv4Addr

namespace Ipv6Addr

/- The two octets of a segment, high octet first. -/
def highOctet
    (segment : UInt16) : UInt8 :=
  UInt8.ofNat (segment.toNat / 256)

def lowOctet
    (segment : UInt16) : UInt8 :=
  UInt8.ofNat (segment.toNat % 256)

/- The segment of two octets. -/
def fromOctets
    (high low : UInt8) : UInt16 :=
  UInt16.ofNat (high.toNat * 256 + low.toNat)

theorem fromOctets_octets
    (segment : UInt16) :
    fromOctets (highOctet segment) (lowOctet segment) =
      segment := by
  have hRange := segment.toNat_lt
  unfold fromOctets highOctet lowOctet
  apply UInt16.toNat_inj.mp
  rw [UInt16.toNat_ofNat', UInt8.toNat_ofNat',
    UInt8.toNat_ofNat']
  omega

/- The IPv4 address that is mapped to an IPv6 address. -/
def toIpv4Mapped
    (ip : Ipv6Addr) : Option Ipv4Addr :=
  match ip.segments with
  | [s0, s1, s2, s3, s4, s5, s6, s7] =>
      if
          s0 = 0 ∧ s1 = 0 ∧ s2 = 0 ∧ s3 = 0 ∧ s4 = 0 ∧
            s5 = 0xFFFF then
        some
          ⟨highOctet s6, lowOctet s6, highOctet s7,
            lowOctet s7⟩
      else
        none
  | _ => none

/- A run of segments. -/
structure Span where
  start : Nat
  len : Nat

/- Look for the longest run of zeroes, from a segment on. -/
def scanZeroes :
    Nat → Span → Span → List UInt16 → Span
| _, longest, _, [] => longest
| i, longest, current, segment :: rest =>
    if segment = 0 then
      let current : Span :=
        { start :=
            if current.len = 0 then i else current.start
          len := current.len + 1 }
      let longest :=
        if longest.len < current.len then
          current
        else
          longest
      scanZeroes (i + 1) longest current rest
    else
      scanZeroes (i + 1) longest ⟨0, 0⟩ rest

/- The first of the longest runs of zeroes. -/
def longestZeroes
    (segments : List UInt16) : Span :=
  scanZeroes 0 ⟨0, 0⟩ ⟨0, 0⟩ segments

def fmtSegment
    (segment : UInt16) : List Char :=
  Nat.toDigits 16 segment.toNat

/- Segments with a colon before each of them. -/
def fmtTail
    (segments : List UInt16) : List Char :=
  segments.flatMap fun segment => ':' :: fmtSegment segment

/- Segments with colons between them. -/
def fmtSubslice :
    List UInt16 → List Char
| [] => []
| first :: tail => fmtSegment first ++ fmtTail tail

def fmt
    (ip : Ipv6Addr) : List Char :=
  match ip.toIpv4Mapped with
  | some mapped => "::ffff:".toList ++ mapped.fmt
  | none =>
      let zeroes := longestZeroes ip.segments
      if 1 < zeroes.len then
        fmtSubslice (ip.segments.take zeroes.start) ++
          ':' :: ':' ::
            fmtSubslice
              (ip.segments.drop (zeroes.start + zeroes.len))
      else
        fmtSubslice ip.segments

end Ipv6Addr

namespace SocketAddr

/- The host part of a printed address. -/
def fmtHost :
    IpAddr → List Char
| .v4 ip => ip.fmt
| .v6 ip => '[' :: (ip.fmt ++ [']'])

def fmt :
    SocketAddr → List Char
| .v4 addr =>
    addr.ip.fmt ++ ':' :: Nat.toDigits 10 addr.port.toNat
| .v6 addr =>
    '[' ::
      (addr.ip.fmt ++
        ((if addr.scopeId = 0 then
            []
          else
            '%' :: Nat.toDigits 10 addr.scopeId.toNat) ++
          ']' :: ':' :: Nat.toDigits 10 addr.port.toNat))

/- A host, a colon and the port. -/
theorem fmt_new
    (ip : IpAddr)
    (port : UInt16) :
    (new ip port).fmt =
      fmtHost ip ++ ':' :: Nat.toDigits 10 port.toNat := by
  cases ip with
  | v4 ip => rfl
  | v6 ip => simp [new, fmt, fmtHost]

end SocketAddr

end IsaWorkspace

------------------------------------------------------------
-- Parsing
------------------------------------------------------------

namespace IsaWorkspace

namespace AddrParser

open Numeral

def readGivenChar
    (target : Char) : List Char → Option (List Char)
| [] => none
| char :: rest =>
    if char = target then some rest else none

/- A separator, except before the first of the pieces. -/
def readSeparator
    {α : Type}
    (separator : Char)
    (index : Nat)
    (inner : List Char → Option (α × List Char))
    (input : List Char) : Option (α × List Char) :=
  if 0 < index then
    (readGivenChar separator input).bind inner
  else
    inner input

/- One of the four numbers of an IPv4 address. -/
def readOctet
    (input : List Char) : Option (UInt8 × List Char) :=
  (readNumber 10 256 (some 3) false input).map fun read =>
    (UInt8.ofNat read.1, read.2)

def readIpv4Addr
    (input : List Char) : Option (Ipv4Addr × List Char) := do
  let (a, input) ← readSeparator '.' 0 readOctet input
  let (b, input) ← readSeparator '.' 1 readOctet input
  let (c, input) ← readSeparator '.' 2 readOctet input
  let (d, input) ← readSeparator '.' 3 readOctet input
  some (⟨a, b, c, d⟩, input)

/- One group of an IPv6 address. -/
def readGroup
    (input : List Char) : Option (UInt16 × List Char) :=
  (readNumber 16 65536 (some 4) true input).map fun read =>
    (UInt16.ofNat read.1, read.2)

/-
  Read groups of an IPv6 address while there is room for
  more.  The flag says that the last two are an embedded
  IPv4 address, for which there must be room for two.
-/
def readGroups :
    Nat → Nat → List Char →
      (List UInt16 × Bool) × List Char
| 0, _, input => (([], false), input)
| room + 1, index, input =>
    let embedded :=
      if 0 < room then
        readSeparator ':' index readIpv4Addr input
      else
        none
    match embedded with
    | some (ip, rest) =>
        (([Ipv6Addr.fromOctets ip.a ip.b,
            Ipv6Addr.fromOctets ip.c ip.d], true), rest)
    | none =>
        match readSeparator ':' index readGroup input with
        | none => (([], false), input)
        | some (group, rest) =>
            let more := readGroups room (index + 1) rest
            ((group :: more.1.1, more.1.2), more.2)

/- No more groups are read than there is room for. -/
theorem readGroups_length_le
    (room index : Nat)
    (input : List Char) :
    (readGroups room index input).1.1.length ≤ room := by
  induction room generalizing index input with
  | zero => exact Nat.le_refl 0
  | succ room ih =>
      rw [readGroups]
      dsimp only
      split
      · rename_i ip rest hEmbedded
        have hRoom : 0 < room := by
          by_contra hNone
          rw [if_neg hNone] at hEmbedded
          cases hEmbedded
        exact Nat.succ_le_succ hRoom
      · split
        · exact Nat.zero_le _
        · exact Nat.succ_le_succ (ih _ _)

/- The groups before and after a run of zeroes. -/
def joinGroups
    (head tail : List UInt16)
    (hFits : tail.length ≤ 8 - (head.length + 1))
    (hHead : head.length < 8) : Ipv6Addr where
  segments :=
    head ++
      (List.replicate (8 - head.length - tail.length) 0 ++
        tail)
  length_eq := by
    rw [List.length_append, List.length_append,
      List.length_replicate]
    omega

def readIpv6Addr
    (input : List Char) : Option (Ipv6Addr × List Char) :=
  let head := readGroups 8 0 input
  if hFull : head.1.1.length = 8 then
    some (⟨head.1.1, hFull⟩, head.2)
  else if head.1.2 then
    none
  else do
    let rest ← readGivenChar ':' head.2
    let rest ← readGivenChar ':' rest
    let room := 8 - (head.1.1.length + 1)
    let tail := readGroups room 0 rest
    some
      (joinGroups head.1.1 tail.1.1
        (readGroups_length_le room 0 rest)
        (Nat.lt_of_le_of_ne
          (readGroups_length_le 8 0 input) hFull),
        tail.2)

/- A colon and a port. -/
def readPort
    (input : List Char) : Option (UInt16 × List Char) := do
  let rest ← readGivenChar ':' input
  let (port, rest) ← readNumber 10 65536 none true rest
  some (UInt16.ofNat port, rest)

/- A percent sign and a scope. -/
def readScopeId
    (input : List Char) : Option (UInt32 × List Char) := do
  let rest ← readGivenChar '%' input
  let (scope, rest) ← readNumber 10 (2 ^ 32) none true rest
  some (UInt32.ofNat scope, rest)

def readSocketAddrV4
    (input : List Char) :
    Option (SocketAddrV4 × List Char) := do
  let (ip, rest) ← readIpv4Addr input
  let (port, rest) ← readPort rest
  some (⟨ip, port⟩, rest)

def readSocketAddrV6
    (input : List Char) :
    Option (SocketAddrV6 × List Char) := do
  let rest ← readGivenChar '[' input
  let (ip, rest) ← readIpv6Addr rest
  let (scopeId, rest) := (readScopeId rest).getD (0, rest)
  let rest ← readGivenChar ']' rest
  let (port, rest) ← readPort rest
  some (⟨ip, port, 0, scopeId⟩, rest)

def readSocketAddr
    (input : List Char) : Option (SocketAddr × List Char) :=
  ((readSocketAddrV4 input).map fun read =>
      (SocketAddr.v4 read.1, read.2)).orElse fun _ =>
    (readSocketAddrV6 input).map fun read =>
      (SocketAddr.v6 read.1, read.2)

end AddrParser

/- An address is parsed only if the whole text is one. -/
def SocketAddr.parse
    (text : List Char) : Option SocketAddr :=
  (AddrParser.readSocketAddr text).bind fun read =>
    if read.2 = [] then some read.1 else none

end IsaWorkspace
