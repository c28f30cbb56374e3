import IsaWorkspace.Foundations.SocketAddrText
import IsaWorkspace.Proxy.Forwarding

/-
  Which address the proxy connects to.

  The proxy takes its first read for the whole request.  A
  read that ends inside the port names another port of the
  same host, and one that ends before the port is rejected.

  Main declarations:
    * `ConnectsOnlyTo`, `EndsInPort`
    * `targetAddr_whole`, `targetAddr_inPort`
    * `targetAddr_beforePort`
    * `connectsOnlyTo_iff`
-/

------------------------------------------------------------
-- Requests in Pieces
------------------------------------------------------------

namespace IsaWorkspace

open SocketAddr

/-
  In any network, the proxy connects to one address or does
  not connect.
-/
def ConnectsOnlyTo
    (bufferSize : UInt64)
    (client : List Bytes)
    (destAddr : SocketAddr) : Prop :=
  ∀ network schedule addr forwarding,
    handleConnectionWithForwarding bufferSize network
        schedule client =
      .connected addr forwarding →
    addr = destAddr

/- How many bytes the first read returns. -/
def firstReadLength
    (bufferSize : UInt64)
    (client : List Bytes) : Nat :=
  ((firstRead bufferSize client).map fun read =>
    read.1.length).getD 0

/-
  The first read ends inside the port of the address: it has
  some of its digits, but not all of them.
-/
def EndsInPort
    (bufferSize : UInt64)
    (client : List Bytes)
    (ip : IpAddr)
    (port : UInt16) : Prop :=
  "CONNECT ".length + (fmtHost ip).length + 1 <
      firstReadLength bufferSize client ∧
    firstReadLength bufferSize client <
      "CONNECT ".length + (new ip port).fmt.length

instance
    (bufferSize : UInt64)
    (client : List Bytes)
    (ip : IpAddr)
    (port : UInt16) :
    Decidable (EndsInPort bufferSize client ip port) :=
  inferInstanceAs (Decidable (_ ∧ _))

variable {ip : IpAddr} {port : UInt16}

theorem fmt_new_ne_nil :
    (new ip port).fmt ≠ [] := by
  rw [fmt_new]
  intro hNil
  cases (List.append_eq_nil_iff.mp hNil).2

theorem isAscii_fmt :
    Text.IsAscii (new ip port).fmt := by
  intro char hChar
  exact (isAddrChar_of_mem_fmt hChar).ascii

theorem isAscii_connectRequest :
    Text.IsAscii (connectRequest (new ip port)) :=
  Text.IsAscii.append (by decide)
    (isAscii_fmt.append
      (Text.IsAscii.append (by decide)
        (isAscii_fmt.append (by decide))))

/- The first bytes of a request, as many as were read. -/
def firstBytes
    (ip : IpAddr)
    (port : UInt16)
    (count : Nat) : Bytes :=
  (asBytes
    (String.ofList (connectRequest (new ip port)))).take count

theorem firstBytes_eq
    (count : Nat) :
    firstBytes ip port count =
      ((connectRequest (new ip port)).take count).map
        fun char => UInt8.ofNat char.toNat := by
  unfold firstBytes
  rw [asBytes_ascii isAscii_connectRequest, List.map_take]

/- ASCII text is read as it stands. -/
theorem fromUtf8Lossy_firstBytes
    (count : Nat) :
    Text.fromUtf8Lossy (firstBytes ip port count) =
      (connectRequest (new ip port)).take count := by
  have hAscii :
      Text.IsAscii
        ((connectRequest (new ip port)).take count) := by
    intro char hChar
    exact
      isAscii_connectRequest char (List.mem_of_mem_take hChar)
  have hText := Text.fromUtf8Lossy_ascii hAscii []
  rw [List.append_nil] at hText
  rw [firstBytes_eq, hText]
  exact List.append_nil _

/- Less than the first word is no request. -/
theorem targetAddr_short
    {count : Nat}
    (hShort : count < "CONNECT ".length) :
    targetAddr (firstBytes ip port count) = none := by
  have hText :
      (connectRequest (new ip port)).take count =
        "CONNECT ".toList.take count :=
    List.take_append_of_le_length (Nat.le_of_lt hShort)
  have hLength :
      (firstBytes ip port count).length = count := by
    rw [firstBytes_eq, List.length_map, hText,
      List.length_take]
    exact Nat.min_eq_left (Nat.le_of_lt hShort)
  have hNone :
      Text.stripPrefix ("CONNECT ".toList.take count)
          "CONNECT ".toList =
        none := by
    apply Text.stripPrefix_short
    rw [List.length_take]
    exact Nat.lt_of_le_of_lt (Nat.min_le_left _ _) hShort
  unfold targetAddr
  rw [fromUtf8Lossy_firstBytes, hText]
  dsimp only
  rw [hNone, hLength]
  dsimp only
  split
  · rename_i hSeven
    have hCount : count = 7 :=
      Nat.le_antisymm (Nat.le_of_lt_succ hShort) hSeven
    rw [hCount]
    decide
  · rfl

/- A request behind its target. -/
def afterTarget
    (destAddr : SocketAddr) : List Char :=
  " HTTP/1.1\r\nHost: ".toList ++
    (destAddr.fmt ++ "\r\n\r\n".toList)

theorem isAscii_afterTarget :
    Text.IsAscii (afterTarget (new ip port)) :=
  Text.IsAscii.append (by decide)
    (isAscii_fmt.append (by decide))

/- There is white space behind the target. -/
theorem head_take_afterTarget
    (destAddr : SocketAddr)
    (count : Nat) :
    ∀ char ∈ ((afterTarget destAddr).take count).head?,
      Text.isWhitespace char = true := by
  intro char hChar
  cases count with
  | zero => cases hChar
  | succ count =>
      cases hChar
      decide

/- The word after the first is read as far as it came. -/
theorem targetAddr_firstBytes
    (count : Nat) :
    targetAddr
        (firstBytes ip port ("CONNECT ".length + count)) =
      SocketAddr.parse ((new ip port).fmt.take count) := by
  have hText :
      (connectRequest (new ip port)).take
          ("CONNECT ".length + count) =
        "CONNECT ".toList ++
          ((new ip port).fmt.take count ++
            (afterTarget (new ip port)).take
              (count - (new ip port).fmt.length)) := by
    rw [← List.take_append]
    exact List.take_length_add_append count
  have hAscii :
      Text.IsAscii
        ((afterTarget (new ip port)).take
          (count - (new ip port).fmt.length)) := by
    intro char hChar
    exact
      isAscii_afterTarget char (List.mem_of_mem_take hChar)
  rw [firstBytes_eq, hText]
  by_cases hNone : (new ip port).fmt.take count = []
  · have hZero : count = 0 :=
      (List.take_eq_nil_iff.mp hNone).resolve_right
        fmt_new_ne_nil
    rw [hNone, hZero, Nat.zero_sub, List.take_zero]
    decide
  · rw [← List.append_nil (List.map _ _)]
    apply targetAddr_connect _ hNone _ hAscii
    · intro char hChar
      rw [show Text.fromUtf8Lossy [] = [] from rfl,
        List.append_nil] at hChar
      exact head_take_afterTarget _ _ char hChar
    · intro char hChar
      exact isAscii_fmt char (List.mem_of_mem_take hChar)
    · intro char hChar
      exact
        (isAddrChar_of_mem_fmt
          (List.mem_of_mem_take hChar)).not_whitespace

end IsaWorkspace

------------------------------------------------------------
-- Where the First Read Ends
------------------------------------------------------------

namespace IsaWorkspace

open SocketAddr

variable {ip : IpAddr} {port : UInt16}

/- With the whole target, the request is for the address. -/
theorem targetAddr_whole
    {count : Nat}
    (hWhole : (new ip port).fmt.length ≤ count) :
    targetAddr
        (firstBytes ip port ("CONNECT ".length + count)) =
      some (new ip port) := by
  rw [targetAddr_firstBytes, List.take_of_length_le hWhole,
    parse_fmt]

/- Cut before the port, the request is for no address. -/
theorem targetAddr_beforePort
    {count : Nat}
    (hBefore : count ≤ (fmtHost ip).length + 1) :
    targetAddr
        (firstBytes ip port ("CONNECT ".length + count)) =
      none := by
  have hPrefix :
      (new ip port).fmt.take count <+: fmtHost ip ++ [':'] := by
    have hText :
        (new ip port).fmt =
          (fmtHost ip ++ [':']) ++
            Nat.toDigits 10 port.toNat := by
      rw [fmt_new, List.append_assoc, List.singleton_append]
    rw [hText,
      List.take_append_of_le_length
        (by rwa [List.length_append, List.length_singleton])]
    exact List.take_prefix _ _
  rw [targetAddr_firstBytes, parse_cutHost ip hPrefix]

/- Cut inside the port, it is for another address. -/
theorem targetAddr_inPort
    {count : Nat}
    (hAfter : (fmtHost ip).length + 1 < count)
    (hInside : count < (new ip port).fmt.length) :
    ∃ other, other ≠ port ∧
      targetAddr
          (firstBytes ip port ("CONNECT ".length + count)) =
        some (new ip other) := by
  have hLength := congrArg List.length (fmt_new ip port)
  rw [List.length_append, List.length_cons] at hLength
  have hText :
      (new ip port).fmt.take count =
        fmtHost ip ++
          ':' ::
            (Nat.toDigits 10 port.toNat).take
              (count - (fmtHost ip).length - 1) := by
    have hCount :
        count - (fmtHost ip).length =
          (count - (fmtHost ip).length - 1) + 1 := by
      omega
    rw [fmt_new, List.take_append,
      List.take_of_length_le (by omega), hCount,
      List.take_succ_cons]
    rfl
  have hDigits :
      Nat.toDigits 10 port.toNat =
        (Nat.toDigits 10 port.toNat).take
            (count - (fmtHost ip).length - 1) ++
          (Nat.toDigits 10 port.toNat).drop
            (count - (fmtHost ip).length - 1) :=
    (List.take_append_drop _ _).symm
  have hKept :
      (Nat.toDigits 10 port.toNat).take
          (count - (fmtHost ip).length - 1) ≠
        [] := by
    apply List.ne_nil_of_length_pos
    rw [List.length_take]
    omega
  have hLost :
      (Nat.toDigits 10 port.toNat).drop
          (count - (fmtHost ip).length - 1) ≠
        [] := by
    apply List.ne_nil_of_length_pos
    rw [List.length_drop]
    omega
  rcases parse_cutPort ip hDigits hKept hLost with
    ⟨other, hOther, hParse⟩
  refine ⟨other, hOther, ?_⟩
  rw [targetAddr_firstBytes, hText, hParse]

end IsaWorkspace

------------------------------------------------------------
-- Connections for a Request
------------------------------------------------------------

namespace IsaWorkspace

open SocketAddr

variable {ip : IpAddr} {port : UInt16}
variable {bufferSize : UInt64} {client : List Bytes}

/- The first read returns the first bytes of the request. -/
theorem firstRead_eq_firstBytes
    (hRequest :
      client.flatten =
        asBytes
          (String.ofList (connectRequest (new ip port))))
    {first : Bytes}
    {rest : List Bytes}
    (hRead :
      firstRead bufferSize client = some (first, rest)) :
    first =
      firstBytes ip port
        (firstReadLength bufferSize client) := by
  have hFlatten : client.flatten = first ++ rest.flatten :=
    Chunks.flatten_of_read hRead
  unfold firstReadLength firstBytes
  rw [hRead, ← hRequest, hFlatten]
  exact List.take_left.symm

/-
  The proxy connects to the requested address only, exactly
  where its first read does not end inside the port.
-/
theorem connectsOnlyTo_iff
    (hRequest :
      client.flatten =
        asBytes
          (String.ofList (connectRequest (new ip port)))) :
    ConnectsOnlyTo bufferSize client (new ip port) ↔
      ¬ EndsInPort bufferSize client ip port := by
  constructor
  · rintro hOnly ⟨hAfter, hInside⟩
    obtain ⟨count, hCount⟩ :=
      Nat.exists_eq_add_of_le
        (by omega :
          "CONNECT ".length ≤
            firstReadLength bufferSize client)
    rcases
        @targetAddr_inPort ip port count (by omega)
          (by omega) with
      ⟨other, hOther, hTarget⟩
    cases hRead : firstRead bufferSize client with
    | none =>
        have hZero : firstReadLength bufferSize client = 0 := by
          unfold firstReadLength
          rw [hRead]
          rfl
        omega
    | some read =>
        have hFirst := firstRead_eq_firstBytes hRequest hRead
        rw [hCount] at hFirst
        rw [← hFirst] at hTarget
        have hSome : read.1 ≠ [] := by
          intro hNil
          rw [hNil, targetAddr_nil] at hTarget
          cases hTarget
        have hHandled :=
          handleConnection_target hRead hSome hTarget
            (fun _ => some []) []
        have hSame := hOnly _ _ _ _ hHandled
        exact hOther (new_inj.mp hSame)
  · intro hNot network schedule addr forwarding hConnected
    rcases of_handleConnection_connected hConnected with
      ⟨first, rest, hRead, hTarget⟩
    rw [firstRead_eq_firstBytes hRequest hRead] at hTarget
    by_cases hShort :
        firstReadLength bufferSize client < "CONNECT ".length
    · rw [targetAddr_short hShort] at hTarget
      cases hTarget
    · obtain ⟨count, hCount⟩ :=
        Nat.exists_eq_add_of_le (Nat.le_of_not_lt hShort)
      rw [hCount] at hTarget
      by_cases hBefore : count ≤ (fmtHost ip).length + 1
      · rw [targetAddr_beforePort hBefore] at hTarget
        cases hTarget
      · have hWhole : (new ip port).fmt.length ≤ count := by
          by_contra hInside
          apply hNot
          constructor
          · omega
          · omega
        rw [targetAddr_whole hWhole] at hTarget
        exact (Option.some.inj hTarget).symm

/- A request for port 443 of an IPv4 host. -/
def sampleRequest : Bytes :=
  asBytes
    (String.ofList
      (connectRequest (new (.v4 ⟨8, 8, 8, 8⟩) 443)))

/- A request that arrives in two pieces, cut in the host. -/
theorem connectsOnlyTo_cutInHost :
    ConnectsOnlyTo 65536
      [sampleRequest.take 12, sampleRequest.drop 12]
      (new (.v4 ⟨8, 8, 8, 8⟩) 443) := by
  have hRequest :
      [sampleRequest.take 12, sampleRequest.drop 12].flatten =
        sampleRequest := by
    decide +kernel
  apply (connectsOnlyTo_iff hRequest).mpr
  decide +kernel

/- Cut after the first digit of 443, it is for port 4. -/
theorem connectsOnlyTo_cutInPort :
    [sampleRequest.take 17, sampleRequest.drop 17].flatten =
        sampleRequest ∧
      ¬ ConnectsOnlyTo 65536
        [sampleRequest.take 17, sampleRequest.drop 17]
        (new (.v4 ⟨8, 8, 8, 8⟩) 443) := by
  constructor
  · decide +kernel
  · intro hOnly
    have hRead :
        firstRead 65536
            [sampleRequest.take 17, sampleRequest.drop 17] =
          some
            (sampleRequest.take 17,
              [sampleRequest.drop 17]) := by
      decide +kernel
    have hTarget :
        targetAddr (sampleRequest.take 17) =
          some (new (.v4 ⟨8, 8, 8, 8⟩) 4) := by
      decide +kernel
    have hHandled :=
      handleConnection_target hRead (by decide +kernel)
        hTarget (fun _ => some []) []
    have hSame := hOnly _ _ _ _ hHandled
    revert hSame
    decide +kernel

end IsaWorkspace
