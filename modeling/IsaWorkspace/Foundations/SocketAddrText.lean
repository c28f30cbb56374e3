import IsaWorkspace.Foundations.AddrReading

/-
  Parsing printed socket addresses.

  A printed address is parsed to itself.  Cut inside its
  port, it is parsed to another port of the same host, and
  cut before the port it is no address.

  Main declarations:
    * `AddrParser.readSocketAddr_host`
    * `SocketAddr.parse_host`, `SocketAddr.parse_fmt`
    * `SocketAddr.parse_cutPort`, `SocketAddr.parse_cutHost`
-/

------------------------------------------------------------
-- Hosts and Ports
------------------------------------------------------------

namespace IsaWorkspace

namespace AddrParser

open Numeral

/- A port is all the digits after a colon. -/
theorem readPort_digits
    {digits : List Char}
    (hSome : digits ≠ [])
    (hAll : ∀ char ∈ digits, isDigit 10 char = true)
    (hBound : value 10 digits < 65536) :
    readPort (':' :: digits) =
      some (UInt16.ofNat (value 10 digits), []) := by
  have hNumber :
      readNumber 10 65536 none true (digits ++ []) =
        some (value 10 digits, []) :=
    readNumber_digits hSome hAll
      (fun _ hChar => by cases hChar)
      (fun _ hMost => by cases hMost)
      (Or.inl rfl) hBound
  rw [List.append_nil] at hNumber
  unfold readPort
  rw [readGivenChar_cons]
  dsimp only [Option.bind_eq_bind, Option.bind_some]
  rw [hNumber]
  rfl

/- There is no port without a colon. -/
theorem readPort_noColon
    {input : List Char}
    (hColon : ':' ∉ input) :
    readPort input = none := by
  unfold readPort
  rw [readGivenChar_none hColon]
  rfl

/- There is no port without a digit. -/
theorem readPort_colon :
    readPort [':'] = none := by
  decide

/- After an IPv4 address comes the port. -/
theorem readSocketAddrV4_host
    (ip : Ipv4Addr)
    {rest : List Char}
    (hRest : NoDigit 10 rest) :
    readSocketAddrV4 (ip.fmt ++ rest) =
      (readPort rest).map fun read =>
        (⟨ip, read.1⟩, read.2) := by
  unfold readSocketAddrV4
  rw [readIpv4Addr_fmt ip hRest]
  dsimp only [Option.bind_eq_bind, Option.bind_some]
  cases readPort rest with
  | none => rfl
  | some read => rfl

theorem readSocketAddrV4_bracket
    (rest : List Char) :
    readSocketAddrV4 ('[' :: rest) = none := by
  unfold readSocketAddrV4
  rw [readIpv4Addr_noDigit (noDigit_cons (by decide) rest)]
  rfl

/- Text without a colon holds no port. -/
theorem readSocketAddrV4_noColon
    {text : List Char}
    (hColon : ':' ∉ text) :
    readSocketAddrV4 text = none := by
  unfold readSocketAddrV4
  cases hIp : readIpv4Addr text with
  | none => rfl
  | some read =>
      have hRest : ':' ∉ read.2 := fun hMem =>
        hColon ((suffix_of_readIpv4Addr hIp).subset hMem)
      dsimp only [Option.bind_eq_bind, Option.bind_some]
      rw [readPort_noColon hRest]
      rfl

/- After an IPv6 address in brackets comes the port. -/
theorem readSocketAddrV6_host
    (ip : Ipv6Addr)
    {rest : List Char}
    (hPoint : '.' ∉ rest) :
    readSocketAddrV6 ('[' :: (ip.fmt ++ ']' :: rest)) =
      (readPort rest).map fun read =>
        (⟨ip, read.1, 0, 0⟩, read.2) := by
  have hScope : readScopeId (']' :: rest) = none := by
    unfold readScopeId
    rw [readGivenChar_ne (by decide)]
    rfl
  unfold readSocketAddrV6
  rw [readGivenChar_cons]
  dsimp only [Option.bind_eq_bind, Option.bind_some]
  rw [readIpv6Addr_fmt ip hPoint]
  dsimp only [Option.bind_some]
  rw [hScope]
  dsimp only [Option.getD_none]
  rw [readGivenChar_cons]
  dsimp only [Option.bind_some]
  cases readPort rest with
  | none => rfl
  | some read => rfl

theorem readSocketAddrV6_noBracket
    {input : List Char}
    (hOpen : '[' ∉ input.head?) :
    readSocketAddrV6 input = none := by
  have hGiven : readGivenChar '[' input = none := by
    cases input with
    | nil => rfl
    | cons char rest =>
        apply readGivenChar_ne
        rintro rfl
        exact hOpen rfl
  unfold readSocketAddrV6
  rw [hGiven]
  rfl

theorem suffix_of_readScopeId
    {input rest : List Char}
    {scopeId : UInt32}
    (hRead : readScopeId input = some (scopeId, rest)) :
    rest <:+ input := by
  rcases Option.bind_eq_some_iff.mp hRead with
    ⟨first, hFirst, hNumber⟩
  rcases Option.bind_eq_some_iff.mp hNumber with
    ⟨read, hScope, hEq⟩
  cases hEq
  exact
    (suffix_of_readNumber hScope).trans
      (suffix_of_readGivenChar hFirst)

/- Without a closing bracket there is no IPv6 address. -/
theorem readSocketAddrV6_unclosed
    {text : List Char}
    (hClose : ']' ∉ text) :
    readSocketAddrV6 text = none := by
  unfold readSocketAddrV6
  cases hOpen : readGivenChar '[' text with
  | none => rfl
  | some inner =>
      dsimp only [Option.bind_eq_bind, Option.bind_some]
      cases hIp : readIpv6Addr inner with
      | none => rfl
      | some read =>
          have hSuffix : read.2 <:+ text :=
            (suffix_of_readIpv6Addr hIp).trans
              (suffix_of_readGivenChar hOpen)
          have hAfter :
              ((readScopeId read.2).getD (0, read.2)).2 <:+
                text := by
            cases hScope : readScopeId read.2 with
            | none => exact hSuffix
            | some scope =>
                exact
                  (suffix_of_readScopeId hScope).trans hSuffix
          have hNone :
              readGivenChar ']'
                  ((readScopeId read.2).getD
                    (0, read.2)).2 =
                none :=
            readGivenChar_none fun hMem =>
              hClose (hAfter.subset hMem)
          dsimp only [Option.bind_some]
          rw [hNone]
          rfl

/- A printed IPv4 address does not start with a bracket. -/
theorem bracket_notMem_ipv4_fmt
    (ip : Ipv4Addr) :
    '[' ∉ ip.fmt := by
  intro hMem
  have hChar := of_mem_ipv4_fmt hMem
  revert hChar
  decide

theorem ipv4_fmt_ne_nil
    (ip : Ipv4Addr) :
    ip.fmt ≠ [] := by
  intro hNil
  exact
    Nat.toDigits_ne_nil (List.append_eq_nil_iff.mp hNil).1

/- After a printed host comes the port. -/
theorem readSocketAddr_host
    (ip : IpAddr)
    {rest : List Char}
    (hRest : NoDigit 10 rest)
    (hPoint : '.' ∉ rest) :
    readSocketAddr (SocketAddr.fmtHost ip ++ rest) =
      (readPort rest).map fun read =>
        (SocketAddr.new ip read.1, read.2) := by
  cases ip with
  | v4 ip =>
      have hOpen : '[' ∉ (ip.fmt ++ rest).head? := by
        rw [List.head?_append_of_ne_nil _
          (ipv4_fmt_ne_nil ip)]
        intro hHead
        exact
          bracket_notMem_ipv4_fmt ip
            (List.mem_of_mem_head? hHead)
      unfold readSocketAddr SocketAddr.fmtHost
      rw [readSocketAddrV4_host ip hRest,
        readSocketAddrV6_noBracket hOpen]
      cases readPort rest with
      | none => rfl
      | some read => rfl
  | v6 ip =>
      have hText :
          SocketAddr.fmtHost (.v6 ip) ++ rest =
            '[' :: (ip.fmt ++ ']' :: rest) := by
        simp [SocketAddr.fmtHost]
      unfold readSocketAddr
      rw [hText, readSocketAddrV4_bracket,
        readSocketAddrV6_host ip hPoint]
      cases readPort rest with
      | none => rfl
      | some read => rfl

end AddrParser

end IsaWorkspace

------------------------------------------------------------
-- Whole and Cut Addresses
------------------------------------------------------------

namespace IsaWorkspace

namespace SocketAddr

open AddrParser Numeral

/- A host with any digits for a port is parsed. -/
theorem parse_host
    (ip : IpAddr)
    {digits : List Char}
    (hSome : digits ≠ [])
    (hAll : ∀ char ∈ digits, isDigit 10 char = true)
    (hBound : value 10 digits < 65536) :
    parse (fmtHost ip ++ ':' :: digits) =
      some (new ip (UInt16.ofNat (value 10 digits))) := by
  have hPoint : '.' ∉ ':' :: digits := by
    intro hMem
    rcases List.mem_cons.mp hMem with hEq | hDigits
    · cases hEq
    · have hDigit := hAll '.' hDigits
      revert hDigit
      decide
  unfold parse
  rw [readSocketAddr_host ip (noDigit_cons (by decide) _)
    hPoint, readPort_digits hSome hAll hBound]
  rfl

/- A printed address is parsed to itself. -/
theorem parse_fmt
    (ip : IpAddr)
    (port : UInt16) :
    parse (new ip port).fmt = some (new ip port) := by
  have hValue :
      value 10 (Nat.toDigits 10 port.toNat) = port.toNat :=
    value_toDigits (by decide) (by decide) _
  have hBound :
      value 10 (Nat.toDigits 10 port.toNat) < 65536 := by
    rw [hValue]
    exact port.toNat_lt
  rw [fmt_new,
    parse_host ip Nat.toDigits_ne_nil
      (fun _ => isDigit_of_mem_toDigits (by decide)
        (by decide)) hBound,
    hValue, UInt16.ofNat_toNat]

/- Cut inside the port, it is parsed to another port. -/
theorem parse_cutPort
    (ip : IpAddr)
    {port : UInt16}
    {kept lost : List Char}
    (hDigits : Nat.toDigits 10 port.toNat = kept ++ lost)
    (hKept : kept ≠ [])
    (hLost : lost ≠ []) :
    ∃ other, other ≠ port ∧
      parse (fmtHost ip ++ ':' :: kept) =
        some (new ip other) := by
  have hSmaller : value 10 kept < port.toNat :=
    value_lt_of_cut (by decide) (by decide) hDigits hKept
      hLost
  have hBound : value 10 kept < 65536 :=
    hSmaller.trans port.toNat_lt
  refine ⟨UInt16.ofNat (value 10 kept), ?_, ?_⟩
  · intro hSame
    have hNat := congrArg UInt16.toNat hSame
    rw [UInt16.toNat_ofNat_of_lt' hBound] at hNat
    omega
  · apply parse_host ip hKept _ hBound
    intro char hChar
    apply
      @isDigit_of_mem_toDigits 10 (by decide) (by decide)
        port.toNat
    rw [hDigits]
    exact List.mem_append_left lost hChar

/- What is no address of either kind is not parsed. -/
theorem parse_none
    {text : List Char}
    (hV4 : readSocketAddrV4 text = none)
    (hV6 : readSocketAddrV6 text = none) :
    parse text = none := by
  unfold parse readSocketAddr
  rw [hV4, hV6]
  rfl

/- A host without a port is not parsed. -/
theorem parse_fmtHost
    (ip : IpAddr) :
    parse (fmtHost ip) = none ∧
      parse (fmtHost ip ++ [':']) = none := by
  have hNil := @readSocketAddr_host ip []
    (fun _ hChar => by cases hChar) (List.not_mem_nil)
  have hColon := @readSocketAddr_host ip [':']
    (noDigit_cons (by decide) []) (by decide)
  rw [List.append_nil] at hNil
  unfold parse
  constructor
  · rw [hNil]
    rfl
  · rw [hColon, readPort_colon]
    rfl

/- Cut before the port, it is not parsed. -/
theorem parse_cutHost
    (ip : IpAddr)
    {text : List Char}
    (hCut : text <+: fmtHost ip ++ [':']) :
    parse text = none := by
  rcases List.prefix_concat_iff.mp hCut with rfl | hHost
  · exact (parse_fmtHost ip).2
  · cases ip with
    | v4 ip =>
        have hColon : ':' ∉ text := by
          intro hMem
          have hChar := of_mem_ipv4_fmt (hHost.subset hMem)
          revert hChar
          decide
        have hOpen : '[' ∉ text.head? := by
          intro hHead
          exact
            bracket_notMem_ipv4_fmt ip
              (hHost.subset (List.mem_of_mem_head? hHead))
        exact
          parse_none (readSocketAddrV4_noColon hColon)
            (readSocketAddrV6_noBracket hOpen)
    | v6 ip =>
        have hText :
            fmtHost (.v6 ip) = ('[' :: ip.fmt) ++ [']'] := rfl
        rw [hText] at hHost
        rcases List.prefix_concat_iff.mp hHost with
          rfl | hInside
        · exact (parse_fmtHost (.v6 ip)).1
        · have hClose : ']' ∉ text := by
            intro hMem
            rcases List.mem_cons.mp (hInside.subset hMem) with
              hEq | hFmt
            · cases hEq
            · have hChar := of_mem_ipv6_fmt hFmt
              revert hChar
              decide
          have hV4 : readSocketAddrV4 text = none := by
            cases text with
            | nil => rfl
            | cons char rest =>
                rcases List.cons_prefix_cons.mp hInside with
                  ⟨rfl, _⟩
                exact readSocketAddrV4_bracket rest
          exact
            parse_none hV4 (readSocketAddrV6_unclosed hClose)

end SocketAddr

end IsaWorkspace
