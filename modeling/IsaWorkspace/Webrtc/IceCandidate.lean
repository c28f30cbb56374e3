import IsaWorkspace.Foundations.Numerals
import IsaWorkspace.Foundations.Text

/-
  Candidates for a connection, as lines of a session
  description.

  A line names nine fields between spaces, the last two only
  where there is a related address.  It is read by the words
  on it, one for each field in its place.

  Main declarations:
    * `CandidateType`, `IceCandidate`
    * `IceCandidate.toSdp`, `IceCandidate.fromSdp`
-/

------------------------------------------------------------
-- Candidates
------------------------------------------------------------

namespace IsaWorkspace

/- Candidate type. -/
inductive CandidateType where
  | host
  | srflx
  | prflx
  | relay
deriving DecidableEq

/- ICE candidate. -/
structure IceCandidate where
  foundation : String
  componentId : UInt16
  protocol : String
  priority : UInt64
  address : String
  port : UInt16
  candidateType : CandidateType
  relatedAddress : Option String
  relatedPort : Option UInt16
deriving DecidableEq

------------------------------------------------------------
-- Lines
------------------------------------------------------------

/- The word of a type. -/
def CandidateType.text : CandidateType → String
| .host => "host"
| .srflx => "srflx"
| .prflx => "prflx"
| .relay => "relay"

/- The type of a word; unknown words are host candidates. -/
def CandidateType.ofText : String → CandidateType
| "host" => .host
| "srflx" => .srflx
| "prflx" => .prflx
| "relay" => .relay
| _ => .host

namespace IceCandidate

/- The related address, where there is one. -/
def relatedSdp
    (candidate : IceCandidate) : String :=
  match candidate.relatedAddress with
  | none => ""
  | some address =>
      " raddr " ++ address ++ " rport " ++
        Nat.repr (candidate.relatedPort.getD 0).toNat

/- Format as SDP candidate string. -/
def toSdp
    (candidate : IceCandidate) : String :=
  "a=candidate:" ++ candidate.foundation ++ " " ++
    Nat.repr candidate.componentId.toNat ++ " " ++
    candidate.protocol ++ " " ++
    Nat.repr candidate.priority.toNat ++ " " ++
    candidate.address ++ " " ++
    Nat.repr candidate.port.toNat ++ " typ " ++
    candidate.candidateType.text ++ candidate.relatedSdp ++
    "\r\n"

/- Parse from SDP candidate string. -/
def fromSdp
    (line : String) : Option IceCandidate :=
  match Text.stripPrefix line.toList
      "a=candidate:".toList with
  | none => none
  | some rest =>
      match Text.words rest with
      | foundation :: componentId :: protocol :: priority ::
          address :: port :: _ :: candidateType :: _ => do
          let componentId ←
            Numeral.parseUnsigned (2 ^ 16) componentId
          let priority ←
            Numeral.parseUnsigned (2 ^ 64) priority
          let port ← Numeral.parseUnsigned (2 ^ 16) port
          some
            { foundation := String.ofList foundation
              componentId := UInt16.ofNat componentId
              protocol := String.ofList protocol
              priority := UInt64.ofNat priority
              address := String.ofList address
              port := UInt16.ofNat port
              candidateType :=
                .ofText (String.ofList candidateType)
              relatedAddress := none
              relatedPort := none }
      | _ => none

end IceCandidate

end IsaWorkspace
