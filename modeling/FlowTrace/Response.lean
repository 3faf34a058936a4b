import FlowTrace.Flow
import FlowTrace.Packet.Extension
import FlowTrace.Packet.Layout
import FlowTrace.Probe

/-!
# Responses

`Decoder.decode` reads a received packet: an echo reply, a TCP reply or an ICMP error that quotes a
probe. A response names the flow by its key and the probe by its token. Packets that are none of
these give no response; every read is checked, and a fault would show in the value.

A router quotes a probe as it arrived there. An identifying field that differs from the one sent was
changed by a NAT, which plain forwarding never does. `FieldChange.find` reports the first
difference.
-/

namespace FlowTrace

/-- What a receiving socket hands over. -/
inductive Framing where
  /-- A whole IPv4 packet. -/
  | ipv4Packet
  /-- An ICMP message without its IP header. -/
  | icmpMessage
  /-- A TCP segment without its IP header. -/
  | tcpSegment
  deriving DecidableEq, Repr

/-- What kind of answer a response is. -/
inductive ResponseKind where
  | timeExceeded (code : UInt8)
  | destinationUnreachable (code : UInt8)
  | packetTooBig (mtu : UInt32)
  | echoReply
  | tcpReply
  | tcpRefused
  deriving DecidableEq, Repr

/-- An ICMP error that quotes a probe. -/
def ResponseKind.isError : ResponseKind → Bool
  | .timeExceeded _ | .destinationUnreachable _ | .packetTooBig _ => true
  | _ => false

/-- The fields of a probe as an ICMP error quotes them. -/
structure QuotedProbe where
  /-- The source as the responder saw it. -/
  src : Address
  dst : Address
  /-- What was left of the hop limit. -/
  ttl : UInt8
  srcPort : Option UInt16
  dstPort : Option UInt16
  identifier : Option UInt16
  udpChecksum : Option UInt16
  deriving DecidableEq, Repr

/-- A decoded response. -/
structure Response where
  responder : Address
  kind : ResponseKind
  /-- The source number or identifier that names the flow. -/
  flowKey : UInt16
  token : UInt16
  quoted : Option QuotedProbe
  extensions : Option Packet.Extensions
  deriving DecidableEq, Repr

/-- The labels of the first label stack in a response. -/
def Response.mplsLabels (r : Response) : Option (List Packet.MplsLabel) :=
  r.extensions.bind (·.mplsLabels)

/-- A quoted IP packet: what its header says, and what follows the header. -/
structure QuotedPacket where
  src : Address
  dst : Address
  ttl : UInt8
  ipId : Option UInt16
  protocol : UInt8
  transport : Bytes
  deriving DecidableEq, Repr

namespace QuotedPacket

/-- The IPv4 packet that a payload begins with. -/
def readV4 (data : Bytes) : Except Fault (Option QuotedPacket) := do
  let some length := Packet.Ipv4.headerLength data | return none
  let src ← Address.readV4 data 12
  let dst ← Address.readV4 data 16
  let ttl ← data.byteAt 8
  let ipId ← data.word16At 4
  let protocol ← data.byteAt 9
  let transport ← data.suffix length
  return some ⟨src, dst, ttl, some ipId, protocol, transport⟩

def headerSizeV6 : Nat := 40

/-- Hop-by-hop options, routing headers and destination options tell their own length. -/
def isWalkable (next : UInt8) : Bool := next == 0 || next == 43 || next == 60

/-- The protocol behind the extension headers from an offset on, and its offset. -/
def walkHeaders (data : Bytes) (next : UInt8) (offset : Nat) :
    Except Fault (Option (UInt8 × Nat)) :=
  if isWalkable next then
    if _room : data.length < offset + 2 then return none
    else do
      let following ← data.byteAt offset
      let units ← data.byteAt (offset + 1)
      walkHeaders data following (offset + (units.toNat + 1) * 8)
  else return some (next, offset)
termination_by data.length - offset

/-- The IPv6 packet that a payload begins with. -/
def readV6 (data : Bytes) : Except Fault (Option QuotedPacket) := do
  if data.length < headerSizeV6 then return none
  let first ← data.byteAt 0
  if first.toNat / 16 ≠ 6 then return none
  let src ← Address.readV6 data 8
  let dst ← Address.readV6 data 24
  let next ← data.byteAt 6
  let some (protocol, offset) ← walkHeaders data next headerSizeV6 | return none
  if data.length < offset then return none
  let ttl ← data.byteAt 7
  let transport ← data.suffix offset
  return some ⟨src, dst, ttl, none, protocol, transport⟩

end QuotedPacket

/-- Reads the packets of one session. -/
structure Decoder where
  protocol : Protocol
  carrier : Carrier
  /-- The least number of payload bytes, which a length that carries the token exceeds. -/
  payloadSize : Nat
  deriving DecidableEq, Repr

namespace Decoder

def ofConfig (config : Config) (carrier : Carrier) : Decoder where
  protocol := config.protocol
  carrier := carrier
  payloadSize := Encoder.leastPayload config

/-- An echo reply. Datagram sockets may have changed the identifier of the header; the payload keeps
it where it repeats the sequence number. -/
def echoReply (d : Decoder) (message : Bytes) (responder : Address) :
    Except Fault (Option Response) := do
  if d.protocol ≠ .icmp then return none
  let outer ← message.word16At 4
  let sequence ← message.word16At 6
  let repeated ←
    if Packet.Icmp.headerSize + 4 ≤ message.length then do
      let copy ← message.word16At 10
      pure (copy == sequence)
    else pure false
  let identifier ← if repeated then message.word16At 8 else pure outer
  return some ⟨responder, .echoReply, identifier, sequence, none, none⟩

/-- A TCP reply: a refusal if it resets, an acceptance if it synchronises and acknowledges. It
acknowledges the sequence number of the probe plus one. -/
def tcpReply (d : Decoder) (segment : Bytes) (responder : Address) :
    Except Fault (Option Response) := do
  if d.protocol ≠ .tcp ∨ segment.length < Packet.Tcp.headerSize then return none
  let key ← segment.word16At 2
  let acknowledged ← segment.word32At 8
  let flags ← segment.byteAt 13
  let token := Packet.Tcp.tokenOfSequence (acknowledged - 1)
  let synAck := Packet.Tcp.flagSyn ||| Packet.Tcp.flagAck
  if flags &&& Packet.Tcp.flagRst ≠ 0 then
    return some ⟨responder, .tcpRefused, key, token, none, none⟩
  else if flags &&& synAck = synAck then
    return some ⟨responder, .tcpReply, key, token, none, none⟩
  else return none

/-- The token of a quoted UDP probe, where its carrier puts it. The least length is a word of 64
bits that wraps around, as it does in a build without overflow checks. -/
def udpToken (d : Decoder) (ipId : Option UInt16) (length checksum : UInt16) : Option UInt16 :=
  match d.carrier with
  | .udpChecksum => some checksum
  | .ipIdentification => ipId
  | .udpPayloadLength =>
    let least := (Packet.Udp.headerSize + d.payloadSize) % 18446744073709551616
    if least ≤ length.toNat then some (UInt16.ofNat (length.toNat - least)) else none
  | _ => none

/-- The key, token and fields of a quoted probe. -/
def quotedProbe (d : Decoder) (q : QuotedPacket) :
    Except Fault (Option (UInt16 × UInt16 × QuotedProbe)) := do
  let t := q.transport
  if t.length < 8 then return none
  match d.protocol with
  | .icmp =>
    if q.protocol ≠ Packet.Icmp.protocolV4 ∧ q.protocol ≠ Packet.Icmp.protocolV6 then return none
    let kind ← t.byteAt 0
    if kind ≠ Packet.Icmp.echoRequestV4 ∧ kind ≠ Packet.Icmp.echoRequestV6 then return none
    let identifier ← t.word16At 4
    let sequence ← t.word16At 6
    return some (identifier, sequence, ⟨q.src, q.dst, q.ttl, none, none, some identifier, none⟩)
  | .udp =>
    if q.protocol ≠ Packet.Udp.protocol then return none
    let src ← t.word16At 0
    let dst ← t.word16At 2
    let length ← t.word16At 4
    let checksum ← t.word16At 6
    let some token := d.udpToken q.ipId length checksum | return none
    return some (src, token, ⟨q.src, q.dst, q.ttl, some src, some dst, none, some checksum⟩)
  | .tcp =>
    if q.protocol ≠ Packet.Tcp.protocol then return none
    let src ← t.word16At 0
    let dst ← t.word16At 2
    let sequence ← t.word32At 4
    let token := Packet.Tcp.tokenOfSequence sequence
    return some (src, token, ⟨q.src, q.dst, q.ttl, some src, some dst, none, none⟩)

/-- An ICMP error around a quoted packet. -/
def icmpError (d : Decoder) (kind : ResponseKind) (quoted : Option QuotedPacket)
    (extensions : Option Packet.Extensions) (responder : Address) :
    Except Fault (Option Response) := do
  let some packet := quoted | return none
  let some (key, token, probe) ← d.quotedProbe packet | return none
  return some ⟨responder, kind, key, token, some probe, extensions⟩

/-- An ICMPv4 message, which must have a valid checksum. -/
def icmpV4 (d : Decoder) (message : Bytes) (responder : Address) :
    Except Fault (Option Response) := do
  if message.length < Packet.Icmp.headerSize ∨ ¬ Checksum.verify message then return none
  let type ← message.byteAt 0
  let code ← message.byteAt 1
  if type = Packet.Icmp.echoReplyV4 then return ← d.echoReply message responder
  let kind ←
    if type = Packet.Icmp.timeExceededV4 then pure (some (ResponseKind.timeExceeded code))
    else if type = Packet.Icmp.unreachableV4 then
      if code = Packet.Icmp.fragmentationNeeded then do
        let mtu ← message.word16At 6
        pure (some (ResponseKind.packetTooBig mtu.toUInt32))
      else pure (some (ResponseKind.destinationUnreachable code))
    else pure none
  let some kind := kind | return none
  let payload ← message.suffix Packet.Icmp.headerSize
  let quoted ← QuotedPacket.readV4 payload
  if quoted.isNone then return none
  let length ← message.byteAt 5
  let extensions ← Packet.Extensions.parse payload length 4
  d.icmpError kind quoted extensions responder

/-- An ICMPv6 message. The kernel has verified its checksum. Where it tells a packet size there is
no length field, so there are no extensions. -/
def icmpV6 (d : Decoder) (message : Bytes) (responder : Address) :
    Except Fault (Option Response) := do
  if message.length < Packet.Icmp.headerSize then return none
  let type ← message.byteAt 0
  let code ← message.byteAt 1
  if type = Packet.Icmp.echoReplyV6 then return ← d.echoReply message responder
  let kind ←
    if type = Packet.Icmp.timeExceededV6 then pure (some (ResponseKind.timeExceeded code))
    else if type = Packet.Icmp.unreachableV6 then
      pure (some (ResponseKind.destinationUnreachable code))
    else if type = Packet.Icmp.packetTooBigV6 then do
      let mtu ← message.word32At 4
      pure (some (ResponseKind.packetTooBig mtu))
    else pure none
  let some kind := kind | return none
  let payload ← message.suffix Packet.Icmp.headerSize
  let quoted ← QuotedPacket.readV6 payload
  if quoted.isNone then return none
  let extensions ←
    match kind with
    | .packetTooBig _ => pure none
    | _ => do
      let length ← message.byteAt 4
      Packet.Extensions.parse payload length 8
  d.icmpError kind quoted extensions responder

/-- The response in a received packet. -/
def decode (d : Decoder) (data : Bytes) (responder : Address) (framing : Framing) :
    Except Fault (Option Response) := do
  match framing with
  | .ipv4Packet =>
    let some length := Packet.Ipv4.headerLength data | return none
    let protocol ← data.byteAt 9
    let body ← data.suffix length
    if protocol = Packet.Icmp.protocolV4 then d.icmpV4 body responder
    else if protocol = Packet.Tcp.protocol then d.tcpReply body responder
    else return none
  | .icmpMessage =>
    match responder with
    | .v4 _ => d.icmpV4 data responder
    | .v6 _ => d.icmpV6 data responder
  | .tcpSegment => d.tcpReply data responder

end Decoder

/-! ## Fields changed on the way -/

/-- Evidence of a NAT between us and a responder. -/
inductive FieldChange where
  | srcPort (sent seen : UInt16)
  | identifier (sent seen : UInt16)
  /-- The source address was changed and the checksum patched to match. -/
  | checksum (sent seen : UInt16)
  | destination (sent seen : Address)
  deriving DecidableEq, Repr

/-- The name of the changed field. -/
def FieldChange.name : FieldChange → String
  | .srcPort .. => "source_port_rewritten"
  | .identifier .. => "identifier_rewritten"
  | .checksum .. => "checksum_rewritten"
  | .destination .. => "destination_rewritten"

/-- The two values of a field, where both are known and they differ. -/
def differing (sent seen : Option UInt16) : Option (UInt16 × UInt16) :=
  match sent, seen with
  | some a, some b => if a = b then none else some (a, b)
  | _, _ => none

/-- The first field of a quoted probe that differs from the one sent. A checksum of zero means that
there is none; some middleboxes strip it. -/
def FieldChange.find (target : Address) (sent : ExpectedFields) (quoted : QuotedProbe) :
    Option FieldChange :=
  match differing sent.srcPort quoted.srcPort with
  | some (a, b) => some (.srcPort a b)
  | none =>
    match differing sent.identifier quoted.identifier with
    | some (a, b) => some (.identifier a b)
    | none =>
      match differing sent.udpChecksum (quoted.udpChecksum.filter (· ≠ 0)) with
      | some (a, b) => some (.checksum a b)
      | none => if quoted.dst = target then none else some (.destination target quoted.dst)

end FlowTrace
