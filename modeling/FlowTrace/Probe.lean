import FlowTrace.Flow
import FlowTrace.Packet.Layout

/-!
# Probes on the wire

`Encoder.encode` turns a flow, a round and a hop limit into the datagram that a transport sends.
-/

namespace FlowTrace

/-- The identifying fields of a probe as sent, to compare with what a response quotes. -/
structure ExpectedFields where
  srcPort : Option UInt16
  identifier : Option UInt16
  /-- The UDP checksum, where it does not carry the token. -/
  udpChecksum : Option UInt16
  deriving DecidableEq, Repr

/-- A probe that is ready for the transport. -/
structure EncodedProbe where
  flow : UInt16
  id : ProbeId
  ttl : UInt8
  /-- The token as it stands on the wire. -/
  token : UInt16
  protocol : Protocol
  src : Address
  dst : Address
  dstPort : UInt16
  /-- The identification for a header that the transport writes. -/
  ipId : Option UInt16
  /-- An ICMP message, a UDP datagram or a TCP segment. -/
  transport : Bytes
  expected : ExpectedFields
  deriving DecidableEq, Repr

/-- What a datagram socket is given to send. -/
def EncodedProbe.udpPayload (p : EncodedProbe) : Bytes := p.transport.drop Packet.Udp.headerSize

/-- Builds the probes of one session. -/
structure Encoder where
  plan : FlowPlan
  /-- The local address in checksums. -/
  src : Address
  dst : Address
  /-- The least number of payload bytes. -/
  payloadSize : Nat
  deriving DecidableEq, Repr

namespace Encoder

/-- The least payload with room for what every probe carries. -/
def leastPayload (config : Config) : Nat := Nat.max config.payloadSize Packet.Udp.minPayload

def ofConfig (config : Config) (plan : FlowPlan) (src : Address) : Encoder where
  plan := plan
  src := src
  dst := config.target
  payloadSize := leastPayload config

/-- The echo request of a flow. -/
def icmpMessage (e : Encoder) (fields : FlowFields) (token : UInt16) : Bytes :=
  let ipv6 := e.dst.isIpv6
  let message := Packet.Icmp.echoRequest (fields.identifier.getD 0) token e.payloadSize ipv6
  let pseudo :=
    if ipv6 then Checksum.pseudoHeaderSum e.src e.dst Packet.Icmp.protocolV6 message.length else 0
  (Packet.Icmp.finish message pseudo fields.checksumSeed).1

/-- The number of payload bytes of a UDP probe. -/
def udpPayloadSize (e : Encoder) (carrier : Carrier) (token : UInt16) : Nat :=
  match carrier with
  | .udpPayloadLength => e.payloadSize + token.toNat
  | _ => e.payloadSize

/-- The UDP datagram of a flow, and its checksum. -/
def udpDatagram (e : Encoder) (fields : FlowFields) (token : UInt16) : Bytes × UInt16 :=
  Packet.Udp.datagram (fields.srcPort.getD 0) (fields.dstPort.getD 0)
    (Packet.Udp.payload (e.udpPayloadSize fields.carrier token)) e.src e.dst
    (if fields.carrier = .udpChecksum then some token else none)

/-- The TCP segment of a flow. -/
def tcpSegment (e : Encoder) (fields : FlowFields) (token : UInt16) : Bytes :=
  Packet.Tcp.syn token (fields.srcPort.getD 0) (fields.dstPort.getD 0) e.src e.dst

/-- The probe for a flow and a hop limit in a round, if there is such a flow. -/
def encode (e : Encoder) (flow : UInt16) (round : UInt32) (ttl : UInt8) : Option EncodedProbe := do
  let fields ← e.plan.get? flow
  let id := e.plan.probeId round flow ttl
  let token := fields.carrier.token id
  let blank : EncodedProbe :=
    { flow := flow
      id := id
      ttl := ttl
      token := token
      protocol := e.plan.protocol
      src := e.src
      dst := e.dst
      dstPort := fields.dstPort.getD 0
      ipId := none
      transport := []
      expected := ⟨fields.srcPort, fields.identifier, none⟩ }
  match e.plan.protocol with
  | .icmp => return { blank with transport := e.icmpMessage fields token }
  | .udp =>
    let (datagram, checksum) := e.udpDatagram fields token
    return { blank with
      transport := datagram
      ipId := if fields.carrier = .ipIdentification then some token else none
      expected :=
        { blank.expected with
          udpChecksum := if fields.carrier = .udpChecksum then none else some checksum } }
  | .tcp => return { blank with transport := e.tcpSegment fields token }

end Encoder

end FlowTrace
