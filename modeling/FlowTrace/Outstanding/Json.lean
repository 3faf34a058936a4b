import FlowTrace.Hop.Json
import FlowTrace.Outstanding

/-!
# Probes and responses as JSON

The fields of flows, probes and responses under the names by which tools know them. Instants are
whole microseconds.
-/

namespace FlowTrace

/-- A byte string as hexadecimal digits. -/
def Bytes.toJson (data : Bytes) : Json := .text data.hex

/-- The name of a carrier. -/
def Carrier.name : Carrier → String
  | .icmpSequence => "IcmpSequence"
  | .udpChecksum => "UdpChecksum"
  | .ipIdentification => "IpIdentification"
  | .udpPayloadLength => "UdpPayloadLength"
  | .tcpSequence => "TcpSequence"

def Carrier.all : List Carrier :=
  [.icmpSequence, .udpChecksum, .ipIdentification, .udpPayloadLength, .tcpSequence]

def Fidelity.name : Fidelity → String
  | .full => "Full"
  | .identifierOnly => "IdentifierOnly"

def Framing.name : Framing → String
  | .ipv4Packet => "ipv4"
  | .icmpMessage => "icmp"
  | .tcpSegment => "tcp"

def Framing.all : List Framing := [.ipv4Packet, .icmpMessage, .tcpSegment]

/-- The members of the fields of a flow. -/
def FlowFields.members (f : FlowFields) : List (String × Json) :=
  [("flow", toJson f.flow),
    ("src_port", toJson f.srcPort),
    ("dst_port", toJson f.dstPort),
    ("identifier", toJson f.identifier),
    ("checksum_seed", toJson f.checksumSeed),
    ("carrier", .text f.carrier.name)]

instance : ToJson FlowFields := ⟨fun f => .object f.members⟩

instance : ToJson ProbeId where
  toJson id := .object [("ttl", toJson id.ttl), ("seq", toJson id.seq)]

instance : ToJson ExpectedFields where
  toJson e :=
    .object
      [("src_port", toJson e.srcPort),
        ("identifier", toJson e.identifier),
        ("udp_checksum", toJson e.udpChecksum)]

instance : ToJson EncodedProbe where
  toJson p :=
    .object
      [("flow", toJson p.flow),
        ("id", toJson p.id),
        ("ttl", toJson p.ttl),
        ("token", toJson p.token),
        ("protocol", .text p.protocol.word),
        ("src", toJson p.src),
        ("dst", toJson p.dst),
        ("dst_port", toJson p.dstPort),
        ("ip_id", toJson p.ipId),
        ("transport", Bytes.toJson p.transport),
        ("udp_payload_len", toJson p.udpPayload.length),
        ("expected", toJson p.expected)]

instance : ToJson QuotedProbe where
  toJson q :=
    .object
      [("src", toJson q.src),
        ("dst", toJson q.dst),
        ("ttl", toJson q.ttl),
        ("src_port", toJson q.srcPort),
        ("dst_port", toJson q.dstPort),
        ("identifier", toJson q.identifier),
        ("udp_checksum", toJson q.udpChecksum)]

instance : ToJson Packet.ExtensionObject where
  toJson
    | .mpls labels => .object [("Mpls", toJson labels)]
    | .unknown classNum classSubtype body =>
      .object
        [("Unknown",
          .object
            [("class_num", toJson classNum),
              ("class_subtype", toJson classSubtype),
              ("bytes", toJson (body : List UInt8))])]

instance : ToJson Packet.Extensions := ⟨fun e => toJson e.objects⟩

instance : ToJson Response where
  toJson r :=
    .object
      [("responder", toJson r.responder),
        ("kind", toJson r.kind),
        ("is_error", toJson r.kind.isError),
        ("flow_key", toJson r.flowKey),
        ("token", toJson r.token),
        ("quoted", toJson r.quoted),
        ("extensions", toJson r.extensions),
        ("mpls", toJson r.mplsLabels)]

/-! ## Outstanding probes -/

/-- Whole microseconds since the start. -/
def Instant.toJson (t : Instant) : Json := .nat (t.nanos / 1000)

instance : ToJson Instant := ⟨Instant.toJson⟩

instance : ToJson PendingProbe where
  toJson p :=
    .object
      [("flow", toJson p.flow),
        ("round", toJson p.round),
        ("ttl", toJson p.ttl),
        ("token", toJson p.token),
        ("sent_at_us", toJson p.sentAt),
        ("deadline_us", toJson p.deadline),
        ("expected", toJson p.expected)]

end FlowTrace
