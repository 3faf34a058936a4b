import FlowTrace.Checksum

/-!
# The layout of packets

* `Icmp.echoRequest`: an echo request with its checksum and spare word still zero. It repeats
  identifier and sequence number at the start of its payload, because datagram sockets may change
  the header's. A spare word behind them steers the checksum; `Icmp.finish` fills in both.
* `Udp.datagram`: a UDP probe. Its payload begins with a spare word that steers the checksum and the
  magic `HOPT`. A checksum that comes out as zero is sent as all ones, because zero means that there
  is none.
* `Tcp.syn`: a TCP probe, a bare SYN whose sequence number carries the token in its upper half.
* `Ipv4.packet`: a header of twenty bytes in front of a datagram. `Ipv4.headerLength` reads the
  length of the header of a packet that has a whole one.
-/

namespace FlowTrace.Packet

/-- The bytes 0, 1, 2, … that fill a payload, from 0 again after 255. -/
def filler (n : Nat) : Bytes := (List.range n).map UInt8.ofNat

@[simp] theorem length_filler (n : Nat) : (filler n).length = n := by simp [filler]

/-! ## Echo requests -/

namespace Icmp

def protocolV4 : UInt8 := 1
def protocolV6 : UInt8 := 58
def headerSize : Nat := 8

/-- Room for identifier, sequence number and spare word. -/
def minPayload : Nat := 8

def echoReplyV4 : UInt8 := 0
def unreachableV4 : UInt8 := 3
def echoRequestV4 : UInt8 := 8
def timeExceededV4 : UInt8 := 11
/-- The code of an unreachable message that asks for smaller packets. -/
def fragmentationNeeded : UInt8 := 4

def unreachableV6 : UInt8 := 1
def packetTooBigV6 : UInt8 := 2
def timeExceededV6 : UInt8 := 3
def echoRequestV6 : UInt8 := 128
def echoReplyV6 : UInt8 := 129

/-- An echo request whose checksum and spare word are zero. -/
def echoRequest (identifier sequence : UInt16) (payloadSize : Nat) (ipv6 : Bool) : Bytes :=
  [if ipv6 then echoRequestV6 else echoRequestV4, 0, 0, 0]
    ++ octets16 identifier ++ octets16 sequence
    ++ octets16 identifier ++ octets16 sequence ++ [0, 0]
    ++ filler (Nat.max payloadSize minPayload - 6)

/-- A message with the given checksum and spare word written over its own. -/
def stamp (message : Bytes) (checksum spare : UInt16) : Bytes :=
  message.take 2 ++ octets16 checksum ++ (message.drop 4).take 8 ++ octets16 spare
    ++ message.drop 14

/-- The message with its checksum filled in, and that checksum. A wished checksum is reached through
the spare word. `pseudo` is the sum of the pseudo-header, zero for ICMPv4. -/
def finish (message : Bytes) (pseudo : UInt32) (wished : Option UInt16) : Bytes × UInt16 :=
  let natural := Checksum.checksumWith (stamp message 0 0) pseudo
  match wished with
  | some desired => (stamp message desired (Checksum.compensate natural desired), desired)
  | none => (stamp message natural 0, natural)

/-- A message too short for the spare word cannot be finished. -/
def finishChecked (message : Bytes) (pseudo : UInt32) (wished : Option UInt16) :
    Except Fault (Bytes × UInt16) :=
  if message.length < 14 then .error .outOfRange else .ok (finish message pseudo wished)

end Icmp

/-! ## UDP probes -/

namespace Udp

def protocol : UInt8 := 17
def headerSize : Nat := 8

/-- Room for the spare word and the magic. -/
def minPayload : Nat := 8

/-- Marks our probes. -/
def magic : Bytes := [0x48, 0x4F, 0x50, 0x54]

/-- A payload of at least `size` bytes, with a zero spare word. -/
def payload (size : Nat) : Bytes := [0, 0] ++ magic ++ filler (Nat.max size minPayload - 6)

/-- Header and payload, with the given checksum and spare word. -/
def layout (src dst : UInt16) (body : Bytes) (checksum spare : UInt16) : Bytes :=
  octets16 src ++ octets16 dst ++ octets16 (UInt16.ofNat (headerSize + body.length))
    ++ octets16 checksum ++ octets16 spare ++ body.drop 2

/-- The datagram around a payload, and its checksum. A wished checksum is reached through the spare
word at the start of the payload. -/
def datagram (src dst : UInt16) (body : Bytes) (from_ to_ : Address) (wished : Option UInt16) :
    Bytes × UInt16 :=
  let pseudo := Checksum.pseudoHeaderSum from_ to_ protocol (headerSize + body.length)
  let natural := Checksum.checksumWith (layout src dst body 0 0) pseudo
  match wished with
  | some desired => (layout src dst body desired (Checksum.compensate natural desired), desired)
  | none =>
    let sent := if natural = 0 then 0xFFFF else natural
    (layout src dst body sent 0, sent)

/-- A payload without room for the spare word is refused. -/
def datagramChecked (src dst : UInt16) (body : Bytes) (from_ to_ : Address)
    (wished : Option UInt16) : Except Fault (Bytes × UInt16) :=
  if body.length < 2 then .error .outOfRange else .ok (datagram src dst body from_ to_ wished)

end Udp

/-! ## TCP probes -/

namespace Tcp

def protocol : UInt8 := 6
def headerSize : Nat := 20

def flagSyn : UInt8 := 0x02
def flagRst : UInt8 := 0x04
def flagAck : UInt8 := 0x10

/-- The sequence number that carries a token. -/
def sequenceOfToken (token : UInt16) : UInt32 := UInt32.ofNat (token.toNat * 65536)

/-- The token in a sequence number. -/
def tokenOfSequence (sequence : UInt32) : UInt16 := UInt16.ofNat (sequence.toNat / 65536)

/-- The token is read back from its sequence number. -/
theorem tokenOfSequence_sequenceOfToken (token : UInt16) :
    tokenOfSequence (sequenceOfToken token) = token := by
  apply UInt16.toNat_inj.1
  have h := token.toNat_lt
  simp only [tokenOfSequence, sequenceOfToken, UInt16.toNat_ofNat', UInt32.toNat_ofNat']
  omega

/-- A SYN segment without options, with the given checksum. -/
def layout (token src dst checksum : UInt16) : Bytes :=
  octets16 src ++ octets16 dst ++ octets32 (sequenceOfToken token) ++ [0, 0, 0, 0]
    ++ [0x50, flagSyn] ++ octets16 65535 ++ octets16 checksum ++ [0, 0]

/-- The SYN segment that carries a token. -/
def syn (token src dst : UInt16) (from_ to_ : Address) : Bytes :=
  let pseudo := Checksum.pseudoHeaderSum from_ to_ protocol headerSize
  layout token src dst (Checksum.checksumWith (layout token src dst 0) pseudo)

end Tcp

/-! ## IPv4 headers -/

namespace Ipv4

def headerSize : Nat := 20

/-- The header with the given checksum. Fragments are forbidden. -/
def header (src dst : Address) (ttl : UInt8) (identification : UInt16) (protocol : UInt8)
    (total : Nat) (checksum : UInt16) : Bytes :=
  [0x45, 0] ++ octets16 (UInt16.ofNat total) ++ octets16 identification ++ [0x40, 0, ttl, protocol]
    ++ octets16 checksum ++ src.octets ++ dst.octets

/-- A datagram behind its header. -/
def packet (src dst : Address) (ttl : UInt8) (identification : UInt16) (protocol : UInt8)
    (transport : Bytes) : Bytes :=
  let total := headerSize + transport.length
  let blank := header src dst ttl identification protocol total 0
  header src dst ttl identification protocol total (Checksum.checksum blank) ++ transport

/-- The header length of an IPv4 packet, options included, if the packet holds all of it. -/
def headerLength (data : Bytes) : Option Nat :=
  match data with
  | [] => none
  | first :: _ =>
    let length := first.toNat % 16 * 4
    if data.length < headerSize ∨ first.toNat / 16 ≠ 4 then none
    else if headerSize ≤ length ∧ length ≤ data.length then some length else none

end Ipv4

end FlowTrace.Packet
