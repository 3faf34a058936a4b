import FlowTrace.Config

/-!
# Flows and tokens

A flow is a set of probes that share every field a router hashes on when it picks among paths of
equal cost. Each flow has its own key (a source number or an ICMP identifier). The token, which
tells the probes of a flow apart, travels in a field that is not hashed (`Carrier`).

* `ProbeId`: hop limit and sequence byte of a probe; `Carrier.token` is its wire value.
* `FlowFields`: the fixed fields of one flow; `FlowPlan`: those of all flows of a session.
* `FlowPlan.flowForKey`: the flow that a returned key belongs to.
-/

namespace FlowTrace

/-- What tells one probe of a flow from another. -/
structure ProbeId where
  ttl : UInt8
  seq : UInt8
  deriving DecidableEq, Repr

/-- Hop limit and sequence byte in one word. -/
def ProbeId.word (id : ProbeId) : UInt16 := word16 id.ttl id.seq

/-- The hop limit and sequence byte in a word. -/
def ProbeId.ofWord (w : UInt16) : ProbeId :=
  ⟨UInt8.ofNat (w.toNat / 256), UInt8.ofNat (w.toNat % 256)⟩

/-- The word of a probe reads back as the probe. -/
theorem ProbeId.ofWord_word (id : ProbeId) : ProbeId.ofWord id.word = id := by
  obtain ⟨t, s⟩ := id
  have ht := t.toNat_lt
  have hs := s.toNat_lt
  have h : (t.toNat * 256 + s.toNat) % 2 ^ 16 = t.toNat * 256 + s.toNat := by omega
  simp only [ofWord, word, word16, UInt16.toNat_ofNat', h, ProbeId.mk.injEq]
  constructor <;> apply UInt8.toNat_inj.1 <;> simp only [UInt8.toNat_ofNat'] <;> omega

/-- The sequence byte of a flow in a round. Flows of one round get distinct bytes. -/
def roundSequence (round : UInt32) (flow flows : UInt16) : UInt8 :=
  UInt8.ofNat ((round.toNat * flows.toNat + flow.toNat) % 256)

/-- Where the token travels. -/
inductive Carrier where
  /-- In the sequence number of an echo request. -/
  | icmpSequence
  /-- In the UDP checksum, through a spare word of the payload. -/
  | udpChecksum
  /-- In the identification of the IPv4 header. -/
  | ipIdentification
  /-- In the UDP length, as what exceeds the least payload. -/
  | udpPayloadLength
  /-- In the upper half of the TCP sequence number. -/
  | tcpSequence
  deriving DecidableEq, Repr

/-- The wire value of a probe. In a length it is two bits of the round and six of the hop limit, so
that it stays below 256. -/
def Carrier.token (carrier : Carrier) (id : ProbeId) : UInt16 :=
  match carrier with
  | .udpPayloadLength => UInt16.ofNat (id.seq.toNat % 4 * 64 + (id.ttl.toNat - 1) % 64)
  | _ => id.word

/-- How well the fields of a flow pin its path. -/
inductive Fidelity where
  /-- Every hashed field is fixed. -/
  | full
  /-- The ICMP checksum differs from probe to probe. -/
  | identifierOnly
  deriving DecidableEq, Repr

/-- The fixed fields of one flow. -/
structure FlowFields where
  flow : UInt16
  srcPort : Option UInt16
  dstPort : Option UInt16
  identifier : Option UInt16
  /-- The ICMP checksum that all probes of the flow have. -/
  checksumSeed : Option UInt16
  carrier : Carrier
  deriving DecidableEq, Repr

/-- The field by which a response names the flow. -/
def FlowFields.key (f : FlowFields) : UInt16 := (f.srcPort.or f.identifier).getD f.flow

def FlowFields.fidelity (f : FlowFields) : Fidelity :=
  if f.identifier.isSome ∧ f.checksumSeed.isNone then .identifierOnly else .full

/-- The fields of all flows of a session. -/
structure FlowPlan where
  protocol : Protocol
  multipath : Multipath
  carrier : Carrier
  flows : List FlowFields
  keyBase : UInt16
  deriving DecidableEq, Repr

namespace FlowPlan

/-- The carrier for a protocol, an algorithm and the family of the target. -/
def carrierFor (protocol : Protocol) (multipath : Multipath) (family : Family) : Carrier :=
  match protocol, multipath, family with
  | .icmp, _, _ => .icmpSequence
  | .tcp, _, _ => .tcpSequence
  | .udp, .paris, _ => .udpChecksum
  | .udp, .dublin, .ipv4 => .ipIdentification
  | .udp, .dublin, .ipv6 => .udpPayloadLength

/-- The fields of one flow. -/
def fieldsOf (config : Config) (carrier : Carrier) (flow : UInt16) : FlowFields :=
  match config.protocol with
  | .icmp =>
    { flow := flow
      srcPort := none
      dstPort := none
      identifier := some (config.identifierBase + flow)
      checksumSeed :=
        match config.multipath with
        | .paris => some (0x4000 + flow * 0x0101)
        | .dublin => none
      carrier := carrier }
  | _ =>
    { flow := flow
      srcPort := some (config.srcPortBase + flow)
      dstPort := some config.dstPort
      identifier := none
      checksumSeed := none
      carrier := carrier }

/-- The plan of a session. -/
def ofConfig (config : Config) : FlowPlan :=
  let carrier := carrierFor config.protocol config.multipath config.target.family
  { protocol := config.protocol
    multipath := config.multipath
    carrier := carrier
    flows := (List.range config.flows.toNat).map fun i => fieldsOf config carrier (UInt16.ofNat i)
    keyBase := config.keyBase }

/-- The number of flows. -/
def size (plan : FlowPlan) : UInt16 := UInt16.ofNat plan.flows.length

/-- The fields of a flow, if there is such a flow. -/
def get? (plan : FlowPlan) (flow : UInt16) : Option FlowFields := plan.flows[flow.toNat]?

/-- The identity of a probe. Where the flows are told apart by their keys alone, only the round
is in it. -/
def probeId (plan : FlowPlan) (round : UInt32) (flow : UInt16) (ttl : UInt8) : ProbeId :=
  let seq :=
    match plan.carrier with
    | .udpPayloadLength => UInt8.ofNat (round.toNat % 256)
    | _ => roundSequence round flow plan.size
  ⟨ttl, seq⟩

/-- The flow that a returned key belongs to. Keys of other programs, and keys changed on the way,
may belong to none. -/
def flowForKey (plan : FlowPlan) (key : UInt16) : Option UInt16 :=
  if plan.keyBase ≤ key ∧ key - plan.keyBase < plan.size then some (key - plan.keyBase) else none

end FlowPlan

end FlowTrace
