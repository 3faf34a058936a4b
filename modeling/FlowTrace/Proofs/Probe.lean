import FlowTrace.Proofs.Packet.Sealed
import FlowTrace.Proofs.Reply

/-!
# Probes as they are sent

- **What is sent** (`Encoder.exists_encode`): every flow of a session has a probe, an echo request,
  a UDP datagram or a TCP segment (`icmp_of_encode`, `udp_of_encode`, `tcp_of_encode`).
- **Lengths** (`EncodedProbe.Fits`): a payload that leaves room for the headers gives datagrams
  whose length fits in 16 bits (`fits_of_payloadSize`).
- **Checksums** (`sealed_of_encode`): up to twice that length, datagrams carry the checksum that
  they ought to have, which is the token or the checksum of the flow where that is wished for.
- **Main result** (`carries_checksum`): every datagram that fits passes the test of a receiver, and
  a kernel builds the same UDP datagram from its payload.
-/

namespace FlowTrace

open Packet

/-- The length of the datagram fits in 16 bits, as IP and UDP headers need it to. -/
def EncodedProbe.Fits (p : EncodedProbe) : Prop := p.transport.length ≤ 65535

/-- No carry is lost from a sum of 32 bits over the datagram and a pseudo-header. -/
def EncodedProbe.Short (p : EncodedProbe) : Prop := p.transport.length + 40 < 131072

theorem EncodedProbe.Fits.short {p : EncodedProbe} (h : p.Fits) : p.Short := by
  unfold Fits at h
  unfold Short
  omega

/-- The pseudo-header that the checksum of a probe covers. ICMP over IPv4 has none. -/
def EncodedProbe.pseudoHeader (p : EncodedProbe) : Bytes :=
  if p.protocol = .icmp ∧ p.dst.family = .ipv4 then []
  else
    Checksum.pseudoHeader p.src p.dst (p.protocol.number p.dst.family) p.transport.length

namespace Encoder

variable {c : Config} {src : Address} {flow : UInt16} {round : UInt32} {ttl : UInt8}
  {p : EncodedProbe}

/-- There is a probe for every flow of the session. -/
theorem exists_encode (c : Config) (src : Address) {flow : UInt16}
    (hf : flow.toNat < c.flows.toNat) (round : UInt32) (ttl : UInt8) :
    ∃ p, (ofConfig c (.ofConfig c) src).encode flow round ttl = some p := by
  have fields : (ofConfig c (.ofConfig c) src).plan.get? flow =
      some (FlowPlan.fieldsOf c (FlowPlan.ofConfig c).carrier flow) :=
    (FlowPlan.get?_ofConfig c flow).trans (if_pos hf)
  simp only [encode, fields, Option.bind_eq_bind, Option.bind_some]
  split <;> exact ⟨_, rfl⟩

/-- What the probes of a flow of echo requests have for a checksum. -/
def wishedChecksum (c : Config) (flow : UInt16) : Option UInt16 :=
  match c.multipath with
  | .paris => some (0x4000 + flow * 0x0101)
  | .dublin => none

/-- The sum of the pseudo-header of an echo request. -/
def echoPseudoSum (c : Config) (src : Address) : UInt32 :=
  if c.target.isIpv6 then
    Checksum.pseudoHeaderSum src c.target Icmp.protocolV6
      (Icmp.headerSize + Nat.max (leastPayload c) Icmp.minPayload)
  else 0

/-- The payload of a UDP datagram that carries a token, before the checksum is steered. -/
def flowPayload (c : Config) (src : Address) (token : UInt16) : Bytes :=
  Udp.payload ((ofConfig c (.ofConfig c) src).udpPayloadSize (FlowPlan.ofConfig c).carrier token)

theorem two_le_length_flowPayload (c : Config) (src : Address) (token : UInt16) :
    2 ≤ (flowPayload c src token).length :=
  Nat.le_trans (by decide) (Udp.minPayload_le_length _)

/-- The UDP datagram of a flow that carries a token, and its checksum. -/
def flowDatagram (c : Config) (src : Address) (flow token : UInt16) : Bytes × UInt16 :=
  Udp.datagram (c.keyBase + flow) c.dstPort (flowPayload c src token) src c.target
    (if (FlowPlan.ofConfig c).carrier = .udpChecksum then some token else none)

section Fields

variable (h : (ofConfig c (.ofConfig c) src).encode flow round ttl = some p)
include h

/-- An echo request. -/
theorem icmp_of_encode (hp : c.protocol = .icmp) :
    p.transport = (Icmp.finish (Icmp.echoRequest (c.keyBase + flow) p.token (leastPayload c)
      c.target.isIpv6) (echoPseudoSum c src) (wishedChecksum c flow)).1 ∧
    p.expected = ⟨none, some (c.keyBase + flow), none⟩ ∧ p.ipId = none := by
  have hf := (isProbe_of_encode h).flow_lt
  have base : c.keyBase = c.identifierBase := by simp [Config.keyBase, hp]
  simp only [encode, ofConfig, FlowPlan.get?_ofConfig, hf, if_true, Option.bind_eq_bind,
    Option.bind_some, FlowPlan.protocol_ofConfig, hp, Option.pure_def, Option.some.injEq] at h
  subst h
  simp only [icmpMessage, FlowPlan.fieldsOf, hp, base, Icmp.length_echoRequest, Option.getD_some,
    and_self, and_true]
  rfl

/-- A UDP datagram. -/
theorem udp_of_encode (hp : c.protocol = .udp) :
    p.transport = (flowDatagram c src flow p.token).1 ∧
      p.udpChecksum = some (flowDatagram c src flow p.token).2 ∧ p.dstPort = c.dstPort ∧
      p.expected.srcPort = some (c.keyBase + flow) ∧ p.expected.identifier = none ∧
      p.ipId =
        if (FlowPlan.ofConfig c).carrier = .ipIdentification then some p.token else none := by
  have hf := (isProbe_of_encode h).flow_lt
  have base : c.keyBase = c.srcPortBase := by simp [Config.keyBase, hp]
  simp only [encode, ofConfig, FlowPlan.get?_ofConfig, hf, if_true, Option.bind_eq_bind,
    Option.bind_some, FlowPlan.protocol_ofConfig, hp, Option.pure_def, Option.some.injEq,
    FlowPlan.carrier_fieldsOf] at h
  subst h
  simp only [udpDatagram, flowDatagram, flowPayload, FlowPlan.fieldsOf, hp, base, Option.getD_some,
    EncodedProbe.udpChecksum, ofConfig, and_self, and_true, true_and]
  split
  · rename_i hc
    simp only [hc]
    rfl
  · rfl

/-- A TCP segment. -/
theorem tcp_of_encode (hp : c.protocol = .tcp) :
    p.transport = Tcp.syn p.token (c.keyBase + flow) c.dstPort src c.target ∧
      p.dstPort = c.dstPort ∧ p.expected = ⟨some (c.keyBase + flow), none, none⟩ ∧
      p.ipId = none := by
  have hf := (isProbe_of_encode h).flow_lt
  have base : c.keyBase = c.srcPortBase := by simp [Config.keyBase, hp]
  simp only [encode, ofConfig, FlowPlan.get?_ofConfig, hf, if_true, Option.bind_eq_bind,
    Option.bind_some, FlowPlan.protocol_ofConfig, hp, Option.pure_def, Option.some.injEq] at h
  subst h
  simp only [tcpSegment, FlowPlan.fieldsOf, hp, base, Option.getD_some, and_self]

/-- The fields of an echo request. -/
theorem icmp_layout (hp : c.protocol = .icmp) :
    ∃ sum spare, p.transport = Icmp.layout (Icmp.requestType c.target.isIpv6) p.key p.key p.token
      (Icmp.filling (leastPayload c)) sum spare := by
  obtain ⟨spare, layout⟩ := Icmp.finish_echoRequest (c.keyBase + flow) p.token (leastPayload c)
    c.target.isIpv6 (echoPseudoSum c src) (wishedChecksum c flow)
  rw [(icmp_of_encode h hp).1, layout, (isProbe_of_encode h).key_eq]
  exact ⟨_, spare, rfl⟩

/-- The fields of a UDP datagram. -/
theorem udp_layout (hp : c.protocol = .udp) :
    ∃ sum spare, p.udpChecksum = some sum ∧
      p.transport = Udp.layout p.key p.dstPort (flowPayload c src p.token) sum spare := by
  obtain ⟨transport, sum, port, -⟩ := udp_of_encode h hp
  obtain ⟨spare, layout⟩ :=
    Udp.datagram_fst (c.keyBase + flow) c.dstPort (flowPayload c src p.token)
      src c.target (if (FlowPlan.ofConfig c).carrier = .udpChecksum then some p.token else none)
  refine ⟨_, spare, sum, ?_⟩
  rw [transport, flowDatagram, layout, (isProbe_of_encode h).key_eq, port]

end Fields

/-! ## Lengths -/

section Lengths

variable (h : (ofConfig c (.ofConfig c) src).encode flow round ttl = some p)
include h

theorem length_icmp (hp : c.protocol = .icmp) :
    p.transport.length = Icmp.headerSize + Nat.max (leastPayload c) Icmp.minPayload := by
  obtain ⟨sum, spare, layout⟩ := icmp_layout h hp
  rw [layout, Icmp.length_layout, Icmp.length_filling]

theorem length_udp (hp : c.protocol = .udp) :
    p.transport.length = Udp.headerSize + (flowPayload c src p.token).length := by
  obtain ⟨sum, spare, -, layout⟩ := udp_layout h hp
  rw [layout, Udp.length_layout _ _ (two_le_length_flowPayload c src p.token)]

/-- The length of a datagram that has its token in it. -/
theorem length_lengthCarrier (hc : (FlowPlan.ofConfig c).carrier = .udpPayloadLength) :
    p.transport.length = Udp.headerSize + leastPayload c + p.token.toNat := by
  have least : 8 ≤ leastPayload c := Nat.le_max_right ..
  rw [length_udp h (FlowPlan.of_lengthCarrier hc).1, flowPayload, hc, Udp.length_payload,
    Nat.add_assoc]
  exact congrArg _ (Nat.max_eq_left (Nat.le_trans least (Nat.le_add_right ..)))

theorem length_tcp (hp : c.protocol = .tcp) : p.transport.length = Tcp.headerSize := by
  rw [(tcp_of_encode h hp).1]
  rfl

/-- Where the largest payload leaves room for the headers, every datagram fits. -/
theorem fits_of_payloadSize (hroom : c.payloadSize + 263 ≤ 65535) : p.Fits := by
  have least : leastPayload c ≤ 65272 := Nat.max_le.mpr ⟨by omega, by decide⟩
  unfold EncodedProbe.Fits
  cases hp : c.protocol with
  | icmp =>
    have message : Nat.max (leastPayload c) Icmp.minPayload ≤ 65272 :=
      Nat.max_le.mpr ⟨least, by decide⟩
    rw [length_icmp h hp, Icmp.headerSize]
    omega
  | udp =>
    have size : (ofConfig c (.ofConfig c) src).udpPayloadSize (FlowPlan.ofConfig c).carrier
        p.token ≤ 65527 := by
      simp only [udpPayloadSize, ofConfig]
      split
      · rename_i hc
        -- A length that carries the token adds at most 255 to the payload.
        have token := congrArg UInt16.toNat (isProbe_of_encode h).token_eq
        rw [FlowPlan.toNat_lengthToken hc] at token
        omega
      · omega
    have payload := Nat.max_le.mpr ⟨size, (by decide : Udp.minPayload ≤ 65527)⟩
    rw [length_udp h hp, flowPayload, Udp.length_payload, Udp.headerSize]
    exact Nat.add_le_add_left payload 8
  | tcp =>
    rw [length_tcp h hp]
    decide

end Lengths

/-! ## The first eight bytes -/

section First

variable (h : (ofConfig c (.ofConfig c) src).encode flow round ttl = some p)
include h

theorem icmp_fields (hp : c.protocol = .icmp) :
    p.transport.HasAt 0 [Icmp.requestType c.target.isIpv6] ∧
      p.transport.HasAt 4 (octets16 p.key) ∧ p.transport.HasAt 6 (octets16 p.token) := by
  obtain ⟨sum, spare, layout⟩ := icmp_layout h hp
  rw [layout]
  exact ⟨rfl, rfl, rfl⟩

theorem udp_fields (hp : c.protocol = .udp) :
    ∃ sum, p.udpChecksum = some sum ∧ p.transport.HasAt 0 (octets16 p.key) ∧
      p.transport.HasAt 2 (octets16 p.dstPort) ∧
      p.transport.HasAt 4 (octets16 (UInt16.ofNat p.transport.length)) ∧
      p.transport.HasAt 6 (octets16 sum) := by
  obtain ⟨sum, spare, stored, layout⟩ := udp_layout h hp
  refine ⟨sum, stored, ?_⟩
  rw [length_udp h hp, layout]
  exact ⟨rfl, rfl, rfl, rfl⟩

theorem tcp_fields (hp : c.protocol = .tcp) :
    p.transport.HasAt 0 (octets16 p.key) ∧ p.transport.HasAt 2 (octets16 p.dstPort) ∧
      p.transport.HasAt 4 (octets32 (Tcp.sequenceOfToken p.token)) := by
  obtain ⟨transport, port, -⟩ := tcp_of_encode h hp
  rw [transport, port, (isProbe_of_encode h).key_eq]
  exact ⟨rfl, rfl, rfl⟩

end First

/-! ## Quotes -/

section Quote

variable (h : (ofConfig c (.ofConfig c) src).encode flow round ttl = some p)
include h

theorem icmp_quote (hp : c.protocol = .icmp) (left : UInt8) :
    p.quote left = ⟨p.src, p.dst, left, none, none, some p.key, none⟩ := by
  have probe := isProbe_of_encode h
  simp [EncodedProbe.quote, EncodedProbe.udpChecksum, probe.protocol_eq, hp,
    (icmp_of_encode h hp).2.1, probe.key_eq]

theorem udp_quote (hp : c.protocol = .udp) (left : UInt8) :
    p.quote left = ⟨p.src, p.dst, left, some p.key, some p.dstPort, none, p.udpChecksum⟩ := by
  obtain ⟨-, -, -, port, identifier, -⟩ := udp_of_encode h hp
  simp [EncodedProbe.quote, port, identifier, (isProbe_of_encode h).key_eq]

theorem tcp_quote (hp : c.protocol = .tcp) (left : UInt8) :
    p.quote left = ⟨p.src, p.dst, left, some p.key, some p.dstPort, none, none⟩ := by
  have probe := isProbe_of_encode h
  simp [EncodedProbe.quote, EncodedProbe.udpChecksum, probe.protocol_eq, hp,
    (tcp_of_encode h hp).2.2.1, probe.key_eq]

end Quote

/-! ## Checksums -/

/-- A wished checksum is neither zero nor all ones. -/
theorem wishedChecksum_within (hb : c.Bounds) (hf : flow.toNat < c.flows.toNat) :
    ∀ w ∈ wishedChecksum c flow, 0 < w.toNat ∧ w.toNat < 65535 := by
  have flows := hb.flows_le
  intro w hw
  unfold wishedChecksum at hw
  split at hw
  · obtain rfl : 0x4000 + flow * 0x0101 = w := by simpa using hw
    rw [UInt16.toNat_add, UInt16.toNat_mul, show (0x4000 : UInt16).toNat = 16384 from rfl,
      show (0x0101 : UInt16).toNat = 257 from rfl]
    omega
  · cases hw

/-- Where the token is a checksum, it is neither zero nor all ones. -/
theorem token_within (h : (ofConfig c (.ofConfig c) src).encode flow round ttl = some p)
    (ht : 0 < ttl.toNat ∧ ttl.toNat ≤ 64) (hc : (FlowPlan.ofConfig c).carrier = .udpChecksum) :
    0 < p.token.toNat ∧ p.token.toNat < 65535 := by
  have token := (isProbe_of_encode h).toNat_token (by rw [hc]; decide)
  omega

theorem pseudoHeader_eq_nil (h : p.IsProbe c src flow round ttl) (hp : c.protocol = .icmp)
    (hf : c.target.family = .ipv4) : p.pseudoHeader = [] :=
  if_pos ⟨h.protocol_eq.trans hp, h.dst_eq ▸ hf⟩

theorem pseudoHeader_eq (h : p.IsProbe c src flow round ttl)
    (hn : ¬ (c.protocol = .icmp ∧ c.target.family = .ipv4)) :
    p.pseudoHeader = Checksum.pseudoHeader src c.target (c.protocol.number c.target.family)
      p.transport.length := by
  rw [EncodedProbe.pseudoHeader, h.protocol_eq, h.dst_eq, h.src_eq, if_neg hn]

/-- The sum that the checksum of an echo request starts from stands for its pseudo-header. -/
theorem checksumWith_echoPseudoSum (hs : src.family = c.target.family)
    (h : (ofConfig c (.ofConfig c) src).encode flow round ttl = some p) (hp : c.protocol = .icmp) :
    p.pseudoHeader.length % 2 = 0 ∧ p.pseudoHeader.length ≤ 40 ∧ ∀ data,
      Checksum.checksumWith data (echoPseudoSum c src) =
        Checksum.checksum (p.pseudoHeader ++ data) := by
  have probe := isProbe_of_encode h
  cases hf : c.target.family with
  | ipv4 =>
    have sum : echoPseudoSum c src = 0 := by simp [echoPseudoSum, Address.isIpv6, hf]
    rw [pseudoHeader_eq_nil probe hp hf, sum]
    exact ⟨rfl, Nat.zero_le _, fun data => rfl⟩
  | ipv6 =>
    have sum : echoPseudoSum c src =
        Checksum.pseudoHeaderSum src c.target Icmp.protocolV6 p.transport.length := by
      simp [echoPseudoSum, Address.isIpv6, hf, length_icmp h hp]
    obtain ⟨heven, hsmall⟩ := Checksum.length_pseudoHeader src c.target Icmp.protocolV6
      p.transport.length
    rw [pseudoHeader_eq probe (by simp [hf]), sum, hp, hf]
    exact ⟨heven, hsmall, Checksum.checksumWith_pseudoHeaderSum hs _ _⟩

/-- The probes of a session are sealed. -/
theorem sealed_of_encode (hb : c.Bounds) (hs : src.family = c.target.family)
    (h : (ofConfig c (.ofConfig c) src).encode flow round ttl = some p)
    (ht : 0 < ttl.toNat ∧ ttl.toNat ≤ 64) (hshort : p.Short) :
    Sealed p.protocol p.pseudoHeader p.transport := by
  have probe := isProbe_of_encode h
  rw [probe.protocol_eq]
  cases hp : c.protocol with
  | icmp =>
    obtain ⟨heven, hsmall, sums⟩ := checksumWith_echoPseudoSum hs h hp
    have size := length_icmp h hp
    rw [(icmp_of_encode h hp).1]
    refine Icmp.sealed_finish heven sums _ _ _ _ ?_ (wishedChecksum_within hb probe.flow_lt)
    rw [← size]
    unfold EncodedProbe.Short at hshort
    omega
  | udp =>
    have size := length_udp h hp
    have within : ∀ w ∈ (if (FlowPlan.ofConfig c).carrier = .udpChecksum then some p.token
        else none), 0 < w.toNat ∧ w.toNat < 65535 := by
      intro w hw
      split at hw
      · obtain rfl : p.token = w := by simpa using hw
        exact token_within h ht ‹_›
      · cases hw
    rw [pseudoHeader_eq probe (by simp [hp]), hp, size, (udp_of_encode h hp).1]
    exact Udp.sealed_datagram _ _ (two_le_length_flowPayload c src p.token) hs (size ▸ hshort)
      within
  | tcp =>
    rw [pseudoHeader_eq probe (by simp [hp]), hp, length_tcp h hp, (tcp_of_encode h hp).1]
    exact Tcp.sealed_syn _ _ _ hs

/-- A datagram socket that is bound to the key of a flow and handed the payload of a UDP probe sends
the probe. -/
theorem kernelDatagram_of_encode (hb : c.Bounds) (hs : src.family = c.target.family)
    (h : (ofConfig c (.ofConfig c) src).encode flow round ttl = some p)
    (ht : 0 < ttl.toNat ∧ ttl.toNat ≤ 64) (hshort : p.Short) (hp : c.protocol = .udp) :
    Udp.kernelDatagram p.key p.dstPort p.udpPayload p.src p.dst = p.transport := by
  have probe := isProbe_of_encode h
  obtain ⟨sum, spare, -, layout⟩ := udp_layout h hp
  have whole := sealed_of_encode hb hs h ht hshort
  rw [probe.protocol_eq, pseudoHeader_eq probe (by simp [hp]), hp, length_udp h hp, layout] at whole
  rw [EncodedProbe.udpPayload, probe.src_eq, probe.dst_eq, layout]
  exact Udp.kernelDatagram_of_sealed (two_le_length_flowPayload c src p.token) whole

/-- Where the token is a checksum, it stands in the place of the checksum. -/
theorem hasAt_token (h : (ofConfig c (.ofConfig c) src).encode flow round ttl = some p)
    (hc : (FlowPlan.ofConfig c).carrier = .udpChecksum) :
    p.transport.HasAt 6 (octets16 p.token) := by
  rw [(udp_of_encode h (FlowPlan.protocol_of_checksum hc)).1, flowDatagram, if_pos hc]
  rfl

/-- Probes of echo requests have the checksum of their flow, where it has one. -/
theorem hasAt_checksumSeed (h : (ofConfig c (.ofConfig c) src).encode flow round ttl = some p)
    (hp : c.protocol = .icmp) (hm : c.multipath = .paris) :
    ∃ fields seed, (FlowPlan.ofConfig c).get? flow = some fields ∧
      fields.checksumSeed = some seed ∧ p.transport.HasAt 2 (octets16 seed) := by
  refine ⟨_, 0x4000 + flow * 0x0101,
    (FlowPlan.get?_ofConfig c flow).trans (if_pos (isProbe_of_encode h).flow_lt), ?_, ?_⟩
  · simp [FlowPlan.fieldsOf, hp, hm]
  · rw [(icmp_of_encode h hp).1, wishedChecksum, hm]
    rfl

/-- Every probe carries the checksum that a receiver or a kernel computes. -/
theorem carries_checksum (hc : c.check = .ok ()) (hs : src.family = c.target.family)
    (hf : flow.toNat < c.flows.toNat) (round : UInt32)
    (ht : 1 ≤ ttl.toNat ∧ ttl.toNat ≤ c.maxTtl.toNat) :
    ∃ p, (ofConfig c (.ofConfig c) src).encode flow round ttl = some p ∧ (p.Fits →
      Checksum.verify (p.pseudoHeader ++ p.transport) = true ∧
      p.transport.HasAt p.protocol.checksumAt
        (octets16 (recompute p.protocol p.pseudoHeader p.transport)) ∧
      (p.protocol = .udp →
        Udp.kernelDatagram p.key p.dstPort p.udpPayload p.src p.dst = p.transport) ∧
      ((FlowPlan.ofConfig c).carrier = .udpChecksum → p.transport.HasAt 6 (octets16 p.token)) ∧
      (c.protocol = .icmp → c.multipath = .paris →
        ∃ fields seed, (FlowPlan.ofConfig c).get? flow = some fields ∧
          fields.checksumSeed = some seed ∧ p.transport.HasAt 2 (octets16 seed))) := by
  have hb := Config.bounds_of_check hc
  have limit : 0 < ttl.toNat ∧ ttl.toNat ≤ 64 := ⟨ht.1, Nat.le_trans ht.2 hb.ttl_le⟩
  obtain ⟨p, h⟩ := exists_encode c src hf round ttl
  refine ⟨p, h, fun fits => ?_⟩
  obtain ⟨verifies, stored⟩ := sealed_of_encode hb hs h limit fits.short
  refine ⟨verifies, stored, fun hp => ?_, hasAt_token h, hasAt_checksumSeed h⟩
  exact kernelDatagram_of_encode hb hs h limit fits.short ((isProbe_of_encode h).protocol_eq ▸ hp)

/-- A session of two flows, probed with UDP datagrams. -/
def pairConfig : Config := { Config.standard (.ofOctets4 192 0 2 1) .udp 7 with flows := 2 }

/-- A probe of the second flow carries its token for a checksum. -/
theorem carries_checksum_pairConfig :
    ∃ p, (ofConfig pairConfig (.ofConfig pairConfig) (.ofOctets4 10 0 0 1)).encode 1 0 5 = some p ∧
      Checksum.verify (p.pseudoHeader ++ p.transport) = true ∧
      Udp.kernelDatagram p.key p.dstPort p.udpPayload p.src p.dst = p.transport ∧
      p.transport.HasAt 6 (octets16 p.token) := by
  obtain ⟨p, h, holds⟩ := @carries_checksum pairConfig (.ofOctets4 10 0 0 1) 1 5 rfl rfl
    (by decide) 0 (by decide)
  have udp : p.protocol = .udp := (isProbe_of_encode h).protocol_eq
  obtain ⟨verifies, -, kernel, token, -⟩ := holds (fits_of_payloadSize h (by decide))
  exact ⟨p, h, verifies, kernel udp, token rfl⟩

end Encoder

end FlowTrace
