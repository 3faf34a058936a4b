import FlowTrace.Proofs.Packet.Extension
import FlowTrace.Proofs.Packet.Header
import FlowTrace.Proofs.Probe

/-!
# ICMP errors

- **Errors on the wire** (`IcmpError`, `QuotedHeader`): the kinds of ICMP errors of each family, and
  the IP header of the packet that they quote.
- **Reading** (`icmpV4_message`, `icmpV6_message`): an error is read as its kind, what it quotes and
  the extensions behind it (`IcmpError.extensions`), which are looked for where its length field
  says.
- **Quoted probes** (`quotedProbe_of_encode`): eight bytes of a probe tell its key and its token,
  whichever field carries the token.
- **Main result** (`decode_error_of_encode`): an error that quotes a probe is decoded as a reply to
  this probe.
-/

namespace FlowTrace

open Packet

/-! ## Errors on the wire -/

/-- The IP header of a packet that an ICMP error quotes. -/
inductive QuotedHeader : Family → Type where
  | v4 (header : Ipv4Header) : QuotedHeader .ipv4
  | v6 (header : Ipv6Header) (extensions : List ExtensionHeader) : QuotedHeader .ipv6

namespace QuotedHeader

variable {family : Family}

def src : QuotedHeader family → Address
  | .v4 h => .v4 h.src
  | .v6 h _ => .v6 h.src

def dst : QuotedHeader family → Address
  | .v4 h => .v4 h.dst
  | .v6 h _ => .v6 h.dst

/-- What was left of the hop limit. -/
def ttl : QuotedHeader family → UInt8
  | .v4 h => h.ttl
  | .v6 h _ => h.ttl

def identification : QuotedHeader family → Option UInt16
  | .v4 h => some h.identification
  | .v6 _ _ => none

/-- The header, and extension headers, in front of a datagram of a protocol. -/
def bytes (protocol : UInt8) : QuotedHeader family → Bytes
  | .v4 h => h.bytes protocol
  | .v6 h extensions =>
    h.bytes (ExtensionHeader.first extensions protocol) ++ ExtensionHeader.chain extensions protocol

/-- What the header and a datagram behind it are read as. -/
def packet (h : QuotedHeader family) (protocol : UInt8) (transport : Bytes) : QuotedPacket :=
  ⟨h.src, h.dst, h.ttl, h.identification, protocol, transport⟩

/-- An IPv4 header reads back. -/
theorem readV4_bytes (h : QuotedHeader .ipv4) (protocol : UInt8) (rest : Bytes) :
    QuotedPacket.readV4 (h.bytes protocol ++ rest) = .ok (some (h.packet protocol rest)) := by
  cases h with
  | v4 header => exact header.readV4_bytes protocol rest

/-- An IPv6 header reads back, with any extension headers behind it. -/
theorem readV6_bytes (h : QuotedHeader .ipv6) {protocol : UInt8}
    (stops : QuotedPacket.isWalkable protocol = false) (rest : Bytes) :
    QuotedPacket.readV6 (h.bytes protocol ++ rest) = .ok (some (h.packet protocol rest)) := by
  cases h with
  | v6 header extensions =>
    rw [bytes, List.append_assoc]
    exact header.readV6_bytes protocol rest extensions stops

end QuotedHeader

/-- An ICMP error, without the packet that it quotes. The word stands behind the checksum. -/
inductive IcmpError : Family → Type where
  | timeExceeded {family : Family} (code : UInt8) (word : UInt32) : IcmpError family
  | unreachable {family : Family} (code : UInt8) (word : UInt32) : IcmpError family
  | packetTooBig (code : UInt8) (mtu : UInt32) : IcmpError .ipv6

namespace IcmpError

def type : {family : Family} → IcmpError family → UInt8
  | .ipv4, .timeExceeded .. => Icmp.timeExceededV4
  | .ipv4, .unreachable .. => Icmp.unreachableV4
  | .ipv6, .timeExceeded .. => Icmp.timeExceededV6
  | .ipv6, .unreachable .. => Icmp.unreachableV6
  | .ipv6, .packetTooBig .. => Icmp.packetTooBigV6

variable {family : Family}

def code : IcmpError family → UInt8
  | .timeExceeded code _ | .unreachable code _ | .packetTooBig code _ => code

def word : IcmpError family → UInt32
  | .timeExceeded _ word | .unreachable _ word | .packetTooBig _ word => word

/-- What the error says. Over IPv4 the request for smaller packets is a code of its own, with the
packet size in the lower half of the word. -/
def kind : {family : Family} → IcmpError family → ResponseKind
  | _, .timeExceeded code _ => .timeExceeded code
  | .ipv4, .unreachable code word =>
    if code = Icmp.fragmentationNeeded then .packetTooBig (UInt32.ofNat (word.toNat % 65536))
    else .destinationUnreachable code
  | .ipv6, .unreachable code _ => .destinationUnreachable code
  | .ipv6, .packetTooBig _ mtu => .packetTooBig mtu

/-- The length field of an error that has one, a byte of the word. -/
def length? : {family : Family} → IcmpError family → Option UInt8
  | .ipv4, .timeExceeded _ word | .ipv4, .unreachable _ word =>
    some (UInt8.ofNat (word.toNat / 65536 % 256))
  | .ipv6, .timeExceeded _ word | .ipv6, .unreachable _ word =>
    some (UInt8.ofNat (word.toNat / 16777216))
  | .ipv6, .packetTooBig .. => none

/-- The bytes that the length field counts by. -/
def lengthUnit : Family → Nat
  | .ipv4 => 4
  | .ipv6 => 8

/-- The extensions in the payload of an error. -/
def extensions (e : IcmpError family) (payload : Bytes) : Except Fault (Option Extensions) :=
  match e.length? with
  | some length => Extensions.parse payload length (lengthUnit family)
  | none => .ok none

/-- Extensions are looked for within the payload. -/
theorem exists_extensions (e : IcmpError family) (payload : Bytes) :
    ∃ extensions, e.extensions payload = .ok extensions := by
  unfold extensions
  cases e.length? with
  | some length =>
    obtain ⟨extensions, parsed, -⟩ := Extensions.returns_parse payload length (lengthUnit family)
    exact ⟨extensions, parsed⟩
  | none => exact ⟨none, rfl⟩

/-- The message around a quoted packet. -/
def message (e : IcmpError family) (checksum : UInt16) (quoted : Bytes) : Bytes :=
  [e.type, e.code] ++ octets16 checksum ++ octets32 e.word ++ quoted

/-- The message that quotes the beginning of a datagram, with its IP header and what else the
router adds. -/
def quoting (e : IcmpError family) (checksum : UInt16) (header : QuotedHeader family)
    (protocol : Protocol) (front after : Bytes) : Bytes :=
  e.message checksum (header.bytes (protocol.number family) ++ (front ++ after))

section Message

variable (e : IcmpError family) (checksum : UInt16) (quoted : Bytes)

@[simp] theorem length_message : (e.message checksum quoted).length = 8 + quoted.length := by
  simp only [message, List.length_append, List.length_cons, List.length_nil, length_octets16,
    length_octets32]

@[simp] theorem byteAt_type : (e.message checksum quoted).byteAt 0 = .ok e.type := rfl

@[simp] theorem byteAt_code : (e.message checksum quoted).byteAt 1 = .ok e.code := rfl

/-- The first byte of the word. -/
theorem byteAt_word : (e.message checksum quoted).byteAt 4 =
    .ok (UInt8.ofNat (e.word.toNat / 16777216)) := rfl

/-- The second byte of the word. -/
theorem byteAt_word_second : (e.message checksum quoted).byteAt 5 =
    .ok (UInt8.ofNat (e.word.toNat / 65536 % 256)) := rfl

@[simp] theorem word32At_word : (e.message checksum quoted).word32At 4 = .ok e.word :=
  congrArg Except.ok (word32_octets e.word)

/-- The lower half of the word. -/
theorem word16At_word :
    (e.message checksum quoted).word16At 6 = .ok (UInt16.ofNat (e.word.toNat % 65536)) := by
  refine congrArg Except.ok (UInt16.toNat_inj.mp ?_)
  rw [toNat_word16, UInt8.toNat_ofNat', UInt8.toNat_ofNat', UInt16.toNat_ofNat']
  omega

/-- An error that is given its checksum is valid. -/
theorem verify_message (hshort : quoted.length < 131064) :
    Checksum.verify (e.message (Checksum.checksum (e.message 0 quoted)) quoted) = true := by
  have join (sum : UInt16) : e.message sum quoted =
      [e.type, e.code] ++ octets16 sum ++ (octets32 e.word ++ quoted) := by
    simp only [message, List.append_assoc]
  have size := e.length_message 0 quoted
  rw [join] at size
  rw [join, join]
  exact Checksum.verify_seal (by simp) (by omega)

@[simp] theorem suffix_message :
    (e.message checksum quoted).suffix Icmp.headerSize = .ok quoted := by
  rw [Bytes.suffix_of_le (by simp [Icmp.headerSize])]
  rfl

end Message

end IcmpError

/-! ## Reading -/

namespace Decoder

variable {d : Decoder} {payload : Bytes} {q : QuotedPacket} {key token : UInt16}
  {probe : QuotedProbe} {extensions : Option Extensions}

/-- An ICMPv4 error with a valid checksum is read as its kind, the probe that it quotes and the
extensions behind it. -/
theorem icmpV4_message (e : IcmpError .ipv4) (checksum : UInt16)
    (hvalid : Checksum.verify (e.message checksum payload) = true)
    (read : QuotedPacket.readV4 payload = .ok (some q))
    (found : d.quotedProbe q = .ok (some (key, token, probe)))
    (parsed : e.extensions payload = .ok extensions) (responder : Address) :
    d.icmpV4 (e.message checksum payload) responder =
      .ok (some ⟨responder, e.kind, key, token, some probe, extensions⟩) := by
  have whole : ¬ ((e.message checksum payload).length < Icmp.headerSize ∨
      ¬ Checksum.verify (e.message checksum payload) = true) := by
    rintro (hshort | invalid)
    · rw [IcmpError.length_message, Icmp.headerSize] at hshort
      omega
    · exact invalid hvalid
  cases e with
  | timeExceeded c w =>
    have parsed : Extensions.parse payload (UInt8.ofNat (w.toNat / 65536 % 256)) 4 =
        .ok extensions := parsed
    simp only [icmpV4, whole, if_false, IcmpError.byteAt_type, IcmpError.byteAt_code,
      IcmpError.byteAt_word_second, IcmpError.word, IcmpError.suffix_message, read, parsed,
      icmpError, found, bind, Except.bind]
    rfl
  | unreachable c w =>
    have parsed : Extensions.parse payload (UInt8.ofNat (w.toNat / 65536 % 256)) 4 =
        .ok extensions := parsed
    simp only [icmpV4, whole, if_false, IcmpError.byteAt_type, IcmpError.byteAt_code,
      IcmpError.byteAt_word_second, IcmpError.word, IcmpError.suffix_message, read, parsed,
      icmpError, found, bind, Except.bind, IcmpError.word16At_word, IcmpError.kind, IcmpError.code]
    by_cases hc : c = Icmp.fragmentationNeeded
    · have size : (UInt16.ofNat (w.toNat % 65536)).toUInt32 = UInt32.ofNat (w.toNat % 65536) := by
        rw [← UInt32.toNat_inj, UInt16.toNat_toUInt32, UInt16.toNat_ofNat', UInt32.toNat_ofNat']
        omega
      simp only [hc, if_true, size]
      rfl
    · simp only [hc, if_false]
      rfl

/-- An ICMPv6 error is read as its kind, the probe that it quotes and the extensions behind it, if
it quotes a probe. -/
theorem icmpV6_error {found : Option (UInt16 × UInt16 × QuotedProbe)} (e : IcmpError .ipv6)
    (checksum : UInt16) (read : QuotedPacket.readV6 payload = .ok (some q))
    (quote : d.quotedProbe q = .ok found) (parsed : e.extensions payload = .ok extensions)
    (responder : Address) :
    d.icmpV6 (e.message checksum payload) responder = .ok (found.map fun (key, token, probe) =>
      ⟨responder, e.kind, key, token, some probe, extensions⟩) := by
  have whole : ¬ (e.message checksum payload).length < Icmp.headerSize := by
    rw [IcmpError.length_message, Icmp.headerSize]
    omega
  cases e with
  | timeExceeded c w | unreachable c w =>
    have parsed : Extensions.parse payload (UInt8.ofNat (w.toNat / 16777216)) 8 =
        .ok extensions := parsed
    simp only [icmpV6, whole, if_false, IcmpError.byteAt_type, IcmpError.byteAt_code,
      IcmpError.byteAt_word, IcmpError.word, IcmpError.suffix_message, read, parsed, icmpError,
      quote, bind, Except.bind]
    cases found <;> rfl
  | packetTooBig c mtu =>
    obtain rfl : none = extensions := Except.ok.inj parsed
    simp only [icmpV6, whole, if_false, IcmpError.byteAt_type, IcmpError.byteAt_code,
      IcmpError.suffix_message, IcmpError.word32At_word, read, icmpError, quote, bind, Except.bind]
    cases found <;> rfl

/-- An ICMPv6 error is read as its kind, the probe that it quotes and the extensions behind it. -/
theorem icmpV6_message (e : IcmpError .ipv6) (checksum : UInt16)
    (read : QuotedPacket.readV6 payload = .ok (some q))
    (found : d.quotedProbe q = .ok (some (key, token, probe)))
    (parsed : e.extensions payload = .ok extensions) (responder : Address) :
    d.icmpV6 (e.message checksum payload) responder =
      .ok (some ⟨responder, e.kind, key, token, some probe, extensions⟩) :=
  icmpV6_error e checksum read found parsed responder

/-! ## Quoted probes -/

section Quote

variable {c : Config} {src : Address} {flow : UInt16} {round : UInt32} {ttl : UInt8}
  {p : EncodedProbe}

/-- A UDP datagram shows its token, in the field that carries it. -/
theorem udpToken_of_encode
    (h : (Encoder.ofConfig c (.ofConfig c) src).encode flow round ttl = some p)
    (hp : c.protocol = .udp) (fits : p.Fits) {ipId : Option UInt16}
    (identified : ∀ id ∈ p.ipId, ipId = some id) {sum : UInt16}
    (stored : p.udpChecksum = some sum) :
    (ofConfig c (FlowPlan.ofConfig c).carrier).udpToken ipId (UInt16.ofNat p.transport.length) sum =
      some p.token := by
  obtain ⟨-, checksum, -, -, -, id⟩ := Encoder.udp_of_encode h hp
  unfold EncodedProbe.Fits at fits
  cases hc : (FlowPlan.ofConfig c).carrier with
  | udpChecksum =>
    rw [stored, Encoder.flowDatagram, if_pos hc] at checksum
    exact checksum
  | ipIdentification =>
    rw [if_pos hc] at id
    exact identified p.token id
  | udpPayloadLength =>
    have size := Encoder.length_lengthCarrier h hc
    simp only [udpToken, ofConfig, UInt16.toNat_ofNat', Udp.headerSize] at size ⊢
    rw [if_pos (by omega)]
    refine congrArg some (UInt16.toNat_inj.mp ?_)
    rw [UInt16.toNat_ofNat']
    omega
  | icmpSequence | tcpSequence =>
    rw [FlowPlan.carrier_ofConfig, hp] at hc
    unfold FlowPlan.carrierFor at hc
    split at hc <;> simp_all

/-- The protocol numbers and the types of echo requests. -/
theorem echo_numbers (target : Address) :
    (Protocol.icmp.number target.family = Icmp.protocolV4 ∨
      Protocol.icmp.number target.family = Icmp.protocolV6) ∧
    (Icmp.requestType target.isIpv6 = Icmp.echoRequestV4 ∨
      Icmp.requestType target.isIpv6 = Icmp.echoRequestV6) := by
  cases target
  · exact ⟨.inl rfl, .inl rfl⟩
  · exact ⟨.inr rfl, .inr rfl⟩

/-- A quoted echo request is read as its identifier and its sequence number. -/
theorem quotedProbe_icmp (hp : d.protocol = .icmp)
    (number : q.protocol = Icmp.protocolV4 ∨ q.protocol = Icmp.protocolV6)
    (hlong : 8 ≤ q.transport.length) {type : UInt8} {identifier sequence : UInt16}
    (request : type = Icmp.echoRequestV4 ∨ type = Icmp.echoRequestV6)
    (htype : q.transport.HasAt 0 [type]) (hidentifier : q.transport.HasAt 4 (octets16 identifier))
    (hsequence : q.transport.HasAt 6 (octets16 sequence)) :
    d.quotedProbe q = .ok (some (identifier, sequence,
      ⟨q.src, q.dst, q.ttl, none, none, some identifier, none⟩)) := by
  have whole : ¬ q.transport.length < 8 := Nat.not_lt.mpr hlong
  simp only [quotedProbe, hp, whole, htype.byteAt, hidentifier.word16At, hsequence.word16At,
    if_false, bind, Except.bind]
  rw [if_neg fun both => number.elim both.1 both.2, if_neg fun both => request.elim both.1 both.2]
  rfl

/-- A quoted UDP datagram is read as its numbers, its checksum and the token in it, if there is
one. -/
theorem quotedProbe_udpToken (hp : d.protocol = .udp) (number : q.protocol = Udp.protocol)
    (hlong : 8 ≤ q.transport.length) {src dst length sum : UInt16}
    (hsrc : q.transport.HasAt 0 (octets16 src)) (hdst : q.transport.HasAt 2 (octets16 dst))
    (hlength : q.transport.HasAt 4 (octets16 length)) (hsum : q.transport.HasAt 6 (octets16 sum)) :
    d.quotedProbe q = .ok ((d.udpToken q.ipId length sum).map fun token => (src, token,
      ⟨q.src, q.dst, q.ttl, some src, some dst, none, some sum⟩)) := by
  have whole : ¬ q.transport.length < 8 := Nat.not_lt.mpr hlong
  simp only [quotedProbe, hp, whole, number, hsrc.word16At, hdst.word16At, hlength.word16At,
    hsum.word16At, ne_eq, not_true_eq_false, if_false, bind, Except.bind]
  cases d.udpToken q.ipId length sum <;> rfl

/-- A quoted UDP datagram is read as its numbers, its checksum and the token in it. -/
theorem quotedProbe_udp (hp : d.protocol = .udp) (number : q.protocol = Udp.protocol)
    (hlong : 8 ≤ q.transport.length) {src dst length sum : UInt16}
    (hsrc : q.transport.HasAt 0 (octets16 src)) (hdst : q.transport.HasAt 2 (octets16 dst))
    (hlength : q.transport.HasAt 4 (octets16 length)) (hsum : q.transport.HasAt 6 (octets16 sum))
    (htoken : d.udpToken q.ipId length sum = some token) :
    d.quotedProbe q = .ok (some (src, token,
      ⟨q.src, q.dst, q.ttl, some src, some dst, none, some sum⟩)) := by
  rw [quotedProbe_udpToken hp number hlong hsrc hdst hlength hsum, htoken]
  rfl

/-- A quoted TCP segment is read as its numbers and the token in its sequence number. -/
theorem quotedProbe_tcp (hp : d.protocol = .tcp) (number : q.protocol = Tcp.protocol)
    (hlong : 8 ≤ q.transport.length) {src dst : UInt16}
    (hsrc : q.transport.HasAt 0 (octets16 src)) (hdst : q.transport.HasAt 2 (octets16 dst))
    (hsequence : q.transport.HasAt 4 (octets32 (Tcp.sequenceOfToken token))) :
    d.quotedProbe q = .ok (some (src, token,
      ⟨q.src, q.dst, q.ttl, some src, some dst, none, none⟩)) := by
  have whole : ¬ q.transport.length < 8 := Nat.not_lt.mpr hlong
  simp only [quotedProbe, hp, whole, number, hsrc.word16At, hdst.word16At, hsequence.word32At,
    Tcp.tokenOfSequence_sequenceOfToken, ne_eq, not_true_eq_false, if_false, bind, Except.bind]
  rfl

/-- Eight bytes of a probe tell its key and its token. The header of the quoted packet tells the
rest: the addresses and the hop limit as a router saw them, and the identification. -/
theorem quotedProbe_of_encode
    (h : (Encoder.ofConfig c (.ofConfig c) src).encode flow round ttl = some p) (fits : p.Fits)
    {q : QuotedPacket} (number : q.protocol = p.protocol.number c.target.family)
    (identified : ∀ id ∈ p.ipId, q.ipId = some id) {front after : Bytes}
    (cut : front <+: p.transport) (hroom : 8 ≤ front.length)
    (transport : q.transport = front ++ after) :
    (ofConfig c (FlowPlan.ofConfig c).carrier).quotedProbe q = .ok (some (p.key, p.token,
      { p.quote q.ttl with src := q.src, dst := q.dst })) := by
  have hlong : 8 ≤ q.transport.length := by
    rw [transport, List.length_append]
    omega
  -- All fields that are read stand in the first eight bytes, so they are shown however short the
  -- quote is.
  have shown {i : Nat} {field : Bytes} (at_ : p.transport.HasAt i field)
      (within : i + field.length ≤ 8) : q.transport.HasAt i field := by
    rw [transport]
    exact at_.of_prefix cut (Nat.le_trans within hroom) after
  rw [(Encoder.isProbe_of_encode h).protocol_eq] at number
  cases hp : c.protocol with
  | icmp =>
    obtain ⟨type, key, token⟩ := Encoder.icmp_fields h hp
    obtain ⟨numbers, request⟩ := echo_numbers c.target
    rw [hp] at number
    rw [Encoder.icmp_quote h hp]
    exact quotedProbe_icmp hp (number ▸ numbers) hlong request (shown type (by simp))
      (shown key (by simp)) (shown token (by simp))
  | udp =>
    obtain ⟨sum, stored, key, dst, length, checksum⟩ := Encoder.udp_fields h hp
    have token := udpToken_of_encode h hp fits identified stored
    rw [Encoder.udp_quote h hp, stored]
    exact quotedProbe_udp hp (number.trans (by rw [hp]; rfl)) hlong (shown key (by simp))
      (shown dst (by simp)) (shown length (by simp)) (shown checksum (by simp)) token
  | tcp =>
    obtain ⟨key, dst, sequence⟩ := Encoder.tcp_fields h hp
    rw [Encoder.tcp_quote h hp]
    exact quotedProbe_tcp hp (number.trans (by rw [hp]; rfl)) hlong (shown key (by simp))
      (shown dst (by simp)) (shown sequence (by simp))

/-- An ICMP error that quotes a packet in which a probe is found is decoded as its kind, the probe
and the extensions behind it, with or without an IPv4 header in front. -/
theorem decode_quoting_extensions {family : Family} (e : IcmpError family) (checksum : UInt16)
    {header : QuotedHeader family} {protocol : Protocol} {front after : Bytes}
    (hvalid : family = .ipv4 →
      Checksum.verify (e.quoting checksum header protocol front after) = true)
    (found : d.quotedProbe (header.packet (protocol.number family) (front ++ after)) =
      .ok (some (key, token, probe)))
    (parsed : e.extensions (header.bytes (protocol.number family) ++ (front ++ after)) =
      .ok extensions)
    {responder : Address} (hr : responder.family = family) :
    d.decode (e.quoting checksum header protocol front after) responder .icmpMessage =
        .ok (some ⟨responder, e.kind, key, token, some probe, extensions⟩) ∧
      (family = .ipv4 → ∀ outer : Ipv4Header,
        d.decode (outer.bytes Icmp.protocolV4 ++ e.quoting checksum header protocol front after)
            responder .ipv4Packet =
          .ok (some ⟨responder, e.kind, key, token, some probe, extensions⟩)) := by
  cases family with
  | ipv4 =>
    have read :=
      icmpV4_message e checksum (hvalid rfl) (header.readV4_bytes _ _) found parsed responder
    cases responder with
    | v4 o =>
      refine ⟨read, fun _ outer => ?_⟩
      rw [outer.decode_bytes, if_pos rfl]
      exact read
    | v6 o => cases hr
  | ipv6 =>
    have stops : QuotedPacket.isWalkable (protocol.number .ipv6) = false := by
      cases protocol <;> rfl
    have read := icmpV6_message e checksum (header.readV6_bytes stops _) found parsed responder
    cases responder with
    | v4 o => cases hr
    | v6 o => exact ⟨read, fun hf => by cases hf⟩

/-- An ICMP error that quotes a packet in which a probe is found is decoded as its kind and the
probe, whatever stands behind the quote. -/
theorem decode_quoting {family : Family} (e : IcmpError family) (checksum : UInt16)
    {header : QuotedHeader family} {protocol : Protocol} {front after : Bytes}
    (hvalid : family = .ipv4 →
      Checksum.verify (e.quoting checksum header protocol front after) = true)
    (found : d.quotedProbe (header.packet (protocol.number family) (front ++ after)) =
      .ok (some (key, token, probe)))
    {responder : Address} (hr : responder.family = family) :
    ∃ extensions,
      d.decode (e.quoting checksum header protocol front after) responder .icmpMessage =
        .ok (some ⟨responder, e.kind, key, token, some probe, extensions⟩) ∧
      (family = .ipv4 → ∀ outer : Ipv4Header,
        d.decode (outer.bytes Icmp.protocolV4 ++ e.quoting checksum header protocol front after)
            responder .ipv4Packet =
          .ok (some ⟨responder, e.kind, key, token, some probe, extensions⟩)) := by
  obtain ⟨extensions, parsed⟩ := e.exists_extensions _
  exact ⟨extensions, decode_quoting_extensions e checksum hvalid found parsed hr⟩

/-- An ICMP error that quotes at least eight bytes of a probe is decoded as a reply to this
probe. -/
theorem decode_error_of_encode (hroom : c.payloadSize + 263 + 20 ≤ 65535)
    (hf : flow.toNat < c.flows.toNat) (src : Address) (round : UInt32) (ttl : UInt8) :
    ∃ p fields, (Encoder.ofConfig c (.ofConfig c) src).encode flow round ttl = some p ∧
      (FlowPlan.ofConfig c).get? flow = some fields ∧
      ∀ (e : IcmpError c.target.family) (checksum : UInt16)
        (header : QuotedHeader c.target.family) (front after : Bytes) (responder : Address),
        front <+: p.transport → 8 ≤ front.length →
        (∀ id ∈ p.ipId, header.identification = some id) →
        (c.target.family = .ipv4 →
          Checksum.verify (e.quoting checksum header p.protocol front after) = true) →
        responder.family = c.target.family →
        ∃ r : Response, r.responder = responder ∧ r.kind = e.kind ∧ r.flowKey = fields.key ∧
          r.token = p.token ∧
          r.quoted = some { p.quote header.ttl with src := header.src, dst := header.dst } ∧
          (ofConfig c (FlowPlan.ofConfig c).carrier).decode
            (e.quoting checksum header p.protocol front after) responder .icmpMessage =
              .ok (some r) ∧
          (c.target.family = .ipv4 → ∀ outer : Ipv4Header,
            (ofConfig c (FlowPlan.ofConfig c).carrier).decode
              (outer.bytes Icmp.protocolV4 ++ e.quoting checksum header p.protocol front after)
              responder .ipv4Packet = .ok (some r)) := by
  obtain ⟨p, h⟩ := Encoder.exists_encode c src hf round ttl
  have fits := Encoder.fits_of_payloadSize h (by omega)
  refine ⟨p, _, h, (FlowPlan.get?_ofConfig c flow).trans (if_pos hf), ?_⟩
  intro e checksum header front after responder cut hlong identified hvalid hr
  obtain ⟨extensions, bare, behind⟩ := decode_quoting e checksum hvalid
    (quotedProbe_of_encode h fits rfl identified cut hlong rfl) hr
  rw [FlowPlan.key_fieldsOf, ← (Encoder.isProbe_of_encode h).key_eq]
  exact ⟨_, rfl, rfl, rfl, rfl, rfl, bare, behind⟩

/-- A session that puts the token into the identification. -/
def identifiedConfig : Config :=
  { Config.standard (.ofOctets4 192 0 2 1) .udp 7 with multipath := .dublin }

/-- A header with options, behind a NAT. -/
def translatedHeader : Ipv4Header where
  service := 0
  total := 64
  identification := 0x0500
  fragment := 0x4000
  ttl := 1
  checksum := 0
  src := #v[203, 0, 113, 7]
  dst := #v[192, 0, 2, 1]
  options := [7, 3, 4, 0]
  padded := rfl
  fits := by decide

/-- A router quotes eight bytes of a probe with hop limit 5. -/
theorem decode_error_identifiedConfig :
    ∃ p r message, (Encoder.ofConfig identifiedConfig (.ofConfig identifiedConfig)
        (.ofOctets4 10 0 0 1)).encode 0 0 5 = some p ∧
      (ofConfig identifiedConfig .ipIdentification).decode message (.ofOctets4 10 9 9 1)
        .icmpMessage = .ok (some r) ∧
      r.kind = .timeExceeded 0 ∧ r.flowKey = 50000 ∧ r.token = p.token := by
  obtain ⟨p, fields, h, flow, decodes⟩ :=
    @decode_error_of_encode identifiedConfig 0 (by decide) (by decide) (.ofOctets4 10 0 0 1) 0 5
  have id : some (some 0x0500) = some p.ipId := congrArg (Option.map EncodedProbe.ipId) h
  have hlong : 8 ≤ p.transport.length := by
    rw [Encoder.length_udp h rfl]
    exact Nat.le_add_right ..
  have identified : ∀ i ∈ p.ipId, (QuotedHeader.v4 translatedHeader).identification = some i := by
    rw [← Option.some.inj id]
    exact fun i hi => hi
  have size : ((QuotedHeader.v4 translatedHeader).bytes (p.protocol.number .ipv4) ++
      (p.transport.take 8 ++ [])).length < 131064 := by
    simp [QuotedHeader.bytes, translatedHeader]
    omega
  obtain ⟨r, -, kind, key, token, -, bare, -⟩ :=
    decodes (.timeExceeded 0 0) _ (.v4 translatedHeader) (p.transport.take 8) []
      (.ofOctets4 10 9 9 1) (List.take_prefix 8 _) (by simp; omega) identified
      (fun _ => IcmpError.verify_message _ _ size) rfl
  exact ⟨p, r, _, h, bare, kind, key.trans (by cases flow; rfl), token⟩

end Quote

end Decoder

end FlowTrace
