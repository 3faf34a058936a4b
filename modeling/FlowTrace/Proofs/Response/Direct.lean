import FlowTrace.Proofs.Packet.Header
import FlowTrace.Proofs.Probe

/-!
# Direct replies

- **Echo replies** (`Icmp.replyTo`): the request with another type and identifier, and over IPv4
  with a new checksum. The payload keeps the identifier of the flow (`decode_replyTo`).
- **TCP replies** (`Tcp.RepliesTo`): a segment to the source number of a probe that acknowledges its
  sequence number (`tcpReply_of_repliesTo`).
- **Main result** (`decode_direct_of_encode`): both are decoded as replies to the probe.
-/

namespace FlowTrace

open Packet

/-! ## Echo replies -/

namespace Packet.Icmp

/-- The type of an echo reply. -/
def replyType : Family → UInt8
  | .ipv4 => echoReplyV4
  | .ipv6 => echoReplyV6

/-- The reply to an echo request, whose identifier may be changed on the way. Over IPv4 the checksum
is computed anew. -/
def replyTo (family : Family) (request : Bytes) (identifier : UInt16) : Bytes :=
  let named := (request.overwrite 0 [replyType family]).overwrite 4 (octets16 identifier)
  match family with
  | .ipv4 => named.overwrite 2 (octets16 (recompute .icmp [] named))
  | .ipv6 => named

variable {request : Bytes} {type : UInt8} {outer identifier sequence : UInt16} {filling : Bytes}
  {sum spare : UInt16}

/-- The payload of a reply is that of the request. -/
theorem replyTo_layout
    (shape : request = layout type outer identifier sequence filling sum spare) (family : Family)
    (renamed : UInt16) : ∃ new, replyTo family request renamed =
      layout (replyType family) renamed identifier sequence filling new spare := by
  rw [shape]
  cases family <;> exact ⟨_, rfl⟩

/-- Over IPv4 the reply passes the test of a receiver. -/
theorem verify_replyTo
    (shape : request = layout type outer identifier sequence filling sum spare)
    (hshort : request.length < 131072) (renamed : UInt16) :
    Checksum.verify (replyTo .ipv4 request renamed) = true := by
  let payload := octets16 renamed ++ octets16 sequence ++ octets16 identifier ++ octets16 sequence
    ++ octets16 spare ++ filling
  have size : ([echoReplyV4, 0] ++ octets16 0 ++ payload).length < 131072 := by
    rw [shape, length_layout] at hshort
    show (layout echoReplyV4 renamed identifier sequence filling 0 spare).length < 131072
    rw [length_layout]
    exact hshort
  have blank : (layout echoReplyV4 renamed identifier sequence filling sum spare).overwrite 2
      (octets16 0) = [echoReplyV4, 0] ++ octets16 0 ++ payload := rfl
  have reply : replyTo .ipv4 request renamed =
      [echoReplyV4, 0] ++ octets16 (recompute .icmp [] (layout echoReplyV4 renamed identifier
        sequence filling sum spare)) ++ payload := by
    rw [shape]
    rfl
  rw [reply, recompute, Protocol.checksumAt, blank]
  exact (sealed_natural [echoReplyV4, 0] payload rfl rfl size rfl : Sealed .icmp [] _).verifies

end Packet.Icmp

namespace Decoder

section Echo

variable {d : Decoder} {request message : Bytes} {type : UInt8} {outer identifier sequence : UInt16}
  {filling : Bytes} {sum spare : UInt16}

/-- An echo reply is read as the identifier in its payload and its sequence number. -/
theorem echoReply_layout (hp : d.protocol = .icmp)
    (shape : message = Icmp.layout type outer identifier sequence filling sum spare)
    (responder : Address) : d.echoReply message responder =
      .ok (some ⟨responder, .echoReply, identifier, sequence, none, none⟩) := by
  have first : message.word16At 4 = .ok outer := by
    rw [shape]
    exact congrArg Except.ok (word16_octets _)
  have numbered : message.word16At 6 = .ok sequence := by
    rw [shape]
    exact congrArg Except.ok (word16_octets _)
  have named : message.word16At 8 = .ok identifier := by
    rw [shape]
    exact congrArg Except.ok (word16_octets _)
  have again : message.word16At 10 = .ok sequence := by
    rw [shape]
    exact congrArg Except.ok (word16_octets _)
  have hroom : Icmp.headerSize + 4 ≤ message.length := by
    rw [shape, Icmp.length_layout, Icmp.headerSize]
    omega
  simp only [echoReply, hp, hroom, first, numbered, again, named, ne_eq, not_true_eq_false,
    if_false, if_true, bind, Except.bind, pure, Except.pure, beq_self_eq_true]

/-- Over IPv4 an echo reply is read just if it passes the test of a receiver. -/
theorem icmpV4_layout (hp : d.protocol = .icmp)
    (shape : message = Icmp.layout Icmp.echoReplyV4 outer identifier sequence filling sum spare)
    (responder : Address) : d.icmpV4 message responder =
      .ok (if Checksum.verify message then
        some ⟨responder, .echoReply, identifier, sequence, none, none⟩ else none) := by
  have read := echoReply_layout hp shape responder
  have type : message.byteAt 0 = .ok Icmp.echoReplyV4 := by
    rw [shape]
    rfl
  have code : message.byteAt 1 = .ok 0 := by
    rw [shape]
    rfl
  have hlong : ¬ message.length < Icmp.headerSize := by
    rw [shape, Icmp.length_layout, Icmp.headerSize]
    omega
  cases valid : Checksum.verify message with
  | true =>
    simp only [icmpV4, hlong, valid, type, code, read, not_true_eq_false, or_false, if_false,
      if_true, bind, Except.bind]
  | false =>
    simp only [icmpV4, valid, Bool.false_eq_true, not_false_eq_true, or_true, if_true, if_false,
      pure, Except.pure]

/-- An echo reply of either family is decoded, with or without an IPv4 header in front. -/
theorem decode_replyTo (hp : d.protocol = .icmp)
    (shape : request = Icmp.layout type outer identifier sequence filling sum spare)
    (hshort : request.length < 131072) (renamed : UInt16) {family : Family} {responder : Address}
    (hr : responder.family = family) :
    d.decode (Icmp.replyTo family request renamed) responder .icmpMessage =
        .ok (some ⟨responder, .echoReply, identifier, sequence, none, none⟩) ∧
      (family = .ipv4 → ∀ header : Ipv4Header,
        d.decode (header.bytes Icmp.protocolV4 ++ Icmp.replyTo family request renamed) responder
            .ipv4Packet =
          .ok (some ⟨responder, .echoReply, identifier, sequence, none, none⟩)) := by
  obtain ⟨new, reply⟩ := Icmp.replyTo_layout shape family renamed
  -- The checksum is checked for IPv4 only.
  cases family with
  | ipv4 =>
    have bare : d.icmpV4 (Icmp.replyTo .ipv4 request renamed) responder =
        .ok (some ⟨responder, .echoReply, identifier, sequence, none, none⟩) := by
      rw [icmpV4_layout hp reply, if_pos (Icmp.verify_replyTo shape hshort renamed)]
    cases responder with
    | v4 o =>
      refine ⟨bare, fun _ header => ?_⟩
      rw [header.decode_bytes, if_pos rfl]
      exact bare
    | v6 o => cases hr
  | ipv6 =>
    have read := echoReply_layout hp reply responder
    have type : (Icmp.replyTo .ipv6 request renamed).byteAt 0 = .ok Icmp.echoReplyV6 := by
      rw [reply]
      rfl
    have code : (Icmp.replyTo .ipv6 request renamed).byteAt 1 = .ok 0 := by
      rw [reply]
      rfl
    have hlong : ¬ (Icmp.replyTo .ipv6 request renamed).length < Icmp.headerSize := by
      rw [reply, Icmp.length_layout, Icmp.headerSize]
      omega
    have bare : d.icmpV6 (Icmp.replyTo .ipv6 request renamed) responder =
        .ok (some ⟨responder, .echoReply, identifier, sequence, none, none⟩) := by
      simp only [icmpV6, hlong, type, code, if_false, bind, Except.bind, if_true, read]
    cases responder with
    | v4 o => cases hr
    | v6 o => exact ⟨bare, fun hf => by cases hf⟩

end Echo

end Decoder

/-! ## TCP replies -/

/-- A segment with some flags that answers a SYN segment of ours. -/
structure Packet.Tcp.RepliesTo (probe : Bytes) (port : UInt16) (flags : UInt8) (segment : Bytes) :
    Prop where
  whole : headerSize ≤ segment.length
  /-- Our source number is the destination of the reply. -/
  returned : probe.HasAt 0 (octets16 port) ∧ segment.HasAt 2 (octets16 port)
  acknowledges : ∃ sequence, probe.HasAt 4 (octets32 sequence) ∧
    segment.HasAt 8 (octets32 (sequence + 1))
  flagged : segment.HasAt 13 [flags]
  /-- The connection is refused or accepted. -/
  answers : flags &&& flagRst ≠ 0 ∨ flags &&& (flagSyn ||| flagAck) = flagSyn ||| flagAck

/-- What a TCP reply with some flags means. A reset refuses, whatever else it says. -/
def Packet.Tcp.kindOf (flags : UInt8) : ResponseKind :=
  if flags &&& flagRst ≠ 0 then .tcpRefused else .tcpReply

namespace Decoder

variable {c : Config} {src : Address} {flow : UInt16} {round : UInt32} {ttl : UInt8}
  {p : EncodedProbe}

/-- A TCP reply is read as the source number and the token of the probe. -/
theorem tcpReply_of_repliesTo
    (h : (Encoder.ofConfig c (.ofConfig c) src).encode flow round ttl = some p)
    (hp : c.protocol = .tcp) {port : UInt16} {flags : UInt8} {segment : Bytes}
    (hr : Tcp.RepliesTo p.transport port flags segment) (responder : Address) :
    (ofConfig c (FlowPlan.ofConfig c).carrier).tcpReply segment responder =
      .ok (some ⟨responder, Tcp.kindOf flags, port, p.token, none, none⟩) := by
  obtain ⟨sequence, sent, acknowledged⟩ := hr.acknowledges
  obtain rfl : sequence = Tcp.sequenceOfToken p.token :=
    Except.ok.inj (sent.word32At.symm.trans (Encoder.tcp_fields h hp).2.2.word32At)
  have token : Tcp.tokenOfSequence (Tcp.sequenceOfToken p.token + 1 - 1) = p.token := by
    rw [UInt32.add_sub_cancel, Tcp.tokenOfSequence_sequenceOfToken]
  have whole : ¬ ((ofConfig c (FlowPlan.ofConfig c).carrier).protocol ≠ .tcp ∨
      segment.length < Tcp.headerSize) := by
    rintro (other | hshort)
    · exact other hp
    · exact Nat.not_lt.mpr hr.whole hshort
  simp only [tcpReply, whole, hr.returned.2.word16At, acknowledged.word32At, hr.flagged.byteAt,
    token, if_false, bind, Except.bind, Tcp.kindOf]
  by_cases reset : flags &&& Tcp.flagRst ≠ 0
  · rw [if_pos reset, if_pos reset]
    rfl
  · rw [if_neg reset, if_neg reset, if_pos (hr.answers.resolve_left reset)]
    rfl

/-- Echo replies and TCP replies are decoded as replies to their probe. -/
theorem decode_direct_of_encode (hf : flow.toNat < c.flows.toNat) (src : Address) (round : UInt32)
    (ttl : UInt8) :
    ∃ p fields, (Encoder.ofConfig c (.ofConfig c) src).encode flow round ttl = some p ∧
      (FlowPlan.ofConfig c).get? flow = some fields ∧
      (c.protocol = .icmp → p.Fits → ∃ identifier, fields.identifier = some identifier ∧
        ∀ (renamed : UInt16) (responder : Address), responder.family = c.target.family →
          (ofConfig c (FlowPlan.ofConfig c).carrier).decode
            (Icmp.replyTo c.target.family p.transport renamed) responder .icmpMessage =
              .ok (some ⟨responder, .echoReply, identifier, p.token, none, none⟩) ∧
          (c.target.family = .ipv4 → ∀ header : Ipv4Header,
            (ofConfig c (FlowPlan.ofConfig c).carrier).decode
              (header.bytes Icmp.protocolV4 ++ Icmp.replyTo c.target.family p.transport renamed)
              responder .ipv4Packet =
                .ok (some ⟨responder, .echoReply, identifier, p.token, none, none⟩))) ∧
      (c.protocol = .tcp → ∀ (port : UInt16) (flags : UInt8) (segment : Bytes)
        (responder : Address), Tcp.RepliesTo p.transport port flags segment →
          (ofConfig c (FlowPlan.ofConfig c).carrier).decode segment responder .tcpSegment =
            .ok (some ⟨responder, Tcp.kindOf flags, port, p.token, none, none⟩) ∧
          ∀ header : Ipv4Header,
            (ofConfig c (FlowPlan.ofConfig c).carrier).decode
              (header.bytes Tcp.protocol ++ segment) responder .ipv4Packet =
                .ok (some ⟨responder, Tcp.kindOf flags, port, p.token, none, none⟩)) := by
  obtain ⟨p, h⟩ := Encoder.exists_encode c src hf round ttl
  have probe := Encoder.isProbe_of_encode h
  refine ⟨p, _, h, (FlowPlan.get?_ofConfig c flow).trans (if_pos hf), fun hp fits => ?_,
    fun hp port flags segment responder replies => ?_⟩
  · obtain ⟨sum, spare, shape⟩ := Encoder.icmp_layout h hp
    have hshort : p.transport.length < 131072 := Nat.lt_of_le_of_lt fits (by decide)
    have named : (FlowPlan.fieldsOf c (FlowPlan.ofConfig c).carrier flow).identifier =
        some p.key := by
      simp [FlowPlan.fieldsOf, hp, probe.key_eq, Config.keyBase]
    exact ⟨p.key, named, fun renamed responder hr => decode_replyTo hp shape hshort renamed hr⟩
  · have read := tcpReply_of_repliesTo h hp replies responder
    refine ⟨read, fun header => ?_⟩
    rw [header.decode_bytes, if_neg (by decide), if_pos rfl]
    exact read

/-- A segment that refuses a connection. -/
def resetSegment (src dst : UInt16) (acknowledged : UInt32) : Bytes :=
  octets16 src ++ octets16 dst ++ octets32 0 ++ octets32 acknowledged ++
    [0x50, Tcp.flagRst ||| Tcp.flagAck] ++ octets16 0 ++ octets16 0 ++ octets16 0

/-- A session of echo requests. -/
def pingConfig : Config := Config.standard (.ofOctets4 192 0 2 1) .icmp 0x3000

/-- A session of SYN segments. -/
def synConfig : Config := Config.standard (.ofOctets4 192 0 2 1) .tcp 0x3000

/-- The target answers an echo request under another identifier, and refuses a connection. -/
theorem decode_direct_pingConfig :
    (∃ p, (Encoder.ofConfig pingConfig (.ofConfig pingConfig) (.ofOctets4 10 0 0 1)).encode
        0 0 5 = some p ∧
      (ofConfig pingConfig .icmpSequence).decode (Icmp.replyTo .ipv4 p.transport 0xBEEF)
          (.ofOctets4 192 0 2 1) .icmpMessage =
        .ok (some ⟨.ofOctets4 192 0 2 1, .echoReply, 0x3000, p.token, none, none⟩)) ∧
    ∃ p, (Encoder.ofConfig synConfig (.ofConfig synConfig) (.ofOctets4 10 0 0 1)).encode
        0 0 5 = some p ∧
      (ofConfig synConfig .tcpSequence).decode
          (resetSegment 80 50000 (Tcp.sequenceOfToken p.token + 1))
          (.ofOctets4 192 0 2 1) .tcpSegment =
        .ok (some ⟨.ofOctets4 192 0 2 1, .tcpRefused, 50000, p.token, none, none⟩) := by
  constructor
  · obtain ⟨p, fields, h, flow, echo, -⟩ :=
      @decode_direct_of_encode pingConfig 0 (by decide) (.ofOctets4 10 0 0 1) 0 5
    obtain ⟨identifier, named, decodes⟩ := echo rfl (Encoder.fits_of_payloadSize h (by decide))
    obtain rfl : 0x3000 = identifier := by
      cases flow
      exact Option.some.inj named
    exact ⟨p, h, (decodes 0xBEEF _ rfl).1⟩
  · obtain ⟨p, fields, h, -, -, syn⟩ :=
      @decode_direct_of_encode synConfig 0 (by decide) (.ofOctets4 10 0 0 1) 0 5
    obtain ⟨port, -, sequence⟩ := Encoder.tcp_fields h rfl
    have key : p.key = 50000 := (Encoder.isProbe_of_encode h).key_eq
    rw [key] at port
    have replies : Tcp.RepliesTo p.transport 50000 (Tcp.flagRst ||| Tcp.flagAck)
        (resetSegment 80 50000 (Tcp.sequenceOfToken p.token + 1)) :=
      ⟨Nat.le_refl 20, ⟨port, rfl⟩, ⟨_, sequence, rfl⟩, rfl, by decide⟩
    exact ⟨p, h, (syn rfl _ _ _ _ replies).1⟩

end Decoder

end FlowTrace
