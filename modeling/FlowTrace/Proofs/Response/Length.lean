import FlowTrace.Proofs.Response.Error
import FlowTrace.Proofs.Transport

/-!
# Lengths on the wire

A length field has 16 bits, and no bound is set on the payload of a probe. What does not fit wraps
around.

- **Fields** (`Bytes.TellsLength`): a word is the number of the bytes that it is among. A length
  that was cut to 16 bits is right if it fits (`tellsLength_iff`).
- **Tokens in lengths** (`udpToken_of_length`): the decoder takes the least length off and finds the
  token, or nothing where the length wrapped.
- **Main result** (`tells_length_iff_fits`): the lengths of UDP datagrams, those of the packets
  around them and the tokens read from them are right for just the probes that fit.
-/

namespace FlowTrace

open Packet

/-- The word at an index is the number of bytes. -/
def Bytes.TellsLength (data : Bytes) (i : Nat) : Prop :=
  ∃ w, data.HasAt i (octets16 w) ∧ w.toNat = data.length

theorem Bytes.tellsLength_iff {data : Bytes} {i : Nat}
    (cut : data.HasAt i (octets16 (UInt16.ofNat data.length))) :
    data.TellsLength i ↔ data.length ≤ 65535 := by
  constructor
  · rintro ⟨w, field, right⟩
    have hsmall := w.toNat_lt
    omega
  · intro fits
    refine ⟨_, cut, ?_⟩
    rw [UInt16.toNat_ofNat']
    omega

/-! ## Headers of the sender -/

namespace Sender

variable {s : Sender} {p : EncodedProbe}

theorem length_ownPacket (hs : p.src.family = .ipv4) (hd : p.dst.family = .ipv4) :
    (ownPacket p).length = p.transport.length + 20 := by
  obtain ⟨src, hs⟩ := Address.exists_v4 hs
  obtain ⟨dst, hd⟩ := Address.exists_v4 hd
  simp [ownPacket, Ipv4.packet, Ipv4.header, hs, hd]
  omega

theorem hasAt_total (p : EncodedProbe) :
    (ownPacket p).HasAt 2 (octets16 (UInt16.ofNat (20 + p.transport.length))) := rfl

/-- With a header in front, a probe is handed over as one packet. -/
theorem records_headerIncluded {socket : Nat} (path : s.path = .headerIncluded socket)
    (hs : p.src.family = .ipv4) (hd : p.dst.family = .ipv4) (h : Host) :
    ∃ failure, ((s.send p).run h).2.records =
      ⟨.sendTo socket p.dst 0 (ownPacket p), failure⟩ :: h.records := by
  have only : s.way? p = some ⟨socket, false, 0, ownPacket p⟩ := by
    rw [way?, path]
    exact if_pos ⟨hs, hd⟩
  have wayIs {w : Way} (way : s.way? p = some w) : ⟨socket, false, 0, ownPacket p⟩ = w :=
    Option.some.inj (only.symm.trans way)
  rcases e : (s.send p).run h with ⟨result, after⟩
  cases sent e with
  | refused f no => cases only.symm.trans no
  | unlimited w f way first | limited w way first =>
    cases wayIs way
    cases first
  | framed w way bare =>
    cases wayIs way
    exact ⟨_, rfl⟩

end Sender

/-! ## Tokens in lengths -/

namespace Decoder

variable {c : Config} {src : Address} {flow : UInt16} {round : UInt32} {ttl : UInt8}
  {p : EncodedProbe}

/-- The token is what a length exceeds the least one by. A length that wrapped is less than that. -/
theorem udpToken_of_length
    (h : (Encoder.ofConfig c (.ofConfig c) src).encode flow round ttl = some p)
    (hc : (FlowPlan.ofConfig c).carrier = .udpPayloadLength)
    (memory : c.payloadSize < 9223372036854775808) (ipId : Option UInt16) (sum : UInt16) :
    (ofConfig c (FlowPlan.ofConfig c).carrier).udpToken ipId (UInt16.ofNat p.transport.length) sum =
      if p.transport.length ≤ 65535 then some p.token else none := by
  have token := p.token.toNat_lt
  have least : Encoder.leastPayload c < 9223372036854775808 := Nat.max_lt.mpr ⟨memory, by decide⟩
  have size := Encoder.length_lengthCarrier h hc
  simp only [udpToken, ofConfig, hc, UInt16.toNat_ofNat', Udp.headerSize] at size ⊢
  split
  · rw [if_pos (by omega)]
    refine congrArg some (UInt16.toNat_inj.mp ?_)
    rw [UInt16.toNat_ofNat']
    omega
  · rw [if_neg (by omega)]

/-- An error that quotes a probe with its token in the length is decoded just if the probe fits, and
then as a reply to it. -/
theorem decode_length (h : (Encoder.ofConfig c (.ofConfig c) src).encode flow round ttl = some p)
    (hc : (FlowPlan.ofConfig c).carrier = .udpPayloadLength)
    (memory : c.payloadSize < 9223372036854775808) (e : IcmpError .ipv6) (checksum : UInt16)
    (header : QuotedHeader .ipv6) {front : Bytes} (cut : front <+: p.transport)
    (hroom : 8 ≤ front.length) (after : Bytes) {responder : Address}
    (hr : responder.family = .ipv6) :
    ∃ extensions probe,
      (ofConfig c (FlowPlan.ofConfig c).carrier).decode (e.quoting checksum header .udp front after)
        responder .icmpMessage =
      .ok (if p.transport.length ≤ 65535 then
        some ⟨responder, e.kind, p.key, p.token, some probe, extensions⟩ else none) := by
  obtain ⟨hp, -⟩ := FlowPlan.of_lengthCarrier hc
  obtain ⟨sum, -, key, dst, length, stored⟩ := Encoder.udp_fields h hp
  have shown {i : Nat} {field : Bytes} (at_ : p.transport.HasAt i field)
      (within : i + field.length ≤ 8) : (front ++ after).HasAt i field :=
    at_.of_prefix cut (Nat.le_trans within hroom) after
  have quote := quotedProbe_udpToken (d := ofConfig c (FlowPlan.ofConfig c).carrier) hp
    (q := header.packet (Protocol.number .udp .ipv6) (front ++ after)) rfl
    (by simpa [QuotedHeader.packet] using Nat.le_trans hroom (Nat.le_add_right _ _))
    (shown key (by simp)) (shown dst (by simp)) (shown length (by simp)) (shown stored (by simp))
  rw [udpToken_of_length h hc memory] at quote
  have stops : QuotedPacket.isWalkable (Protocol.number .udp .ipv6) = false := rfl
  obtain ⟨extensions, parsed⟩ := e.exists_extensions
    (header.bytes (Protocol.number .udp .ipv6) ++ (front ++ after))
  have read := icmpV6_error e checksum (header.readV6_bytes stops _) quote parsed responder
  cases responder with
  | v4 o => cases hr
  | v6 o =>
    refine ⟨extensions, ⟨header.src, header.dst, header.ttl, some p.key, some p.dstPort, none,
      some sum⟩, read.trans ?_⟩
    split <;> rfl

end Decoder

/-! ## All lengths -/

namespace Encoder

variable {c : Config}

/-- The length fields of a probe are right if it fits in 16 bits, behind an IPv4 header together
with that, and wrong if it does not; and so is a token that is read from a length. -/
theorem tells_length_iff_fits (memory : c.payloadSize < 9223372036854775808) {src : Address}
    (hs : src.family = c.target.family) {flow : UInt16} (hf : flow.toNat < c.flows.toNat)
    (round : UInt32) (ttl : UInt8) :
    ∃ p, (ofConfig c (.ofConfig c) src).encode flow round ttl = some p ∧
      (c.protocol = .udp → (p.transport.TellsLength 4 ↔ p.Fits)) ∧
      (c.target.family = .ipv4 → ∀ (s : Sender) (socket : Nat) (h : Host),
        s.path = .headerIncluded socket →
        ∃ packet failure, ((s.send p).run h).2.records =
            ⟨.sendTo socket p.dst 0 packet, failure⟩ :: h.records ∧
          (packet.TellsLength 2 ↔ p.transport.length + 20 ≤ 65535)) ∧
      ((FlowPlan.ofConfig c).carrier = .udpPayloadLength → ∀ (e : IcmpError .ipv6)
        (checksum : UInt16) (header : QuotedHeader .ipv6) (front after : Bytes)
        (responder : Address), front <+: p.transport → 8 ≤ front.length →
        responder.family = .ipv6 →
        ((∃ r, (Decoder.ofConfig c (FlowPlan.ofConfig c).carrier).decode
            (e.quoting checksum header .udp front after) responder .icmpMessage = .ok (some r) ∧
          r.token = p.token) ↔ p.Fits)) := by
  obtain ⟨p, h⟩ := exists_encode c src hf round ttl
  have probe := isProbe_of_encode h
  refine ⟨p, h, fun hp => ?_, fun family s socket host path => ?_,
    fun hc e checksum header front after responder cut hroom hr => ?_⟩
  · obtain ⟨-, -, -, -, length, -⟩ := udp_fields h hp
    exact Bytes.tellsLength_iff length
  · have hsrc : p.src.family = .ipv4 := probe.src_eq ▸ hs.trans family
    have hdst : p.dst.family = .ipv4 := probe.dst_eq ▸ family
    obtain ⟨failure, log⟩ := Sender.records_headerIncluded path hsrc hdst host
    refine ⟨_, failure, log, ?_⟩
    have size := Sender.length_ownPacket hsrc hdst
    rw [← size]
    refine Bytes.tellsLength_iff ?_
    rw [size, Nat.add_comm]
    exact Sender.hasAt_total p
  · obtain ⟨extensions, quoted, decoded⟩ :=
      Decoder.decode_length h hc memory e checksum header cut hroom after hr
    rw [decoded]
    constructor
    -- The length of a datagram that does not fit wraps around to less than that of the shortest
    -- probe, and no token is read.
    · rintro ⟨r, found, -⟩
      by_contra hlong
      rw [if_neg (show ¬ p.transport.length ≤ 65535 from hlong)] at found
      cases found
    · intro fits
      rw [if_pos (show p.transport.length ≤ 65535 from fits)]
      exact ⟨_, rfl, rfl⟩

/-- UDP probes over IPv6 with the token in the length and so many payload bytes at the least. -/
def lengthConfig (payloadSize : Nat) : Config :=
  { Config.standard (.ofGroups #v[0x2001, 0xdb8, 0, 0, 0, 0, 0, 2]) .udp 7 with
    multipath := .dublin
    maxTtl := 64
    payloadSize := payloadSize }

/-- The local address of the sessions. -/
def lengthSource : Address := .ofGroups #v[0x2001, 0xdb8, 0, 0, 0, 0, 0, 0x100]

/-- With some payload, the length of a probe and the token in it are right. -/
theorem tells_length_lengthConfig :
    ∃ p, (ofConfig (lengthConfig 32) (.ofConfig (lengthConfig 32)) lengthSource).encode 0 3 64 =
        some p ∧ p.transport.TellsLength 4 ∧
      ∃ message r, (Decoder.ofConfig (lengthConfig 32) .udpPayloadLength).decode message
        lengthSource .icmpMessage = .ok (some r) ∧ r.token = p.token := by
  obtain ⟨p, h, udp, -, tokens⟩ :=
    @tells_length_iff_fits (lengthConfig 32) (by decide) lengthSource rfl 0 (by decide) 3 64
  have fits : p.Fits := fits_of_payloadSize h (by decide)
  have hlong : 8 ≤ p.transport.length := by
    rw [length_udp h rfl]
    exact Nat.le_add_right ..
  obtain ⟨r, decoded, token⟩ := (tokens rfl (.timeExceeded 0 0) 0
    (.v6 ⟨0, 0, 1, Vector.replicate 16 0, Vector.replicate 16 0⟩ []) (p.transport.take 8) []
    lengthSource (List.take_prefix 8 _) (by simp; omega) rfl).mpr fits
  exact ⟨p, h, (udp rfl).mpr fits, _, r, decoded, token⟩

/-- With a payload that the check of the configuration accepts as well, the length of 65663 bytes
wraps around to 127, and the token is lost. -/
theorem not_tells_length_lengthConfig :
    (lengthConfig 65400).check = .ok () ∧
    ∃ p, (ofConfig (lengthConfig 65400) (.ofConfig (lengthConfig 65400)) lengthSource).encode
        0 3 64 = some p ∧ p.transport.length = 65663 ∧ p.transport.HasAt 4 (octets16 127) ∧
      ¬ p.transport.TellsLength 4 ∧
      (Decoder.ofConfig (lengthConfig 65400) .udpPayloadLength).decode
        ((IcmpError.timeExceeded 0 0).quoting 0
          (.v6 ⟨0, 0, 1, Vector.replicate 16 0, Vector.replicate 16 0⟩ []) .udp
          (p.transport.take 8) []) lengthSource .icmpMessage = .ok none := by
  have first : (0 : UInt16).toNat < (lengthConfig 65400).flows.toNat := by decide
  obtain ⟨p, h⟩ := exists_encode (lengthConfig 65400) lengthSource first 3 64
  have token : p.token.toNat = 255 := by
    rw [(isProbe_of_encode h).token_eq, FlowPlan.toNat_lengthToken rfl]
    rfl
  have size : p.transport.length = 65663 := by
    rw [length_lengthCarrier h rfl, token]
    rfl
  obtain ⟨-, -, -, -, length, -⟩ := udp_fields h rfl
  have family : lengthSource.family = .ipv6 := rfl
  obtain ⟨extensions, quoted, decoded⟩ := Decoder.decode_length h rfl (by decide)
    (.timeExceeded 0 0) 0 (.v6 ⟨0, 0, 1, Vector.replicate 16 0, Vector.replicate 16 0⟩ [])
    (List.take_prefix 8 p.transport) (by simp [size]) [] family
  rw [if_neg (by omega)] at decoded
  refine ⟨rfl, p, h, size, ?_, ?_, decoded⟩
  · rw [size] at length
    exact length
  · rw [Bytes.tellsLength_iff length]
    omega

end Encoder

end FlowTrace
