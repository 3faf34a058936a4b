import FlowTrace.Proofs.Packet.Extension

/-!
# Decoding any bytes

A listener decodes whatever its socket receives. Here nothing is assumed of the bytes.

- **One lemma for each function** (`finds_readV4`, `finds_quotedProbe`, `finds_icmpV4` and so on):
  it ends without a fault, and what it finds has the shape that its caller relies on.
- **Shape** (`Response.WellFormed`): which fields of a response are set, and where its key and token
  come from. `Framing.content?` says which message or segment a packet holds, and `Content.Allows`
  what that means for the response.
- **Main results**: decoding ends without a fault (`Decoder.decode_total`), and a decoded response
  is well formed (`Decoder.decode_wellFormed`).
-/

namespace FlowTrace

open Packet

/-! ## Quoted packets -/

theorem Packet.Ipv4.headerLength_bounds {data : Bytes} {n : Nat} (h : headerLength data = some n) :
    headerSize ≤ n ∧ n ≤ data.length := by
  cases data with
  | nil => cases h
  | cons first rest =>
    simp only [headerLength, Option.ite_none_left_eq_some, Option.ite_none_right_eq_some,
      Option.some.injEq] at h
    obtain ⟨-, within, rfl⟩ := h
    exact within

namespace QuotedPacket

/-- Both addresses are of one family. -/
def OneFamily (q : QuotedPacket) : Prop := q.src.family = q.dst.family

theorem finds_readV4 (data : Bytes) : Finds (readV4 data) OneFamily := by
  unfold readV4
  cases header : Ipv4.headerLength data with
  | none => exact .nothing
  | some length =>
    obtain ⟨least, within⟩ := Ipv4.headerLength_bounds header
    rw [Ipv4.headerSize] at least
    refine .read (Address.returns_readV4 (by omega)) fun src hsrc => ?_
    refine .read (Address.returns_readV4 (by omega)) fun dst hdst => ?_
    refine .read (Bytes.returns_byteAt (by omega)) fun ttl _ => ?_
    refine .read (Bytes.returns_word16At (by omega)) fun ipId _ => ?_
    refine .read (Bytes.returns_byteAt (by omega)) fun protocol _ => ?_
    refine .read (Bytes.returns_suffix within) fun transport _ => ?_
    exact .one (hsrc.trans hdst.symm)

theorem finds_walkHeaders (data : Bytes) (next : UInt8) (offset : Nat) :
    Finds (walkHeaders data next offset) fun _ => True := by
  obtain ⟨-, last, -, -, walk⟩ := walkHeaders_ends data next offset
  exact ⟨_, walk, fun _ _ => trivial⟩

theorem finds_readV6 (data : Bytes) : Finds (readV6 data) OneFamily := by
  unfold readV6
  refine .ite (fun _ => .nothing) fun header => ?_
  rw [headerSizeV6] at header
  refine .read (Bytes.returns_byteAt (by omega)) fun first _ => ?_
  refine .ite (fun _ => .nothing) fun _ => ?_
  refine .read (Address.returns_readV6 (by omega)) fun src hsrc => ?_
  refine .read (Address.returns_readV6 (by omega)) fun dst hdst => ?_
  refine .read (Bytes.returns_byteAt (by omega)) fun next _ => ?_
  refine .bind (finds_walkHeaders data next headerSizeV6) .nothing fun behind _ => ?_
  refine .ite (fun _ => .nothing) fun within => ?_
  refine .read (Bytes.returns_byteAt (by omega)) fun ttl _ => ?_
  refine .read (Bytes.returns_suffix (Nat.le_of_not_lt within)) fun transport _ => ?_
  exact .one (hsrc.trans hdst.symm)

end QuotedPacket

/-! ## Shape -/

/-- The fields of a quoted probe that a decoder sets, and the key and token that it takes from
them. -/
structure QuotedProbe.Shows (d : Decoder) (key token : UInt16) (q : QuotedProbe) : Prop where
  identifier : q.identifier.isSome ↔ d.protocol = .icmp
  srcPort : q.srcPort.isSome ↔ d.protocol = .udp ∨ d.protocol = .tcp
  dstPort : q.dstPort.isSome ↔ d.protocol = .udp ∨ d.protocol = .tcp
  udpChecksum : q.udpChecksum.isSome ↔ d.protocol = .udp
  family : q.src.family = q.dst.family
  key : q.identifier.or q.srcPort = some key
  token : d.carrier = .udpChecksum → ∀ sum ∈ q.udpChecksum, token = sum

/-- What every response of a decoder is like. -/
structure Response.WellFormed (d : Decoder) (origin : Address) (r : Response) : Prop where
  responder : r.responder = origin
  quoted : r.kind.isError ↔ r.quoted.isSome
  extensions : r.extensions.isSome → r.kind.isError
  echoReply : r.kind = .echoReply → d.protocol = .icmp
  tcpReply : r.kind = .tcpReply → d.protocol = .tcp
  tcpRefused : r.kind = .tcpRefused → d.protocol = .tcp
  shows : ∀ q ∈ r.quoted, q.Shows d r.flowKey r.token

/-- A message or segment without its IP header. -/
inductive Content where
  | icmpV4 (message : Bytes)
  | icmpV6 (message : Bytes)
  | tcp (segment : Bytes)

/-- What a received packet holds. -/
def Framing.content? (framing : Framing) (data : Bytes) (responder : Address) : Option Content :=
  match framing with
  | .ipv4Packet =>
    match Ipv4.headerLength data with
    | some length =>
      if data[9]? = some Icmp.protocolV4 then some (.icmpV4 (data.drop length))
      else if data[9]? = some Tcp.protocol then some (.tcp (data.drop length))
      else none
    | none => none
  | .icmpMessage =>
    match responder with
    | .v4 _ => some (.icmpV4 data)
    | .v6 _ => some (.icmpV6 data)
  | .tcpSegment => some (.tcp data)

/-- An ICMPv4 message has a valid checksum. An ICMPv6 message that tells a packet size has no
extensions. -/
def Content.Allows : Content → Response → Prop
  | .icmpV4 message, _ => Checksum.verify message = true
  | .icmpV6 _, r => ∀ mtu, r.kind = .packetTooBig mtu → r.extensions = none
  | .tcp _, _ => True

/-! ## One lemma for each function -/

namespace Decoder

variable (d : Decoder) {message : Bytes} (responder : Address)

theorem udpToken_of_checksum {d : Decoder} {ipId : Option UInt16} {length sum token : UInt16}
    (h : d.udpToken ipId length sum = some token) (hc : d.carrier = .udpChecksum) :
    token = sum := by
  rw [udpToken, hc] at h
  exact (Option.some.inj h).symm

theorem finds_quotedProbe {q : QuotedPacket} (family : q.OneFamily) :
    Finds (d.quotedProbe q) fun (key, token, probe) => probe.Shows d key token := by
  unfold quotedProbe
  refine .ite (fun _ => .nothing) fun hlong => ?_
  cases hp : d.protocol with
  | icmp =>
    refine .ite (fun _ => .nothing) fun _ => ?_
    refine .read (Bytes.returns_byteAt (by omega)) fun kind _ => ?_
    refine .ite (fun _ => .nothing) fun _ => ?_
    refine .read (Bytes.returns_word16At (by omega)) fun identifier _ => ?_
    refine .read (Bytes.returns_word16At (by omega)) fun sequence _ => ?_
    exact .one ⟨by simp [hp], by simp [hp], by simp [hp], by simp [hp], family, rfl, by simp⟩
  | udp =>
    refine .ite (fun _ => .nothing) fun _ => ?_
    refine .read (Bytes.returns_word16At (by omega)) fun src _ => ?_
    refine .read (Bytes.returns_word16At (by omega)) fun dst _ => ?_
    refine .read (Bytes.returns_word16At (by omega)) fun length _ => ?_
    refine .read (Bytes.returns_word16At (by omega)) fun sum _ => ?_
    cases told : d.udpToken q.ipId length sum with
    | none => exact .nothing
    | some token =>
      refine .one ⟨by simp [hp], by simp [hp], by simp [hp], by simp [hp], family, rfl, ?_⟩
      rintro hc _ ⟨⟩
      exact udpToken_of_checksum told hc
  | tcp =>
    refine .ite (fun _ => .nothing) fun _ => ?_
    refine .read (Bytes.returns_word16At (by omega)) fun src _ => ?_
    refine .read (Bytes.returns_word16At (by omega)) fun dst _ => ?_
    refine .read (Bytes.returns_word32At (by omega)) fun sequence _ => ?_
    exact .one ⟨by simp [hp], by simp [hp], by simp [hp], by simp [hp], family, rfl, by simp⟩

theorem finds_icmpError {kind : ResponseKind} (error : kind.isError = true) {packet : QuotedPacket}
    (family : packet.OneFamily) (extensions : Option Extensions) :
    Finds (d.icmpError kind (some packet) extensions responder) fun r =>
      r.WellFormed d responder ∧ r.kind = kind ∧ r.extensions = extensions := by
  unfold icmpError
  refine .bind (d.finds_quotedProbe family) .nothing fun ⟨key, token, probe⟩ shows => ?_
  refine .one ⟨⟨rfl, by simp [error], fun _ => error, ?_, ?_, ?_, ?_⟩, rfl, rfl⟩
  · rintro rfl
    cases error
  · rintro rfl
    cases error
  · rintro rfl
    cases error
  · rintro _ ⟨⟩
    exact shows

/-- A reply that is not an error quotes nothing and has no extensions. -/
theorem wellFormed_direct {kind : ResponseKind} {key token : UInt16} (direct : kind.isError = false)
    (icmp : kind = .echoReply → d.protocol = .icmp) (tcp : kind ≠ .echoReply → d.protocol = .tcp) :
    Response.WellFormed d responder ⟨responder, kind, key, token, none, none⟩ where
  responder := rfl
  quoted := by simp [direct]
  extensions := by simp
  echoReply := icmp
  tcpReply h := tcp (by simp [show kind = .tcpReply from h])
  tcpRefused h := tcp (by simp [show kind = .tcpRefused from h])
  shows := by simp

theorem finds_echoReply (hlong : 8 ≤ message.length) :
    Finds (d.echoReply message responder) fun r =>
      r.WellFormed d responder ∧ r.kind = .echoReply := by
  unfold echoReply
  refine .ite (fun _ => .nothing) fun hp => ?_
  refine .read (Bytes.returns_word16At (by omega)) fun outer _ => ?_
  refine .read (Bytes.returns_word16At (by omega)) fun sequence _ => ?_
  have answer (identifier : UInt16) :
      Response.WellFormed d responder ⟨responder, .echoReply, identifier, sequence, none, none⟩ :=
    d.wellFormed_direct responder rfl (fun _ => Decidable.not_not.mp hp) (absurd rfl)
  -- the identifier comes from the header or from the payload; the reply is the same
  extract_lets reply choose
  have replies (repeated : Bool) (longer : repeated → 12 ≤ message.length) :
      Finds (choose repeated) fun r => r.WellFormed d responder ∧ r.kind = .echoReply := by
    refine .ite (fun h => ?_) fun _ => .one ⟨answer _, rfl⟩
    have := longer h
    exact .read (Bytes.returns_word16At (by omega)) fun identifier _ => .one ⟨answer _, rfl⟩
  refine .ite (fun longer => ?_) fun _ => replies false (by simp)
  rw [Icmp.headerSize] at longer
  exact .read (Bytes.returns_word16At (by omega)) fun copy _ => replies _ fun _ => longer

theorem finds_tcpReply :
    Finds (d.tcpReply message responder) fun r => r.WellFormed d responder := by
  unfold tcpReply
  refine .ite (fun _ => .nothing) fun accepted => ?_
  rw [Tcp.headerSize] at accepted
  refine .read (Bytes.returns_word16At (by omega)) fun key _ => ?_
  refine .read (Bytes.returns_word32At (by omega)) fun acknowledged _ => ?_
  refine .read (Bytes.returns_byteAt (by omega)) fun flags _ => ?_
  have tcp : d.protocol = .tcp := Decidable.not_not.mp (not_or.mp accepted).1
  refine .ite (fun _ => .one ?_) fun _ => .ite (fun _ => .one ?_) fun _ => .nothing
  · exact d.wellFormed_direct responder rfl (by simp) fun _ => tcp
  · exact d.wellFormed_direct responder rfl (by simp) fun _ => tcp

theorem finds_icmpV4 :
    Finds (d.icmpV4 message responder) fun r =>
      r.WellFormed d responder ∧ (Content.icmpV4 message).Allows r := by
  unfold icmpV4
  refine .ite (fun _ => .nothing) fun accepted => ?_
  rw [Icmp.headerSize] at accepted
  have hvalid : Checksum.verify message = true := Decidable.not_not.mp (not_or.mp accepted).2
  refine .read (Bytes.returns_byteAt (by omega)) fun type _ => ?_
  refine .read (Bytes.returns_byteAt (by omega)) fun code _ => ?_
  refine .ite (fun _ => ?_) fun _ => ?_
  · exact (d.finds_echoReply responder (by omega)).mono fun r h => ⟨h.1, hvalid⟩
  -- all errors are read in the same way behind their kind
  extract_lets error
  have errors (kind : ResponseKind) (hkind : kind.isError = true) :
      Finds (error (some kind)) fun r =>
        r.WellFormed d responder ∧ (Content.icmpV4 message).Allows r := by
    refine .read (Bytes.returns_suffix (by rw [Icmp.headerSize]; omega)) fun payload _ => ?_
    refine .read (QuotedPacket.finds_readV4 payload) fun quoted family => ?_
    cases quoted with
    | none => exact .nothing
    | some packet =>
      refine .read (Bytes.returns_byteAt (by omega)) fun length _ => ?_
      refine .read (Extensions.returns_parse payload length 4) fun extensions _ => ?_
      exact (d.finds_icmpError responder hkind (family packet rfl) extensions).mono
        fun r h => ⟨h.1, hvalid⟩
  refine .ite (fun _ => errors (.timeExceeded code) rfl) fun _ => ?_
  refine .ite (fun _ => ?_) fun _ => .nothing
  refine .ite (fun _ => ?_) fun _ => errors (.destinationUnreachable code) rfl
  exact .read (Bytes.returns_word16At (by omega)) fun mtu _ => errors (.packetTooBig _) rfl

theorem finds_icmpV6 :
    Finds (d.icmpV6 message responder) fun r =>
      r.WellFormed d responder ∧ (Content.icmpV6 message).Allows r := by
  unfold icmpV6
  refine .ite (fun _ => .nothing) fun accepted => ?_
  rw [Icmp.headerSize] at accepted
  refine .read (Bytes.returns_byteAt (by omega)) fun type _ => ?_
  refine .read (Bytes.returns_byteAt (by omega)) fun code _ => ?_
  refine .ite (fun _ => ?_) fun _ => ?_
  · exact (d.finds_echoReply responder (by omega)).mono fun r h =>
      ⟨h.1, fun mtu tells => by rw [h.2] at tells; cases tells⟩
  -- all errors are read in the same way behind their kind
  extract_lets error
  have errors (kind : ResponseKind) (hkind : kind.isError = true) :
      Finds (error (some kind)) fun r =>
        r.WellFormed d responder ∧ (Content.icmpV6 message).Allows r := by
    refine .read (Bytes.returns_suffix (by rw [Icmp.headerSize]; omega)) fun payload _ => ?_
    refine .read (QuotedPacket.finds_readV6 payload) fun quoted family => ?_
    cases quoted with
    | none => exact .nothing
    | some packet =>
      have shape (extensions : Option Extensions)
          (plain : ∀ mtu, kind = .packetTooBig mtu → extensions = none) :
          Finds (d.icmpError kind (some packet) extensions responder) fun r =>
            r.WellFormed d responder ∧ (Content.icmpV6 message).Allows r :=
        (d.finds_icmpError responder hkind (family packet rfl) extensions).mono fun r h =>
          ⟨h.1, fun mtu tells => h.2.2.trans (plain mtu (h.2.1.symm.trans tells))⟩
      cases kind with
      | packetTooBig mtu => exact shape none fun _ _ => rfl
      | timeExceeded code | destinationUnreachable code =>
        refine .read (Bytes.returns_byteAt (by omega)) fun length _ => ?_
        refine .read (Extensions.returns_parse payload length 8) fun extensions _ => ?_
        exact shape extensions fun _ h => by cases h
      | echoReply | tcpReply | tcpRefused => cases hkind
  refine .ite (fun _ => errors (.timeExceeded code) rfl) fun _ => ?_
  refine .ite (fun _ => errors (.destinationUnreachable code) rfl) fun _ => ?_
  refine .ite (fun _ => ?_) fun _ => .nothing
  exact .read (Bytes.returns_word32At (by omega)) fun mtu _ => errors (.packetTooBig mtu) rfl

theorem finds_decode (data : Bytes) (framing : Framing) :
    Finds (d.decode data responder framing) fun r => r.WellFormed d responder ∧
      ∃ content, framing.content? data responder = some content ∧ content.Allows r := by
  unfold decode
  cases framing with
  | ipv4Packet =>
    cases header : Ipv4.headerLength data with
    | none => exact .nothing
    | some length =>
      obtain ⟨least, within⟩ := Ipv4.headerLength_bounds header
      rw [Ipv4.headerSize] at least
      simp only [Framing.content?, header]
      refine .read (Bytes.returns_byteAt (by omega)) fun protocol hprotocol => ?_
      refine .read (Bytes.returns_suffix within) fun body hbody => ?_
      subst hbody
      refine .ite (fun icmp => ?_) fun other => .ite (fun tcp => ?_) fun _ => .nothing
      · refine (d.finds_icmpV4 responder).mono fun r h => ⟨h.1, _, ?_, h.2⟩
        rw [hprotocol, icmp, if_pos rfl]
      · refine (d.finds_tcpReply responder).mono fun r h =>
          ⟨h, .tcp (data.drop length), ?_, trivial⟩
        rw [hprotocol, tcp, if_neg (by decide), if_pos rfl]
  | icmpMessage =>
    cases responder with
    | v4 _ => exact (d.finds_icmpV4 _).mono fun r h => ⟨h.1, _, rfl, h.2⟩
    | v6 _ => exact (d.finds_icmpV6 _).mono fun r h => ⟨h.1, _, rfl, h.2⟩
  | tcpSegment => exact (d.finds_tcpReply responder).mono fun r h => ⟨h, _, rfl, trivial⟩

/-! ## Main results -/

/-- Decoding any bytes ends without a fault: it reads and cuts within them. The loops that it makes
over quoted headers, over extension objects and over labels end on any bytes, and their rounds are
at most as many as the bytes have room for. -/
theorem decode_total (data : Bytes) (framing : Framing) :
    (∃ found, d.decode data responder framing = .ok found) ∧
    (∀ next offset, ∃ n last, Ends (QuotedPacket.nextHeader data) n (next, offset) last ∧
      n * 8 ≤ data.length + 6 - offset ∧
      QuotedPacket.walkHeaders data next offset = .ok (QuotedPacket.reached last)) ∧
    (∀ offset, ∃ n last, Ends (Extensions.nextObject data) n ([], offset) last ∧
      n * 4 ≤ data.length - offset ∧ Extensions.objectsFrom data offset = .ok last.1) ∧
    ∃ n last, Ends Extensions.nextLabel n ([], data) last ∧ n * 4 ≤ data.length ∧
      Extensions.labelsOf data = last.1 := by
  obtain ⟨found, decodes, -⟩ := d.finds_decode responder data framing
  exact ⟨⟨found, decodes⟩, QuotedPacket.walkHeaders_ends data, Extensions.objectsFrom_ends data,
    Extensions.labelsOf_ends data⟩

/-- A decoded response is well formed, and it is allowed by the message or segment that it was taken
from. -/
theorem decode_wellFormed {d : Decoder} {responder : Address} {data : Bytes} {framing : Framing}
    {r : Response} (h : d.decode data responder framing = .ok (some r)) :
    r.WellFormed d responder ∧
      ∃ content, framing.content? data responder = some content ∧ content.Allows r :=
  (d.finds_decode responder data framing).holds h r rfl

/-- A router answers a UDP probe with token 256. -/
def tokenMessage : Bytes :=
  [11, 0, 0x5B, 0x69, 0, 0, 0, 0, 0x45, 0, 0, 36, 0, 0, 0x40, 0, 1, 17, 0, 0, 10, 0, 0, 100,
    192, 0, 2, 1, 0xC3, 0x50, 0x82, 0x9A, 0, 16, 1, 0]

/-- The answer is decoded, so it is well formed. -/
theorem decode_wellFormed_tokenMessage :
    ∃ r, (⟨.udp, .udpChecksum, 32⟩ : Decoder).decode tokenMessage (.ofOctets4 10 9 9 1)
        .icmpMessage = .ok (some r) ∧ r.token = 256 ∧ r.kind = .timeExceeded 0 ∧
      r.WellFormed ⟨.udp, .udpChecksum, 32⟩ (.ofOctets4 10 9 9 1) ∧
      ∃ content, Framing.icmpMessage.content? tokenMessage (.ofOctets4 10 9 9 1) = some content ∧
        content.Allows r := by
  have decodes : (⟨.udp, .udpChecksum, 32⟩ : Decoder).decode tokenMessage (.ofOctets4 10 9 9 1)
      .icmpMessage = .ok (some ⟨.ofOctets4 10 9 9 1, .timeExceeded 0, 50000, 256,
        some ⟨.ofOctets4 10 0 0 100, .ofOctets4 192 0 2 1, 1, some 50000, some 33434, none,
          some 256⟩, none⟩) := by rfl
  exact ⟨_, decodes, rfl, rfl, decode_wellFormed decodes⟩

end Decoder

end FlowTrace
