import FlowTrace.Proofs.Correlator.Translation

/-!
# Replies to probes under another key

A NAT may give a probe another key, its source number or its ICMP identifier, and leave the field
that carries the token alone.

- **Quotes** (`EncodedProbe.renumberedQuote`): the key is another number; the source address and the
  UDP checksum are anything. An error that quotes such a datagram is decoded as such a quote
  (`quotesRenumbered_of_decode`).
- **Main result** (`recovers_renumbered`): the error resolves the probe, and nothing else, with the
  two keys as evidence. It does so as well where the new key is that of another flow.
-/

namespace FlowTrace

open Packet

namespace EncodedProbe

/-- Where the key of a probe stands. -/
def keyAt (p : EncodedProbe) : Nat :=
  match p.protocol with
  | .icmp => 4
  | .udp | .tcp => 0

/-- A probe that a NAT has given another key, and a checksum. -/
def renumbered (p : EncodedProbe) (number sum : UInt16) : Bytes :=
  (p.transport.overwrite p.protocol.checksumAt (octets16 sum)).overwrite p.keyAt (octets16 number)

/-- A quote of a probe under another key. -/
def renumberedQuote (p : EncodedProbe) (left : UInt8) (from_ : Address) (sum : Option UInt16)
    (number : UInt16) : QuotedProbe :=
  { p.quote left with
    src := from_
    srcPort := p.expected.srcPort.map fun _ => number
    identifier := p.expected.identifier.map fun _ => number
    udpChecksum := sum }

end EncodedProbe

/-- An ICMP error that quotes a probe under another key, with its own token. -/
structure Response.QuotesRenumbered (r : Response) (p : EncodedProbe) (number : UInt16) :
    Prop where
  key : r.flowKey = number
  token : r.token = p.token
  quoted : ∃ left from_ sum, r.quoted = some (p.renumberedQuote left from_ sum number)

/-! ## Reading -/

namespace Decoder

section Read

variable {c : Config} {src : Address} {flow : UInt16} {round : UInt32} {ttl : UInt8}
  {p : EncodedProbe}

/-- Eight bytes of a probe under another key tell this key and the token. -/
theorem quotedProbe_renumbered
    (h : (Encoder.ofConfig c (.ofConfig c) src).encode flow round ttl = some p)
    (separate : (FlowPlan.ofConfig c).carrier = .icmpSequence ∨
      (FlowPlan.ofConfig c).carrier = .tcpSequence ∨
        (FlowPlan.ofConfig c).carrier = .ipIdentification)
    (number sum : UInt16) {q : QuotedPacket}
    (protocol : q.protocol = p.protocol.number c.target.family) (hdst : q.dst = c.target)
    (identified : ∀ id ∈ p.ipId, q.ipId = some id) {front after : Bytes}
    (cut : front <+: p.renumbered number sum) (hroom : 8 ≤ front.length)
    (transport : q.transport = front ++ after) :
    ∃ seen, (ofConfig c (FlowPlan.ofConfig c).carrier).quotedProbe q =
      .ok (some (number, p.token, p.renumberedQuote q.ttl q.src seen number)) := by
  have probe := Encoder.isProbe_of_encode h
  have hlong : 8 ≤ q.transport.length := by
    rw [transport, List.length_append]
    omega
  have shown {i : Nat} {field : Bytes} (at_ : (p.renumbered number sum).HasAt i field)
      (within : i + field.length ≤ 8) : q.transport.HasAt i field := by
    rw [transport]
    exact at_.of_prefix cut (Nat.le_trans within hroom) after
  rw [probe.protocol_eq] at protocol
  rw [← probe.dst_eq] at hdst
  cases hp : c.protocol with
  | icmp =>
    obtain ⟨stored, spare, layout⟩ := Encoder.icmp_layout h hp
    have fields : p.renumbered number sum = Icmp.layout (Icmp.requestType c.target.isIpv6) number
        p.key p.token (Icmp.filling (Encoder.leastPayload c)) sum spare := by
      rw [EncodedProbe.renumbered, EncodedProbe.keyAt, probe.protocol_eq, hp, layout]
      rfl
    rw [fields] at shown
    obtain ⟨numbers, request⟩ := echo_numbers c.target
    have quote : p.renumberedQuote q.ttl q.src none number =
        ⟨q.src, q.dst, q.ttl, none, none, some number, none⟩ := by
      rw [EncodedProbe.renumberedQuote, Encoder.icmp_quote h hp,
        (Encoder.icmp_of_encode h hp).2.1, hdst]
      rfl
    rw [hp] at protocol
    refine ⟨none, ?_⟩
    rw [quote]
    exact quotedProbe_icmp hp (protocol ▸ numbers) hlong request (shown rfl (by simp))
      (shown rfl (by simp)) (shown rfl (by simp))
  | udp =>
    obtain ⟨stored, spare, -, layout⟩ := Encoder.udp_layout h hp
    obtain ⟨-, -, -, port, identifier, id⟩ := Encoder.udp_of_encode h hp
    have fields : p.renumbered number sum = Udp.layout number p.dstPort
        (Encoder.flowPayload c src p.token) sum spare := by
      rw [EncodedProbe.renumbered, EncodedProbe.keyAt, probe.protocol_eq, hp, layout]
      rfl
    rw [fields] at shown
    -- Of the carriers of UDP `separate` admits the identification only.
    have carrier : (FlowPlan.ofConfig c).carrier = .ipIdentification := by
      rw [FlowPlan.carrier_ofConfig, hp] at separate ⊢
      unfold FlowPlan.carrierFor at separate ⊢
      split <;> simp_all
    rw [if_pos carrier] at id
    have quote : p.renumberedQuote q.ttl q.src (some sum) number =
        ⟨q.src, q.dst, q.ttl, some number, some p.dstPort, none, some sum⟩ := by
      rw [EncodedProbe.renumberedQuote, Encoder.udp_quote h hp, port, identifier, hdst]
      rfl
    have token (length : UInt16) : (ofConfig c (FlowPlan.ofConfig c).carrier).udpToken q.ipId length
        sum = some p.token := by
      rw [identified p.token id, carrier]
      rfl
    refine ⟨some sum, ?_⟩
    rw [quote]
    exact quotedProbe_udp hp (by rw [protocol, hp]; rfl) hlong (shown rfl (by simp))
      (shown rfl (by simp)) (shown rfl (by simp)) (shown rfl (by simp)) (token _)
  | tcp =>
    obtain ⟨layout, port, expected, -⟩ := Encoder.tcp_of_encode h hp
    have fields : p.renumbered number sum = Tcp.layout p.token number p.dstPort sum := by
      rw [EncodedProbe.renumbered, EncodedProbe.keyAt, probe.protocol_eq, hp, layout, port]
      rfl
    rw [fields] at shown
    have quote : p.renumberedQuote q.ttl q.src none number =
        ⟨q.src, q.dst, q.ttl, some number, some p.dstPort, none, none⟩ := by
      rw [EncodedProbe.renumberedQuote, Encoder.tcp_quote h hp, expected, hdst]
      rfl
    refine ⟨none, ?_⟩
    rw [quote]
    exact quotedProbe_tcp hp (by rw [protocol, hp]; rfl) hlong (shown rfl (by simp))
      (shown rfl (by simp)) (shown rfl (by simp))

/-- An ICMP error that quotes eight bytes of a probe under another key is decoded as such. -/
theorem quotesRenumbered_of_decode
    (h : (Encoder.ofConfig c (.ofConfig c) src).encode flow round ttl = some p)
    (separate : (FlowPlan.ofConfig c).carrier = .icmpSequence ∨
      (FlowPlan.ofConfig c).carrier = .tcpSequence ∨
        (FlowPlan.ofConfig c).carrier = .ipIdentification)
    (number sum : UInt16) (e : IcmpError c.target.family) (checksum : UInt16)
    {header : QuotedHeader c.target.family} (hdst : header.dst = c.target)
    (identified : ∀ id ∈ p.ipId, header.identification = some id) {front after : Bytes}
    (cut : front <+: p.renumbered number sum) (hroom : 8 ≤ front.length)
    (hvalid : c.target.family = .ipv4 →
      Checksum.verify (e.quoting checksum header p.protocol front after) = true)
    {responder : Address} (hr : responder.family = c.target.family) :
    ∃ r, (ofConfig c (FlowPlan.ofConfig c).carrier).decode
        (e.quoting checksum header p.protocol front after) responder .icmpMessage =
          .ok (some r) ∧
      r.QuotesRenumbered p number := by
  obtain ⟨seen, found⟩ := quotedProbe_renumbered h separate number sum
    (q := header.packet (p.protocol.number c.target.family) (front ++ after)) rfl hdst identified
    cut hroom rfl
  obtain ⟨extensions, read, -⟩ := decode_quoting e checksum hvalid found hr
  exact ⟨_, read, rfl, rfl, header.ttl, header.src, seen, rfl⟩

end Read

end Decoder

namespace Correlator

/-- The evidence of a NAT that changed the key: the key that was sent and the one that is seen. -/
def renumbering (p : EncodedProbe) (number : UInt16) : FieldChange :=
  match p.protocol with
  | .icmp => .identifier p.key number
  | .udp | .tcp => .srcPort p.key number

/-- Where all waiting probes belong to one round and the token is apart from the key, an error
quotes one of them under another key, in time. -/
structure Renumbered (c : Config) (src : Address) (o : Outstanding) (r : Response) (now : Instant)
    (q : PendingProbe) (p : EncodedProbe) (number : UInt16) : Prop where
  checked : c.check = .ok ()
  separate : (FlowPlan.ofConfig c).carrier = .icmpSequence ∨
    (FlowPlan.ofConfig c).carrier = .tcpSequence ∨
      (FlowPlan.ofConfig c).carrier = .ipIdentification
  ofRound : o.OfRound c src q.round
  waits : q ∈ o.waiting
  sent : (Encoder.ofConfig c (.ofConfig c) src).encode q.flow q.round q.ttl = some p
  changed : number ≠ p.key
  quotes : r.QuotesRenumbered p number
  timely : now.nanos ≤ q.deadline.nanos

section Recovery

variable {c : Config} {src : Address} {o : Outstanding} {r : Response} {now : Instant}
  {q : PendingProbe} {p : EncodedProbe} {number : UInt16}

/-- The two keys are the first difference between the probe and the quote. -/
theorem find_renumberedQuote {flow : UInt16} {round : UInt32} {ttl : UInt8}
    (h : (Encoder.ofConfig c (.ofConfig c) src).encode flow round ttl = some p)
    (changed : number ≠ p.key) (left : UInt8) (from_ : Address) (sum : Option UInt16) :
    FieldChange.find c.target p.expected (p.renumberedQuote left from_ sum number) =
      some (renumbering p number) := by
  have probe := Encoder.isProbe_of_encode h
  have differs : differing (some p.key) (some number) = some (p.key, number) :=
    if_neg (Ne.symm changed)
  have protocol := probe.protocol_eq
  unfold FieldChange.find renumbering EncodedProbe.renumberedQuote
  cases hp : c.protocol with
  | icmp =>
    obtain ⟨-, expected, -⟩ := Encoder.icmp_of_encode h hp
    rw [← probe.key_eq] at expected
    simp only [expected, protocol, hp, Option.map_none, Option.map_some, differing_self, differs]
  | udp | tcp =>
    have port : p.expected.srcPort = some p.key := by
      rw [probe.key_eq]
      exact probe.srcPort_eq (by rw [hp]; decide)
    simp only [port, protocol, hp, Option.map_some, differs]

/-- An error that quotes a probe under another key resolves the probe, and nothing else, with the
two keys as evidence. It does not matter whether the source address is known. -/
theorem recovers_renumbered (h : Renumbered c src o r now q p number) (source : Option Address) :
    Recovers ⟨.ofConfig c, c.target, source⟩ o r now q (renumbering p number) := by
  have hb := Config.bounds_of_check h.checked
  have hc : (FlowPlan.ofConfig c).carrier ≠ .udpPayloadLength := by
    rcases h.separate with hc | hc | hc <;> rw [hc] <;> decide
  obtain ⟨-, -, -, e, sent, token, expected⟩ := h.ofRound.probe q h.waits
  obtain rfl : p = e := Option.some.inj (h.sent.symm.trans sent)
  obtain ⟨left, from_, sum, quoted⟩ := h.quotes.quoted
  have target : (p.renumberedQuote left from_ sum number).dst = c.target :=
    (Encoder.isProbe_of_encode h.sent).dst_eq
  have aimed : aimedAtTarget ⟨.ofConfig c, c.target, source⟩ r = true := by
    simp [aimedAtTarget, quoted, target]
  -- Whatever flow the new key names, no other probe of the round has the token.
  obtain ⟨o', named⟩ :=
    exists_removeNamed hb hc h.ofRound aimed h.waits (token.trans h.quotes.token.symm)
  refine recovers_of_claim h.ofRound.wf (claim?_of_removeNamed named) ?_ h.timely
  have found := find_renumberedQuote h.sent h.changed left from_ sum
  simp [fieldChange, quoted, expected, found]

/-- A session of echo requests on two flows. -/
def twinConfig : Config :=
  { Config.standard (.ofOctets4 192 0 2 1) .icmp 0x3000 with flows := 2 }

/-- Probes of both flows wait, and a NAT gives one of them the key of the other. -/
theorem recovers_renumbered_twinConfig :
    ∃ p o, (Encoder.ofConfig twinConfig (.ofConfig twinConfig) insideAddress).encode 0 0 5 =
        some p ∧
      (FlowPlan.ofConfig twinConfig).flowForKey 0x3001 = some 1 ∧ (∃ x ∈ o.waiting, x.flow = 1) ∧
      Recovers (.ofConfig twinConfig insideAddress) o
        ⟨.ofOctets4 10 9 9 1, .timeExceeded 0, 0x3001, p.token,
          some (p.renumberedQuote 1 (.ofOctets4 203 0 113 7) none 0x3001), none⟩ ⟨0⟩ p.pending
        (.identifier 0x3000 0x3001) := by
  obtain ⟨p, h⟩ := Encoder.exists_encode twinConfig insideAddress
    (by decide : (0 : UInt16).toNat < twinConfig.flows.toNat) 0 5
  obtain ⟨p', h'⟩ := Encoder.exists_encode twinConfig insideAddress
    (by decide : (1 : UInt16).toNat < twinConfig.flows.toNat) 0 5
  have probe := Encoder.isProbe_of_encode h
  have key : p.key = 0x3000 := probe.key_eq
  have other : p'.flow = 1 := (Encoder.isProbe_of_encode h').flow_eq
  have apart : p.flow ≠ p'.flow := by
    rw [probe.flow_eq, other]
    decide
  obtain ⟨o, ofRound, waiting⟩ := Outstanding.exists_two h h' (by decide) (by decide)
    fun hsame => absurd hsame apart
  -- The changed identifier is the key of flow 1, on which a probe waits as well.
  have setting : Renumbered twinConfig insideAddress o
      ⟨.ofOctets4 10 9 9 1, .timeExceeded 0, 0x3001, p.token,
        some (p.renumberedQuote 1 (.ofOctets4 203 0 113 7) none 0x3001), none⟩ ⟨0⟩ p.pending p
      0x3001 :=
    { checked := rfl
      separate := .inl rfl
      ofRound := ofRound
      waits := (waiting _).mpr (.inr rfl)
      sent := encode_pending h
      changed := by rw [key]; decide
      quotes := ⟨rfl, rfl, _, _, _, rfl⟩
      timely := Nat.zero_le 1 }
  have recovers := recovers_renumbered setting (some insideAddress)
  have evidence : renumbering p 0x3001 = .identifier 0x3000 0x3001 := by
    rw [renumbering, probe.protocol_eq, key]
    rfl
  rw [evidence] at recovers
  exact ⟨p, o, h, rfl, ⟨p'.pending, (waiting _).mpr (.inl rfl), other⟩, recovers⟩

end Recovery

end Correlator

end FlowTrace
