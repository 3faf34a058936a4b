import FlowTrace.Response
import FlowTrace.Proofs.Flow

/-!
# Probes and the replies to them

- **Probes** (`EncodedProbe.IsProbe`): the fields of the probe of a flow, a round and a hop limit,
  as `Encoder.encode` gives it (`isProbe_of_encode`).
- **Quotes** (`EncodedProbe.quote`): what an ICMP error says about a probe that nothing on the way
  has changed. There is no evidence of a NAT in it (`find_quote`).
- **Replies** (`Response.Answers`, `Response.Quotes`): a response with the key and the token of a
  probe, and with nothing but its quote.
-/

namespace FlowTrace

/-- The number by which a reply to the probe names the flow. -/
def EncodedProbe.key (p : EncodedProbe) : UInt16 :=
  (p.expected.srcPort.or p.expected.identifier).getD p.flow

/-- The checksum of a UDP probe on the wire. It is the token where it carries the token. -/
def EncodedProbe.udpChecksum (p : EncodedProbe) : Option UInt16 :=
  match p.protocol with
  | .udp => some (p.expected.udpChecksum.getD p.token)
  | _ => none

/-- A quote of the probe as it was sent, except for what is left of the hop limit. -/
def EncodedProbe.quote (p : EncodedProbe) (ttl : UInt8) : QuotedProbe where
  src := p.src
  dst := p.dst
  ttl := ttl
  srcPort := p.expected.srcPort
  dstPort := p.expected.srcPort.map fun _ => p.dstPort
  identifier := p.expected.identifier
  udpChecksum := p.udpChecksum

/-- The probe of a flow and a hop limit in a round, sent from an address. -/
structure EncodedProbe.IsProbe (c : Config) (src : Address) (flow : UInt16) (round : UInt32)
    (ttl : UInt8) (p : EncodedProbe) : Prop where
  flow_lt : flow.toNat < c.flows.toNat
  flow_eq : p.flow = flow
  ttl_eq : p.ttl = ttl
  token_eq : p.token =
    (FlowPlan.ofConfig c).carrier.token ((FlowPlan.ofConfig c).probeId round flow ttl)
  protocol_eq : p.protocol = c.protocol
  src_eq : p.src = src
  dst_eq : p.dst = c.target
  key_eq : p.key = c.keyBase + flow
  srcPort_eq : c.protocol ≠ .icmp → p.expected.srcPort = some (c.keyBase + flow)
  checksum_eq : (FlowPlan.ofConfig c).carrier = .udpChecksum → p.expected.udpChecksum = none

theorem Encoder.isProbe_of_encode {c : Config} {src : Address} {flow : UInt16} {round : UInt32}
    {ttl : UInt8} {p : EncodedProbe}
    (h : (Encoder.ofConfig c (.ofConfig c) src).encode flow round ttl = some p) :
    p.IsProbe c src flow round ttl := by
  simp only [encode, ofConfig, FlowPlan.get?_ofConfig, Option.bind_eq_bind] at h
  split at h
  case isFalse => cases h
  rename_i hf
  simp only [Option.bind_some, FlowPlan.protocol_ofConfig, FlowPlan.carrier_fieldsOf] at h
  have key : ((FlowPlan.fieldsOf c (FlowPlan.ofConfig c).carrier flow).srcPort.or
      (FlowPlan.fieldsOf c (FlowPlan.ofConfig c).carrier flow).identifier).getD flow =
        c.keyBase + flow := by
    simpa [FlowFields.key] using FlowPlan.key_fieldsOf c (FlowPlan.ofConfig c).carrier flow
  have port (hp : c.protocol ≠ .icmp) :=
    FlowPlan.srcPort_fieldsOf hp (FlowPlan.ofConfig c).carrier flow
  split at h <;> simp only [Option.pure_def, Option.some.injEq] at h <;> subst h
  · exact ⟨hf, rfl, rfl, rfl, rfl, rfl, rfl, key, port, fun _ => rfl⟩
  · exact ⟨hf, rfl, rfl, rfl, rfl, rfl, rfl, key, port, fun hc => by simp [← hc]⟩
  · exact ⟨hf, rfl, rfl, rfl, rfl, rfl, rfl, key, port, fun _ => rfl⟩

/-- Where the token is no length, its upper byte is the hop limit and its lower one the sequence
byte. -/
theorem EncodedProbe.IsProbe.toNat_token {c : Config} {src : Address} {flow : UInt16}
    {round : UInt32} {ttl : UInt8} {p : EncodedProbe} (h : p.IsProbe c src flow round ttl)
    (hc : (FlowPlan.ofConfig c).carrier ≠ .udpPayloadLength) :
    p.token.toNat = ttl.toNat * 256 + (round.toNat * c.flows.toNat + flow.toNat) % 256 := by
  rw [h.token_eq, FlowPlan.toNat_sequenceToken hc]

/-! ## Quotes -/

@[simp] theorem differing_self (x : Option UInt16) : differing x x = none := by
  cases x <;> simp [differing]

/-- A field that middleboxes strip is not taken for a changed one. -/
theorem differing_filter (x : Option UInt16) (f : UInt16 → Bool) :
    differing x (x.filter f) = none := by
  cases x with
  | none => rfl
  | some x =>
    cases h : f x with
    | true => rw [Option.filter_some_pos h, differing_self]
    | false =>
      rw [Option.filter_some_neg h]
      rfl

/-- An unchanged quote shows no NAT. -/
theorem EncodedProbe.find_quote (p : EncodedProbe) (ttl : UInt8) :
    FieldChange.find p.dst p.expected (p.quote ttl) = none := by
  have checksum : differing p.expected.udpChecksum (p.udpChecksum.filter (· ≠ 0)) = none := by
    unfold EncodedProbe.udpChecksum
    cases hsum : p.expected.udpChecksum with
    | none => rfl
    | some x =>
      cases p.protocol with
      | udp => exact differing_filter (some x) _
      | icmp | tcp => rfl
  unfold FieldChange.find
  simp only [quote, differing_self, checksum, ↓reduceIte]

/-! ## Replies -/

/-- A response that an unchanged probe causes. -/
structure Response.Answers (r : Response) (p : EncodedProbe) : Prop where
  key : r.flowKey = p.key
  token : r.token = p.token
  quoted : ∀ q ∈ r.quoted, ∃ ttl, q = p.quote ttl

/-- An ICMP error that an unchanged probe causes. -/
structure Response.Quotes (r : Response) (p : EncodedProbe) : Prop where
  key : r.flowKey = p.key
  token : r.token = p.token
  quoted : ∃ ttl, r.quoted = some (p.quote ttl)

theorem Response.Quotes.answers {r : Response} {p : EncodedProbe} (h : r.Quotes p) :
    r.Answers p where
  key := h.key
  token := h.token
  quoted q hq := by
    obtain ⟨ttl, ht⟩ := h.quoted
    exact ⟨ttl, by simpa [ht] using hq.symm⟩

end FlowTrace
