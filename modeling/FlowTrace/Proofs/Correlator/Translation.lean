import FlowTrace.Proofs.Correlator
import FlowTrace.Proofs.Response.Error

/-!
# Replies from behind a NAT

- **What a NAT does** (`EncodedProbe.translated`): it rewrites the source address and the source
  number of a UDP probe, and computes its checksum anew. An error that quotes the result is decoded
  as such a quote (`quotesTranslated_of_decode`).
- **Undoing it** (`leadsTo_of_quotesTranslated`): modulo 65535 the checksums that are sent and seen
  differ by what was rewritten, so undoing the changes for any flow leads to a token that makes up
  one sum with the flow, that of the probe.
- **Main result** (`recovers_translated`): the error resolves the probe, and nothing else, with
  evidence of the NAT.
- **Limits** (`not_recovered_everywhere`): a datagram so long that carries are lost from its
  checksum is not recovered, and neither is one that goes to an address of another family.
-/

namespace FlowTrace

open Packet

/-- The checksum of a UDP probe whose source address and source number a NAT has rewritten, computed
anew. -/
def EncodedProbe.translatedChecksum (p : EncodedProbe) (from_ : Address) (port : UInt16) : UInt16 :=
  Protocol.udp.writes (Checksum.checksumWith
    ((p.transport.overwrite 0 (octets16 port)).overwrite 6 (octets16 0))
    (Checksum.pseudoHeaderSum from_ p.dst Udp.protocol p.transport.length))

/-- A checksum that comes out as zero is written as all ones. -/
theorem EncodedProbe.translatedChecksum_ne_zero (p : EncodedProbe) (from_ : Address)
    (port : UInt16) : p.translatedChecksum from_ port ≠ 0 := by
  rw [translatedChecksum, Protocol.writes_udp]
  split
  · decide
  · assumption

/-- A UDP probe as a NAT has rewritten it. -/
def EncodedProbe.translated (p : EncodedProbe) (from_ : Address) (port : UInt16) : Bytes :=
  (p.transport.overwrite 0 (octets16 port)).overwrite 6
    (octets16 (p.translatedChecksum from_ port))

/-- A quote of a UDP probe as a NAT has rewritten it. -/
def EncodedProbe.translatedQuote (p : EncodedProbe) (left : UInt8) (from_ : Address)
    (port : UInt16) : QuotedProbe :=
  { p.quote left with
    src := from_
    srcPort := some port
    udpChecksum := some (p.translatedChecksum from_ port) }

/-- An ICMP error that quotes a UDP probe as a NAT has rewritten it. -/
structure Response.QuotesTranslated (r : Response) (p : EncodedProbe) (from_ : Address)
    (port : UInt16) : Prop where
  key : r.flowKey = port
  token : r.token = p.translatedChecksum from_ port
  quoted : ∃ left, r.quoted = some (p.translatedQuote left from_ port)

/-- Behind a NAT a UDP probe has another source number and the checksum to match. -/
theorem Encoder.translated_fields {c : Config} {src : Address} {flow : UInt16} {round : UInt32}
    {ttl : UInt8} {p : EncodedProbe}
    (h : (ofConfig c (.ofConfig c) src).encode flow round ttl = some p) (hp : c.protocol = .udp)
    (from_ : Address) (port : UInt16) :
    (p.translated from_ port).HasAt 0 (octets16 port) ∧
      (p.translated from_ port).HasAt 2 (octets16 p.dstPort) ∧
      (∃ length, (p.translated from_ port).HasAt 4 (octets16 length)) ∧
      (p.translated from_ port).HasAt 6 (octets16 (p.translatedChecksum from_ port)) := by
  obtain ⟨sum, spare, -, layout⟩ := udp_layout h hp
  have rewritten : p.translated from_ port = Udp.layout port p.dstPort
      (flowPayload c src p.token) (p.translatedChecksum from_ port) spare := by
    rw [EncodedProbe.translated, layout]
    rfl
  rw [rewritten]
  exact ⟨rfl, rfl, ⟨_, rfl⟩, rfl⟩

/-- An ICMP error that quotes eight bytes of what a NAT has made of a probe is decoded as such. -/
theorem Decoder.quotesTranslated_of_decode {c : Config} {src : Address} {flow : UInt16}
    {round : UInt32} {ttl : UInt8} {p : EncodedProbe}
    (h : (Encoder.ofConfig c (.ofConfig c) src).encode flow round ttl = some p)
    (hc : (FlowPlan.ofConfig c).carrier = .udpChecksum) {from_ : Address} {port : UInt16}
    (e : IcmpError c.target.family) (checksum : UInt16) {header : QuotedHeader c.target.family}
    (hsrc : header.src = from_) (hdst : header.dst = c.target) {front after : Bytes}
    (cut : front <+: p.translated from_ port) (hroom : 8 ≤ front.length)
    (hvalid : c.target.family = .ipv4 →
      Checksum.verify (e.quoting checksum header .udp front after) = true)
    {responder : Address} (hr : responder.family = c.target.family) :
    ∃ r, (ofConfig c (FlowPlan.ofConfig c).carrier).decode
        (e.quoting checksum header .udp front after) responder .icmpMessage = .ok (some r) ∧
      r.QuotesTranslated p from_ port := by
  have hp := FlowPlan.protocol_of_checksum hc
  obtain ⟨number, dst, ⟨length, hlength⟩, sum⟩ := Encoder.translated_fields h hp from_ port
  have shown {i : Nat} {field : Bytes} (at_ : (p.translated from_ port).HasAt i field)
      (within : i + field.length ≤ 8) : Bytes.HasAt (front ++ after) i field :=
    at_.of_prefix cut (Nat.le_trans within hroom) after
  have hlong : 8 ≤ (front ++ after).length := by
    rw [List.length_append]
    omega
  have token : (ofConfig c (FlowPlan.ofConfig c).carrier).udpToken header.identification length
      (p.translatedChecksum from_ port) = some (p.translatedChecksum from_ port) := by
    simp only [udpToken, ofConfig, hc]
  have found : (ofConfig c (FlowPlan.ofConfig c).carrier).quotedProbe
      (header.packet (Protocol.udp.number c.target.family) (front ++ after)) = _ :=
    quotedProbe_udp hp rfl hlong (shown number (by simp)) (shown dst (by simp))
      (shown hlength (by simp)) (shown sum (by simp)) token
  obtain ⟨extensions, read, -⟩ := decode_quoting e checksum hvalid found hr
  have quote : p.translatedQuote header.ttl from_ port = ⟨header.src, header.dst, header.ttl,
      some port, some p.dstPort, none, some (p.translatedChecksum from_ port)⟩ := by
    rw [EncodedProbe.translatedQuote, Encoder.udp_quote h hp, (Encoder.isProbe_of_encode h).dst_eq,
      hsrc, hdst]
  exact ⟨_, read, rfl, rfl, header.ttl, congrArg some quote.symm⟩

namespace Correlator

/-- A response resolves a waiting probe, with evidence of a NAT, and nothing else. -/
def Recovers (c : Correlator) (o : Outstanding) (r : Response) (now : Instant) (q : PendingProbe)
    (nat : FieldChange) : Prop :=
  ∃ o', c.correlate o r now = some (.answered
      { flow := q.flow
        ttl := q.ttl
        round := q.round
        responder := r.responder
        rtt := now.since q.sentAt
        kind := r.kind
        nat := some nat
        mpls := r.mplsLabels }, o') ∧
    Outstanding.Claims o [q] o'

/-- A claim in time recovers the probe, if the quote shows a NAT. -/
theorem recovers_of_claim {c : Correlator} {o o' : Outstanding} {r : Response} {now : Instant}
    {q : PendingProbe} {patched : Bool} {nat : FieldChange} (wf : o.WF)
    (claim : c.claim? o r = some ⟨q, patched, o'⟩)
    (evidence : c.fieldChange ⟨q, patched, o'⟩ r = some nat)
    (timely : now.nanos ≤ q.deadline.nanos) : c.Recovers o r now q nat := by
  refine ⟨o', ?_, claims_of_claim? wf claim⟩
  simp [correlate, claim, outcome, evidence, Nat.not_lt.mpr timely]

/-- The evidence of a NAT that rewrote the source number, or the address only. -/
def translation (p : EncodedProbe) (from_ : Address) (port : UInt16) : FieldChange :=
  if port = p.key then .checksum p.token (p.translatedChecksum from_ port) else .srcPort p.key port

/-- Where all waiting probes belong to one round, an error quotes one of them as a NAT has rewritten
it, in time and under a checksum that is no waiting token. -/
structure Translated (c : Config) (src : Address) (o : Outstanding) (r : Response) (now : Instant)
    (q : PendingProbe) (p : EncodedProbe) (from_ : Address) (port : UInt16) : Prop where
  checked : c.check = .ok ()
  udp : c.protocol = .udp
  paris : c.multipath = .paris
  ofRound : o.OfRound c src q.round
  waits : q ∈ o.waiting
  sent : (Encoder.ofConfig c (.ofConfig c) src).encode q.flow q.round q.ttl = some p
  family : from_.family = src.family
  quotes : r.QuotesTranslated p from_ port
  fresh : ∀ x ∈ o.waiting, x.token ≠ p.translatedChecksum from_ port
  timely : now.nanos ≤ q.deadline.nanos

end Correlator

/-! ## One probe behind a NAT -/

/-- Nothing waits but one probe of the first flow. -/
def Outstanding.lone (q : PendingProbe) : Outstanding := ⟨[[q]], [(q.round, 1)], 1⟩

theorem Outstanding.lone_wf {q : PendingProbe} (h : q.flow = 0) : (lone q).WF where
  flow i s hs x hx := by
    cases i with
    | zero =>
      obtain rfl : [q] = s := by simpa [lone] using hs
      obtain rfl := List.mem_singleton.mp hx
      rw [h]
      rfl
    | succ i => simp [lone] at hs
  token s hs := by
    obtain rfl := List.mem_singleton.mp hs
    simp
  rounds := by simp [lone]
  pos x hx := by
    obtain rfl := List.mem_singleton.mp hx
    exact Nat.one_pos
  total := rfl

/-- A probe of the first round as it waits for an answer. -/
def EncodedProbe.pending (p : EncodedProbe) : PendingProbe :=
  ⟨p.flow, 0, p.ttl, p.token, ⟨0⟩, ⟨1⟩, p.expected⟩

/-- The registration of a probe of the first round. -/
theorem EncodedProbe.isProbe_pending {c : Config} {src : Address} {flow : UInt16} {ttl : UInt8}
    {p : EncodedProbe} (h : (Encoder.ofConfig c (.ofConfig c) src).encode flow 0 ttl = some p)
    (ht : 0 < ttl.toNat ∧ ttl.toNat ≤ 64) : p.pending.IsProbe c src 0 := by
  have probe := Encoder.isProbe_of_encode h
  obtain rfl := probe.flow_eq
  obtain rfl := probe.ttl_eq
  exact ⟨rfl, ht.1, ht.2, p, h, rfl, rfl⟩

/-- Two probes of the first round wait, of different flows or with different tokens. -/
theorem Outstanding.exists_two {c : Config} {src : Address} {flow flow' : UInt16}
    {ttl ttl' : UInt8} {p p' : EncodedProbe}
    (h : (Encoder.ofConfig c (.ofConfig c) src).encode flow 0 ttl = some p)
    (h' : (Encoder.ofConfig c (.ofConfig c) src).encode flow' 0 ttl' = some p')
    (ht : 0 < ttl.toNat ∧ ttl.toNat ≤ 64) (ht' : 0 < ttl'.toNat ∧ ttl'.toNat ≤ 64)
    (apart : p.flow = p'.flow → p.token ≠ p'.token) :
    ∃ o, OfRound c src 0 o ∧ ∀ x, x ∈ o.waiting ↔ x = p'.pending ∨ x = p.pending := by
  have hroom {q : PendingProbe} (hq : q.IsProbe c src 0) {o : Outstanding}
      (ho : o.OfRound c src 0) : ¬ o.shards.length ≤ q.flow.toNat :=
    ho.length ▸ Nat.not_le.mpr hq.token_eq.1
  have first := p.isProbe_pending h ht
  have second := p'.isProbe_pending h' ht'
  have empty : (new c.flows).OfRound c src 0 :=
    ofRound_new (Nat.zero_lt_of_lt first.token_eq.1) src 0
  have one : (new c.flows).insert? p.pending ≠ none := fun none =>
    (empty.wf.insert?_eq_none_iff.mp none).elim (hroom first empty) (by simp [new_waiting])
  obtain ⟨o, inserted⟩ := Option.ne_none_iff_exists'.mp one
  have waiting (x : PendingProbe) : x ∈ o.waiting ↔ x = p.pending := by
    rw [(insert?_waiting inserted).mem_iff, new_waiting, List.mem_singleton]
  have single := empty.insert? first inserted
  -- The second insertion would fail only on a probe of the same flow and token, and the first is
  -- the only one there.
  have two : o.insert? p'.pending ≠ none := fun none => by
    rcases single.wf.insert?_eq_none_iff.mp none with outside | ⟨x, hx, flow, token⟩
    · exact hroom second single outside
    · obtain rfl := (waiting x).mp hx
      exact apart flow token
  obtain ⟨o', inserted'⟩ := Option.ne_none_iff_exists'.mp two
  refine ⟨o', single.insert? second inserted', fun x => ?_⟩
  rw [(insert?_waiting inserted').mem_iff, List.mem_cons, waiting]

/-- What a router answers to a probe that a NAT has rewritten. -/
def EncodedProbe.translatedError (p : EncodedProbe) (responder from_ : Address) (port : UInt16) :
    Response :=
  ⟨responder, .timeExceeded 0, port, p.translatedChecksum from_ port,
    some (p.translatedQuote 1 from_ port), none⟩

namespace Correlator

section Lone

variable {c : Config} {src : Address} {ttl : UInt8} {p : EncodedProbe} {from_ : Address}
  {port : UInt16}

theorem encode_pending {flow : UInt16}
    (h : (Encoder.ofConfig c (.ofConfig c) src).encode flow 0 ttl = some p) :
    (Encoder.ofConfig c (.ofConfig c) src).encode p.pending.flow p.pending.round p.pending.ttl =
      some p := by
  have probe := Encoder.isProbe_of_encode h
  rw [EncodedProbe.pending, probe.flow_eq, probe.ttl_eq]
  exact h

theorem translated_lone (checked : c.check = .ok ()) (udp : c.protocol = .udp)
    (paris : c.multipath = .paris) (one : c.flows = 1)
    (h : (Encoder.ofConfig c (.ofConfig c) src).encode 0 0 ttl = some p)
    (ht : 0 < ttl.toNat ∧ ttl.toNat ≤ 64) (family : from_.family = src.family)
    (hfresh : p.token ≠ p.translatedChecksum from_ port) (responder : Address) :
    Translated c src (.lone p.pending) (p.translatedError responder from_ port) ⟨0⟩ p.pending p
      from_ port where
  checked := checked
  udp := udp
  paris := paris
  ofRound := by
    refine ⟨Outstanding.lone_wf (Encoder.isProbe_of_encode h).flow_eq, by rw [one]; rfl,
      fun x hx => ?_⟩
    obtain rfl : x = p.pending := by simpa [Outstanding.lone, Outstanding.waiting] using hx
    exact p.isProbe_pending h ht
  waits := by simp [Outstanding.lone, Outstanding.waiting]
  sent := encode_pending h
  family := family
  quotes := ⟨rfl, rfl, 1, rfl⟩
  fresh x hx := by
    obtain rfl : x = p.pending := by simpa [Outstanding.lone, Outstanding.waiting] using hx
    exact hfresh
  timely := Nat.zero_le 1

end Lone

/-! ## Undoing the changes -/

section Undo

variable {c : Config} {src : Address} {o : Outstanding} {r : Response} {now : Instant}
  {q : PendingProbe} {p : EncodedProbe} {from_ : Address} {port : UInt16}

/-- The checksum of a UDP datagram makes up, with the source address and the source number, a sum
that does not depend on these. -/
theorem exists_sum_of_source (dst : Address) (length : Nat) {rest : Bytes}
    (hshort : rest.length + 42 < 131072) : ∃ n, ∀ (a : Address) (w : UInt16),
      ((Protocol.udp.writes (Checksum.checksum (Checksum.pseudoHeader a dst Udp.protocol length ++
        (octets16 w ++ rest)))).toNat + w.toNat + Checksum.total a.octets + n) % 65535 = 0 := by
  obtain ⟨n, header⟩ := Checksum.exists_total_pseudoHeader dst Udp.protocol length
  refine ⟨n + Checksum.total rest, fun a w => ?_⟩
  obtain ⟨heven, hsmall⟩ := Checksum.length_pseudoHeader a dst Udp.protocol length
  have size : (Checksum.pseudoHeader a dst Udp.protocol length ++ (octets16 w ++ rest)).length <
      131072 := by
    rw [List.length_append, List.length_append, length_octets16]
    omega
  have whole := Checksum.checksum_add_total size
  have written := (Protocol.udp.toNat_writes_mod (Checksum.checksum
    (Checksum.pseudoHeader a dst Udp.protocol length ++ (octets16 w ++ rest)))).1
  rw [Checksum.total_append heven, header, Checksum.total_append (by simp),
    Checksum.total_octets16] at whole
  omega

/-- A UDP probe with a blank checksum, under its own source number or another one. -/
theorem exists_rest {flow : UInt16} {round : UInt32} {ttl : UInt8}
    (h : (Encoder.ofConfig c (.ofConfig c) src).encode flow round ttl = some p)
    (hp : c.protocol = .udp) : ∃ rest, rest.length + 2 = p.transport.length ∧
      p.transport.overwrite 6 (octets16 0) = octets16 p.key ++ rest ∧
      ∀ port, (p.transport.overwrite 0 (octets16 port)).overwrite 6 (octets16 0) =
        octets16 port ++ rest := by
  obtain ⟨sum, spare, -, layout⟩ := Encoder.udp_layout h hp
  refine ⟨octets16 p.dstPort ++ (octets16 (UInt16.ofNat (Udp.headerSize +
    (Encoder.flowPayload c src p.token).length)) ++ (octets16 0 ++ (octets16 spare ++
    (Encoder.flowPayload c src p.token).drop 2))), ?_, ?_, fun port => ?_⟩
  · have two := Encoder.two_le_length_flowPayload c src p.token
    rw [Encoder.length_udp h hp]
    simp only [List.length_append, length_octets16, List.length_drop, Udp.headerSize]
    omega
  · rw [layout]
    rfl
  · rw [layout]
    rfl

/-- The checksum that was sent and the one that is seen differ by what the NAT has rewritten. -/
theorem translatedChecksum_mod (hb : c.Bounds) (hc : (FlowPlan.ofConfig c).carrier = .udpChecksum)
    (hs : src.family = c.target.family) (hf : from_.family = src.family) {flow : UInt16}
    {round : UInt32} {ttl : UInt8}
    (h : (Encoder.ofConfig c (.ofConfig c) src).encode flow round ttl = some p)
    (ht : 0 < ttl.toNat ∧ ttl.toNat ≤ 64) (hshort : p.Short) (port : UInt16) :
    ((p.translatedChecksum from_ port).toNat + port.toNat + Checksum.total from_.octets) % 65535 =
      (p.token.toNat + p.key.toNat + Checksum.total src.octets) % 65535 := by
  have hp := FlowPlan.protocol_of_checksum hc
  have probe := Encoder.isProbe_of_encode h
  have whole := Encoder.sealed_of_encode hb hs h ht hshort
  rw [probe.protocol_eq, Encoder.pseudoHeader_eq probe (by simp [hp]), hp] at whole
  obtain ⟨rest, length, blank, renamed⟩ := exists_rest h hp
  have hroom : rest.length + 42 < 131072 := by
    unfold EncodedProbe.Short at hshort
    omega
  -- Both datagrams are a pseudo-header, a source number and the same rest, so that one equation
  -- serves for what was sent and for what is seen.
  obtain ⟨n, sums⟩ := exists_sum_of_source c.target p.transport.length hroom
  have token : p.token = Protocol.udp.writes (Checksum.checksum (Checksum.pseudoHeader src c.target
      Udp.protocol p.transport.length ++ (octets16 p.key ++ rest))) := by
    rw [← blank]
    exact (Encoder.hasAt_token h hc).word16_eq whole.stored
  have seen : p.translatedChecksum from_ port = Protocol.udp.writes (Checksum.checksum
      (Checksum.pseudoHeader from_ c.target Udp.protocol p.transport.length ++
        (octets16 port ++ rest))) := by
    rw [EncodedProbe.translatedChecksum, renamed, probe.dst_eq,
      Checksum.checksumWith_pseudoHeaderSum (hf.trans hs)]
  have sent := sums src p.key
  have changed := sums from_ port
  rw [← token] at sent
  rw [← seen] at changed
  omega

/-- Undoing the changes of source address and source number takes off what they added. -/
theorem sentChecksum_mod (seen port sentPort : UInt16) {quoted : QuotedProbe}
    (hq : quoted.src = from_) (hf : from_.family = src.family) :
    ((sentChecksum seen port ((ofConfig c src).changedSource quoted) sentPort).toNat +
        sentPort.toNat + Checksum.total src.octets) % 65535 =
      (seen.toNat + port.toNat + Checksum.total from_.octets) % 65535 := by
  have first := (Checksum.adjusts_undoPatch seen (by simp : (octets16 port).length % 2 = 0)
    (by simp : (octets16 sentPort).length + (octets16 port).length < 131072)).moved
  rw [Checksum.total_octets16, Checksum.total_octets16] at first
  -- The address is undone only if it was changed; otherwise its two totals cancel.
  by_cases hsame : src = from_
  · have unchanged : (ofConfig c src).changedSource quoted = none := by
      simp [changedSource, ofConfig, hq, hsame]
    rw [unchanged, sentChecksum, hsame]
    omega
  · have changed : (ofConfig c src).changedSource quoted = some (src.octets, from_.octets) := by
      simp [changedSource, ofConfig, hq, hsame, hf]
    have hsmall (a : Address) : a.octets.length ≤ 16 := by cases a <;> simp
    have hshort : src.octets.length + from_.octets.length < 131072 :=
      Nat.lt_of_le_of_lt (Nat.add_le_add (hsmall src) (hsmall from_)) (by decide)
    have second := (Checksum.adjusts_undoPatch
      (Checksum.undoPatch seen (octets16 sentPort) (octets16 port))
      (Checksum.length_octets_mod from_) hshort).moved
    rw [changed, sentChecksum]
    omega

/-- Undoing what a NAT has rewritten leads, on every flow, to the sum of the probe's own token and
flow. -/
theorem leadsTo_of_quotesTranslated (hb : c.Bounds)
    (hc : (FlowPlan.ofConfig c).carrier = .udpChecksum) (hs : src.family = c.target.family)
    (hf : from_.family = src.family) {flow : UInt16} {round : UInt32} {ttl : UInt8}
    (h : (Encoder.ofConfig c (.ofConfig c) src).encode flow round ttl = some p)
    (ht : 0 < ttl.toNat ∧ ttl.toNat ≤ 64) (hshort : p.Short)
    (hr : r.QuotesTranslated p from_ port) :
    LeadsTo c src r (p.token.toNat + flow.toNat) := by
  obtain ⟨left, hquoted⟩ := hr.quoted
  have probe := Encoder.isProbe_of_encode h
  have token := probe.toNat_token (by rw [hc]; decide)
  have nonzero := p.translatedChecksum_ne_zero from_ port
  refine ⟨_, port, _, hquoted, rfl, rfl, nonzero, fun f hfl => ?_⟩
  have keys := hb.keys
  have flows := hb.flows_le
  have hpf := probe.flow_lt
  have key {g : UInt16} (hg : g.toNat < c.flows.toNat) := FlowPlan.toNat_keyBase_add hb hg
  have seen := translatedChecksum_mod hb hc hs hf h ht hshort port
  have source : (p.translatedQuote left from_ port).src = from_ := rfl
  have sent := sentChecksum_mod (c := c) (p.translatedChecksum from_ port) port (c.keyBase + f)
    source hf
  have lt := (sentChecksum (p.translatedChecksum from_ port) port
    ((ofConfig c src).changedSource (p.translatedQuote left from_ port)) (c.keyBase + f)).toNat_lt
  rw [probe.key_eq, key hpf] at seen
  rw [key hfl] at sent
  omega

/-- The evidence of a NAT in the quote. -/
theorem find_translatedQuote {flow : UInt16} {round : UInt32} {ttl : UInt8}
    (h : (Encoder.ofConfig c (.ofConfig c) src).encode flow round ttl = some p)
    (hc : (FlowPlan.ofConfig c).carrier = .udpChecksum) (left : UInt8) :
    ((FieldChange.find c.target p.expected (p.translatedQuote left from_ port)).or
      (some (.checksum p.token (p.translatedChecksum from_ port)))) =
        some (translation p from_ port) := by
  have hp := FlowPlan.protocol_of_checksum hc
  have probe := Encoder.isProbe_of_encode h
  have sentPort : p.expected.srcPort = some p.key := by
    rw [probe.key_eq]
    exact probe.srcPort_eq (by rw [hp]; decide)
  have seenPort : (p.translatedQuote left from_ port).srcPort = some port := rfl
  have identifier : differing p.expected.identifier (p.translatedQuote left from_ port).identifier =
      none := differing_self _
  have target : (p.translatedQuote left from_ port).dst = c.target := probe.dst_eq
  unfold FieldChange.find translation
  simp only [sentPort, seenPort, identifier, probe.checksum_eq hc, target, if_true]
  by_cases hsame : port = p.key
  · simp [differing, hsame]
  · simp [differing, hsame, Ne.symm hsame]

end Undo

/-! ## Recovery -/

section Recovery

variable {c : Config} {src : Address} {o : Outstanding} {r : Response} {now : Instant}
  {q : PendingProbe} {p : EncodedProbe} {from_ : Address} {port : UInt16}

/-- A NAT leaves the destination as it is. -/
theorem aimedAtTarget_of_quotesTranslated {flow : UInt16} {round : UInt32} {ttl : UInt8}
    (h : (Encoder.ofConfig c (.ofConfig c) src).encode flow round ttl = some p)
    (hr : r.QuotesTranslated p from_ port) : (ofConfig c src).aimedAtTarget r = true := by
  obtain ⟨left, quoted⟩ := hr.quoted
  have target : (p.translatedQuote left from_ port).dst = c.target :=
    (Encoder.isProbe_of_encode h).dst_eq
  simp [aimedAtTarget, quoted, ofConfig, target]

/-- An error that quotes a probe as a NAT has rewritten it resolves the probe, and nothing else. The
source address is one of the target's family, and no carry is lost from the checksum. -/
theorem recovers_translated (h : Translated c src o r now q p from_ port)
    (hs : src.family = c.target.family) (hshort : p.Short) :
    (ofConfig c src).Recovers o r now q (translation p from_ port) := by
  have hb := Config.bounds_of_check h.checked
  have hc := FlowPlan.carrier_of_paris h.udp h.paris
  obtain ⟨-, ttl_pos, ttl_le, e, sent, token, expected⟩ := h.ofRound.probe q h.waits
  obtain rfl : p = e := Option.some.inj (h.sent.symm.trans sent)
  obtain ⟨left, quoted⟩ := h.quotes.quoted
  have named : (ofConfig c src).removeNamed o r = none :=
    removeNamed_of_fresh h.ofRound.wf (h.quotes.token ▸ h.fresh)
  have leads := leadsTo_of_quotesTranslated hb hc hs h.family h.sent ⟨ttl_pos, ttl_le⟩ hshort
    h.quotes
  have owners := patchOwners_eq_singleton hb hc h.ofRound leads h.waits (by rw [token])
  obtain ⟨o', removed⟩ := h.ofRound.wf.exists_remove h.waits
  have aimed := aimedAtTarget_of_quotesTranslated h.sent h.quotes
  have claim : (ofConfig c src).claim? o r = some ⟨q, true, o'⟩ := by
    simp [claim?, named, aimed, removePatched, owners, removed]
  have evidence :
      (ofConfig c src).fieldChange ⟨q, true, o'⟩ r = some (translation p from_ port) := by
    rw [← find_translatedQuote h.sent hc left]
    simp [fieldChange, quoted, expected, token, ofConfig, EncodedProbe.translatedQuote]
  exact recovers_of_claim h.ofRound.wf claim evidence h.timely

/-- The address of a host behind a NAT. -/
def insideAddress : Address := .ofOctets4 10 0 0 100

/-- A session with a high source number. -/
def highPortConfig : Config :=
  { Config.standard (.ofOctets4 10 0 0 1) .udp 7 with
    srcPortBase := 65000
    dstPort := 80 }

/-- A NAT rewrites the source number of a probe. -/
theorem recovers_translated_highPortConfig :
    ∃ p, (Encoder.ofConfig highPortConfig (.ofConfig highPortConfig) insideAddress).encode 0 0 10 =
        some p ∧
      (ofConfig highPortConfig insideAddress).Recovers (.lone p.pending)
        (p.translatedError (.ofOctets4 10 9 9 1) insideAddress 1024) ⟨0⟩ p.pending
        (.srcPort 65000 1024) := by
  obtain ⟨p, h⟩ := Encoder.exists_encode highPortConfig insideAddress
    (by decide : (0 : UInt16).toNat < highPortConfig.flows.toNat) 0 10
  have token : p.token = 2560 := (Encoder.isProbe_of_encode h).token_eq
  have key : p.key = 65000 := (Encoder.isProbe_of_encode h).key_eq
  have seen : some 1001 = some (p.translatedChecksum insideAddress 1024) :=
    Eq.trans (by decide +kernel) (congrArg (Option.map (·.translatedChecksum insideAddress 1024)) h)
  have hfresh : p.token ≠ p.translatedChecksum insideAddress 1024 := by
    rw [token, ← Option.some.inj seen]
    decide
  have hshort : p.Short := (Encoder.fits_of_payloadSize h (by decide)).short
  have recovers := recovers_translated (translated_lone rfl rfl rfl rfl h (by decide) rfl hfresh
    (.ofOctets4 10 9 9 1)) rfl hshort
  rw [translation, key] at recovers
  exact ⟨p, h, recovers⟩

/-- Where undoing what the NAT has rewritten does not lead to the token, the error resolves
nothing. -/
theorem not_recovers_lone {responder : Address} (one : c.flows = 1)
    (t : Translated c src (.lone p.pending) (p.translatedError responder from_ port) ⟨0⟩ p.pending p
      from_ port)
    (lost : sentChecksum (p.translatedChecksum from_ port) port
      ((ofConfig c src).changedSource (p.translatedQuote 1 from_ port)) c.keyBase ≠ p.token)
    (nat : FieldChange) :
    ¬ (ofConfig c src).Recovers (.lone p.pending) (p.translatedError responder from_ port) ⟨0⟩
      p.pending nat := by
  have hc := FlowPlan.carrier_of_paris t.udp t.paris
  have named : (ofConfig c src).removeNamed (.lone p.pending)
      (p.translatedError responder from_ port) = none :=
    removeNamed_of_fresh t.ofRound.wf (t.quotes.token ▸ t.fresh)
  have owners : (ofConfig c src).patchOwners (.lone p.pending)
      (p.translatedError responder from_ port) = [] := by
    rw [patchOwners_eq hc rfl rfl rfl (p.translatedChecksum_ne_zero from_ port), one]
    refine List.filterMap_eq_nil_iff.mpr fun f hf => if_neg fun hcon => ?_
    obtain rfl : f = 0 := by simpa using hf
    obtain ⟨x, hx, -, token⟩ := t.ofRound.wf.contains_iff.mp hcon
    obtain rfl : x = p.pending := by simpa [Outstanding.lone, Outstanding.waiting] using hx
    rw [UInt16.add_zero] at token
    exact lost token.symm
  rintro ⟨o', heard, -⟩
  simp [correlate, claim?, named, removePatched, owners] at heard

end Recovery

end Correlator

/-! ## Carries that are lost -/

namespace Packet

/-- The filling repeats after 256 bytes. -/
theorem filler_add (n : Nat) : filler (256 + n) = filler 256 ++ filler n := by
  simp only [filler, List.range_add, List.map_append, List.map_map]
  refine congrArg _ (List.map_congr_left fun i _ => ?_)
  rw [Function.comp_apply, ← UInt8.toNat_inj, UInt8.toNat_ofNat', UInt8.toNat_ofNat']
  omega

theorem total_filler (k : Nat) : Checksum.total (filler (256 * k)) = 4177920 * k := by
  induction k with
  | zero => rfl
  | succ k ih =>
    have first : Checksum.total (filler 256) = 4177920 := by decide +kernel
    rw [Nat.mul_succ, Nat.add_comm, filler_add, Checksum.total_append (by simp), ih, first]
    omega

theorem Udp.overwrite_layout (src dst sum spare other : UInt16) (body : Bytes) :
    ((layout src dst body sum spare).overwrite 0 (octets16 other)).overwrite 6 (octets16 0) =
      layout other dst body 0 spare := rfl

theorem Udp.datagram_some_fst (src dst wished : UInt16) (body : Bytes) (from_ to_ : Address) :
    (datagram src dst body from_ to_ (some wished)).1 =
      layout src dst body wished (Checksum.compensate
        (Checksum.checksumWith (layout src dst body 0 0)
          (Checksum.pseudoHeaderSum from_ to_ protocol (headerSize + body.length))) wished) := rfl

theorem Udp.total_layout (src dst sum spare : UInt16) (size : Nat) :
    Checksum.total (layout src dst (payload size) sum spare) =
      src.toNat + dst.toNat + (UInt16.ofNat (headerSize + Nat.max size minPayload)).toNat +
        sum.toNat + spare.toNat + 39075 +
        Checksum.total (filler (Nat.max size minPayload - 6)) := by
  have split : layout src dst (payload size) sum spare =
      octets16 src ++ (octets16 dst ++ (octets16 (UInt16.ofNat (headerSize +
        (payload size).length)) ++ (octets16 sum ++ (octets16 spare ++ (magic ++
          filler (Nat.max size minPayload - 6)))))) := rfl
  have mark : Checksum.total magic = 39075 := rfl
  rw [split, Checksum.total_append (by simp), Checksum.total_append (by simp),
    Checksum.total_append (by simp), Checksum.total_append (by simp),
    Checksum.total_append (by simp), Checksum.total_append (by decide), mark, length_payload]
  simp only [Checksum.total_octets16]
  omega

end Packet

namespace Correlator

/-- A session whose datagrams are so long that the sum of their words exceeds 32 bits. -/
def overlongConfig : Config :=
  { Config.standard (.ofOctets4 10 0 0 1) .udp 7 with
    srcPortBase := 65000
    dstPort := 80
    payloadSize := 263174 }

/-- The checksum of an overlong datagram, with the spare word given. -/
theorem toNat_checksum_overlong (src spare : UInt16) :
    (Checksum.checksumWith (Udp.layout src 80 (Udp.payload 263174) 0 spare)
      (Checksum.pseudoHeaderSum insideAddress overlongConfig.target Udp.protocol
        (Udp.headerSize + (Udp.payload 263174).length))).toNat =
      65535 - Checksum.carry (Checksum.carry
        ((src.toNat + spare.toNat + 4294948229) % 4294967296)) := by
  have size : Nat.max 263174 Udp.minPayload = 263174 := rfl
  have length : (UInt16.ofNat (Udp.headerSize + 263174)).toNat = 1038 := by decide
  have pseudo : (Checksum.pseudoHeaderSum insideAddress overlongConfig.target Udp.protocol
      (Udp.headerSize + 263174)).toNat = 6276 := by decide
  have filling := total_filler 1028
  simp only [Nat.reduceMul] at filling
  have total : 6276 + Checksum.total (Udp.layout src 80 (Udp.payload 263174) 0 spare) =
      src.toNat + spare.toNat + 4294948229 := by
    rw [Udp.total_layout, size, length, filling]
    show 6276 + (src.toNat + 80 + 1038 + 0 + spare.toNat + 39075 + 4294901760) = _
    omega
  rw [Checksum.toNat_checksumWith, Udp.length_payload, size, pseudo, total]

theorem flowPayload_overlong (token : UInt16) :
    Encoder.flowPayload overlongConfig insideAddress token = Udp.payload 263174 := by
  have size : (Encoder.ofConfig overlongConfig (.ofConfig overlongConfig)
      insideAddress).udpPayloadSize (FlowPlan.ofConfig overlongConfig).carrier token = 263174 := rfl
  rw [Encoder.flowPayload, size]

/-- What a NAT that rewrites the source number of an overlong datagram makes of its checksum. -/
theorem translatedChecksum_overlong {p : EncodedProbe}
    (h : (Encoder.ofConfig overlongConfig (.ofConfig overlongConfig) insideAddress).encode 0 0 10 =
      some p) : p.translatedChecksum insideAddress 1024 = 1000 := by
  have token : p.token = 2560 := (Encoder.isProbe_of_encode h).token_eq
  have natural : Checksum.checksumWith (Udp.layout 65000 80 (Udp.payload 263174) 0 0)
      (Checksum.pseudoHeaderSum insideAddress overlongConfig.target Udp.protocol
        (Udp.headerSize + (Udp.payload 263174).length)) = 19602 :=
    UInt16.toNat_inj.mp ((toNat_checksum_overlong 65000 0).trans (by decide))
  have transport : p.transport = Udp.layout 65000 80 (Udp.payload 263174) 2560
      (Checksum.compensate 19602 2560) := by
    rw [(Encoder.udp_of_encode h rfl).1, token, Encoder.flowDatagram, flowPayload_overlong,
      ← natural]
    exact Udp.datagram_some_fst ..
  have seen : Checksum.checksumWith (Udp.layout 1024 80 (Udp.payload 263174) 0 17042)
      (Checksum.pseudoHeaderSum insideAddress overlongConfig.target Udp.protocol
        (Udp.headerSize + (Udp.payload 263174).length)) = 1000 :=
    UInt16.toNat_inj.mp ((toNat_checksum_overlong 1024 17042).trans (by decide))
  have spare : Checksum.compensate 19602 2560 = 17042 := by decide
  have length : p.transport.length = Udp.headerSize + (Udp.payload 263174).length := by
    rw [Encoder.length_udp h rfl, flowPayload_overlong]
  have dst : p.dst = overlongConfig.target := (Encoder.isProbe_of_encode h).dst_eq
  have renamed : (p.transport.overwrite 0 (octets16 1024)).overwrite 6 (octets16 0) =
      Udp.layout 1024 80 (Udp.payload 263174) 0 17042 := by
    rw [transport, spare, Udp.overwrite_layout]
  rw [EncodedProbe.translatedChecksum, renamed, length, dst, seen]
  decide

/-- A session whose target is of another family than the host. -/
def mixedConfig : Config :=
  Config.standard (.v6 #v[0x20, 1, 0x0d, 0xb8, 0, 0, 0, 0, 0, 0, 0, 0, 0, 0, 0, 1]) .udp 7

/-- The address of a NAT. -/
def outsideAddress : Address := .ofOctets4 203 0 113 7

/-- Without bounds on lengths and families there are probes that are not recovered: one whose sum
exceeds 32 bits as it is sent and not as it is seen, and one whose checksum covers no addresses. -/
theorem not_recovered_everywhere :
    (∃ p o r now q, insideAddress.family = overlongConfig.target.family ∧
      Translated overlongConfig insideAddress o r now q p insideAddress 1024 ∧
      ¬ (ofConfig overlongConfig insideAddress).Recovers o r now q
        (translation p insideAddress 1024)) ∧
    ∃ p o r now q, p.Short ∧
      Translated mixedConfig insideAddress o r now q p outsideAddress 61000 ∧
      ¬ (ofConfig mixedConfig insideAddress).Recovers o r now q
        (translation p outsideAddress 61000) := by
  constructor
  -- A sum that exceeds 32 bits loses its carry.
  · obtain ⟨p, h⟩ := Encoder.exists_encode overlongConfig insideAddress
      (by decide : (0 : UInt16).toNat < overlongConfig.flows.toNat) 0 10
    have token : p.token = 2560 := (Encoder.isProbe_of_encode h).token_eq
    have seen := translatedChecksum_overlong h
    have hfresh : p.token ≠ p.translatedChecksum insideAddress 1024 := by
      rw [token, seen]
      decide
    have setting := translated_lone rfl rfl rfl rfl h (by decide) rfl hfresh (.ofOctets4 10 9 9 1)
    have source : (ofConfig overlongConfig insideAddress).changedSource
        (p.translatedQuote 1 insideAddress 1024) = none := rfl
    have lost : sentChecksum (p.translatedChecksum insideAddress 1024) 1024
        ((ofConfig overlongConfig insideAddress).changedSource
          (p.translatedQuote 1 insideAddress 1024)) overlongConfig.keyBase ≠ p.token := by
      rw [token, seen, source]
      decide
    exact ⟨p, _, _, _, _, rfl, setting, not_recovers_lone rfl setting lost _⟩
  -- Where the families differ the checksum covers no address, and yet the change of the address is
  -- undone.
  · obtain ⟨p, h⟩ := Encoder.exists_encode mixedConfig insideAddress
      (by decide : (0 : UInt16).toNat < mixedConfig.flows.toNat) 0 10
    have token : p.token = 2560 := (Encoder.isProbe_of_encode h).token_eq
    have seen : some 57095 = some (p.translatedChecksum outsideAddress 61000) :=
      Eq.trans (by decide +kernel)
        (congrArg (Option.map (·.translatedChecksum outsideAddress 61000)) h)
    have seen := (Option.some.inj seen).symm
    have hfresh : p.token ≠ p.translatedChecksum outsideAddress 61000 := by
      rw [token, seen]
      decide
    have checked : mixedConfig.check = .ok () := by decide
    have family : outsideAddress.family = insideAddress.family := rfl
    have setting := translated_lone checked rfl rfl rfl h (by decide) family hfresh
      (.ofOctets4 10 9 9 1)
    have source : (ofConfig mixedConfig insideAddress).changedSource
        (p.translatedQuote 1 outsideAddress 61000) =
          some (insideAddress.octets, outsideAddress.octets) := rfl
    have lost : sentChecksum (p.translatedChecksum outsideAddress 61000) 61000
        ((ofConfig mixedConfig insideAddress).changedSource
          (p.translatedQuote 1 outsideAddress 61000)) mixedConfig.keyBase ≠ p.token := by
      rw [token, seen, source]
      decide
    have hshort : p.Short := (Encoder.fits_of_payloadSize h (by decide)).short
    exact ⟨p, _, _, _, _, hshort, setting, not_recovers_lone rfl setting lost _⟩

end Correlator

end FlowTrace
