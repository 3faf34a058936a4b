import FlowTrace.Proofs.Response.Error

/-!
# Label stacks of routers

A router that switches by labels adds the stack of the dropped packet to its error, behind the
quoted datagram, which it pads with zeros so that the length field can tell where the stack starts.

- **Labelled errors** (`LabelledError`): the error, the quote and the label stack. Such an error can
  be given a valid checksum (`LabelledError.verify_message`).
- **Main result** (`decode_labelled_of_encode`): it is decoded as a reply to the probe that it
  quotes, with the labels up to the first one that is marked as the last.
-/

namespace FlowTrace

open Packet

namespace IcmpError

variable {family : Family} {e : IcmpError family} {n : Nat}

/-- The length of the quoted datagram, where an error can tell it: 128 if its length field is
zero. -/
def quotedLength? (e : IcmpError family) : Option Nat :=
  e.length?.map fun length => if length = 0 then 128 else length.toNat * lengthUnit family

/-- Extensions are looked for behind the length that is told. -/
theorem extensions_of_quotedLength? (told : e.quotedLength? = some n) (payload : Bytes) :
    ∃ length, Extensions.startOf length (lengthUnit family) = n ∧
      e.extensions payload = Extensions.parse payload length (lengthUnit family) := by
  obtain ⟨length, field, rfl⟩ := Option.map_eq_some_iff.mp told
  exact ⟨length, Extensions.startOf_eq length _, by rw [extensions, field]⟩

/-- A byte cannot tell more. -/
theorem quotedLength?_le (told : e.quotedLength? = some n) : n ≤ 2040 := by
  obtain ⟨length, -, rfl⟩ := Option.map_eq_some_iff.mp told
  have byte := length.toNat_lt
  cases family <;> simp only [lengthUnit] <;> split <;> omega

end IcmpError

/-- An error that quotes the beginning of a probe, padded with zeros up to the length that the error
tells, in front of a label stack. -/
structure LabelledError (family : Family) (p : EncodedProbe) where
  error : IcmpError family
  header : QuotedHeader family
  /-- What is quoted of the datagram. -/
  front : Bytes
  /-- The number of zeros behind it. -/
  padding : Nat
  stack : LabelStack
  cut : front <+: p.transport
  enough : 8 ≤ front.length
  identified : ∀ id ∈ p.ipId, header.identification = some id
  long : 128 ≤ (header.bytes (p.protocol.number family)).length + front.length + padding
  told : error.quotedLength? =
    some ((header.bytes (p.protocol.number family)).length + front.length + padding)

namespace LabelledError

variable {family : Family} {p : EncodedProbe} (m : LabelledError family p)

/-- What follows the quoted part of the datagram. -/
def after : Bytes := List.replicate m.padding 0 ++ mplsExtension m.stack.labels

/-- The message with a checksum. -/
def message (checksum : UInt16) : Bytes :=
  m.error.quoting checksum m.header p.protocol m.front m.after

/-- The labels are found behind the padding. -/
theorem extensions_eq :
    m.error.extensions (m.header.bytes (p.protocol.number family) ++ (m.front ++ m.after)) =
      .ok (some ⟨[.mpls (throughBottom m.stack.labels)]⟩) := by
  let quoted := m.header.bytes (p.protocol.number family) ++ m.front ++ List.replicate m.padding 0
  have size : quoted.length =
      (m.header.bytes (p.protocol.number family)).length + m.front.length + m.padding := by
    simp only [quoted, List.length_append, List.length_replicate]
  have payload : m.header.bytes (p.protocol.number family) ++ (m.front ++ m.after) =
      quoted ++ mplsExtension m.stack.labels := by
    simp [quoted, after]
  obtain ⟨length, start, parsed⟩ :=
    IcmpError.extensions_of_quotedLength? m.told (quoted ++ mplsExtension m.stack.labels)
  rw [payload, parsed]
  exact Extensions.parse_mplsExtension m.stack (start.trans size.symm) (size ▸ m.long)

/-- A labelled error that is given its checksum is valid. -/
theorem verify_message : Checksum.verify (m.message (Checksum.checksum (m.message 0))) = true := by
  have quoted := IcmpError.quotedLength?_le m.told
  have few := m.stack.few
  refine m.error.verify_message _ ?_
  rw [List.length_append, List.length_append, after, List.length_append, List.length_replicate,
    mplsExtension, length_mplsLayout]
  omega

end LabelledError

namespace Decoder

variable {c : Config} {flow : UInt16}

/-- A labelled error is decoded as a reply to the probe that it quotes, with the labels up to the
first one that is marked as the last. -/
theorem decode_labelled_of_encode (hroom : c.payloadSize + 263 + 20 ≤ 65535)
    (hf : flow.toNat < c.flows.toNat) (src : Address) (round : UInt32) (ttl : UInt8) :
    ∃ p fields, (Encoder.ofConfig c (.ofConfig c) src).encode flow round ttl = some p ∧
      (FlowPlan.ofConfig c).get? flow = some fields ∧
      ∀ (m : LabelledError c.target.family p) (checksum : UInt16) (responder : Address),
        (c.target.family = .ipv4 → Checksum.verify (m.message checksum) = true) →
        responder.family = c.target.family →
        ∃ r : Response, r.responder = responder ∧ r.kind = m.error.kind ∧
          r.flowKey = fields.key ∧ r.token = p.token ∧
          r.mplsLabels = some (throughBottom m.stack.labels) ∧
          (ofConfig c (FlowPlan.ofConfig c).carrier).decode (m.message checksum) responder
            .icmpMessage = .ok (some r) ∧
          (c.target.family = .ipv4 → ∀ outer : Ipv4Header,
            (ofConfig c (FlowPlan.ofConfig c).carrier).decode
              (outer.bytes Icmp.protocolV4 ++ m.message checksum) responder .ipv4Packet =
                .ok (some r)) := by
  obtain ⟨p, h⟩ := Encoder.exists_encode c src hf round ttl
  have fits := Encoder.fits_of_payloadSize h (by omega)
  refine ⟨p, _, h, (FlowPlan.get?_ofConfig c flow).trans (if_pos hf), ?_⟩
  intro m checksum responder hvalid hr
  have found := quotedProbe_of_encode h fits (q := m.header.packet _ _) rfl m.identified m.cut
    m.enough (rfl : _ = m.front ++ m.after)
  have read := decode_quoting_extensions m.error checksum hvalid found m.extensions_eq hr
  rw [FlowPlan.key_fieldsOf, ← (Encoder.isProbe_of_encode h).key_eq]
  exact ⟨_, rfl, rfl, rfl, rfl, rfl, read⟩

/-- Three labels, the second one marked as the last. -/
def threeLabels : LabelStack where
  labels := [⟨16000, 0, false, 64⟩, ⟨1042, 5, true, 1⟩, ⟨7, 0, false, 9⟩]
  filled := by decide
  few := by decide
  fits l hl := by
    simp only [List.mem_cons, List.not_mem_nil, or_false] at hl
    obtain rfl | rfl | rfl := hl <;> exact ⟨by decide, by decide⟩

/-- A router quotes eight bytes of a probe, padded to 128, and adds three labels. Two are read. -/
theorem decode_labelled_identifiedConfig :
    ∃ p r message, (Encoder.ofConfig identifiedConfig (.ofConfig identifiedConfig)
        (.ofOctets4 10 0 0 1)).encode 0 0 5 = some p ∧
      (ofConfig identifiedConfig .ipIdentification).decode message (.ofOctets4 10 9 9 1)
        .icmpMessage = .ok (some r) ∧
      r.flowKey = 50000 ∧ r.token = p.token ∧
      r.mplsLabels = some [⟨16000, 0, false, 64⟩, ⟨1042, 5, true, 1⟩] := by
  obtain ⟨p, fields, h, flow, decodes⟩ :=
    @decode_labelled_of_encode identifiedConfig 0 (by decide) (by decide) (.ofOctets4 10 0 0 1) 0 5
  have id : some (some 0x0500) = some p.ipId := congrArg (Option.map EncodedProbe.ipId) h
  have hlong : 8 ≤ p.transport.length := by
    rw [Encoder.length_udp h rfl]
    exact Nat.le_add_right ..
  have front : (p.transport.take 8).length = 8 := by
    rw [List.length_take]
    omega
  have size : ((QuotedHeader.v4 translatedHeader).bytes (p.protocol.number .ipv4)).length +
      (p.transport.take 8).length + 96 = 128 := by
    rw [front]
    simp [QuotedHeader.bytes, translatedHeader]
  let m : LabelledError .ipv4 p :=
    { error := .timeExceeded 0 0x00200000
      header := .v4 translatedHeader
      front := p.transport.take 8
      padding := 96
      stack := threeLabels
      cut := List.take_prefix 8 _
      enough := Nat.le_of_eq front.symm
      identified := by
        rw [← Option.some.inj id]
        exact fun i hi => hi
      long := Nat.le_of_eq size.symm
      told := by
        rw [size]
        rfl }
  obtain ⟨r, -, -, key, token, labels, bare, -⟩ :=
    decodes m _ (.ofOctets4 10 9 9 1) (fun _ => m.verify_message) rfl
  exact ⟨p, r, _, h, bare, key.trans (by cases flow; rfl), token, labels⟩

end Decoder

end FlowTrace
