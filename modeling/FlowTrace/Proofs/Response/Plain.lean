import FlowTrace.Proofs.Response.Error

/-!
# Errors without extensions

Where an error tells no length, extensions are looked for at byte 128 of its payload. If the router
added none, a long quote has bytes of the probe there.

- **Filling** (`Encoder.getElem?_transport`): what fills the payload of a probe counts upwards, so a
  byte of the datagram tells its own place.
- **No version** (`Extensions.parse_of_version`): only a structure of version 2 is read, and the
  byte that is looked at is none (`Encoder.version_quoted`).
- **Main result** (`decode_plain_of_encode`): an error that only quotes a probe, whole or cut, is
  decoded without extensions.
-/

namespace FlowTrace

open Packet

namespace Packet

/-! ## Filling -/

/-- The filling tells the place of each of its bytes. -/
theorem eq_of_getElem?_filler {n i : Nat} {b : UInt8} (h : (filler n)[i]? = some b) :
    b = UInt8.ofNat i := by
  rw [filler, List.getElem?_map, Option.map_eq_some_iff] at h
  obtain ⟨j, found, rfl⟩ := h
  obtain ⟨_, rfl⟩ := List.getElem?_eq_some_iff.mp found
  rw [List.getElem_range]

theorem Icmp.getElem?_layout (type : UInt8) (outer identifier sequence : UInt16) (filling : Bytes)
    (sum spare : UInt16) (i : Nat) :
    (layout type outer identifier sequence filling sum spare)[i + 14]? = filling[i]? := rfl

theorem Udp.getElem?_layout (src dst : UInt16) (size : Nat) (sum spare : UInt16) (i : Nat) :
    (layout src dst (payload size) sum spare)[i + 14]? =
      (filler (Nat.max size minPayload - 6))[i]? := rfl

end Packet

namespace Encoder

variable {c : Config} {src : Address} {flow : UInt16} {round : UInt32} {ttl : UInt8}
  {p : EncodedProbe} {i : Nat} {b : UInt8}

/-- Behind twenty bytes, a byte of a probe tells its place. A SYN segment ends there. -/
theorem getElem?_transport
    (h : (Encoder.ofConfig c (.ofConfig c) src).encode flow round ttl = some p) (hi : 20 ≤ i)
    (hb : p.transport[i]? = some b) : b = UInt8.ofNat (i - 14) := by
  obtain ⟨k, rfl⟩ : ∃ k, i = k + 14 := ⟨i - 14, by omega⟩
  rw [Nat.add_sub_cancel]
  cases hp : c.protocol with
  | icmp =>
    obtain ⟨sum, spare, layout⟩ := icmp_layout h hp
    rw [layout, Icmp.getElem?_layout] at hb
    exact eq_of_getElem?_filler hb
  | udp =>
    obtain ⟨sum, spare, -, layout⟩ := udp_layout h hp
    rw [layout, flowPayload, Udp.getElem?_layout] at hb
    exact eq_of_getElem?_filler hb
  | tcp =>
    have size := length_tcp h hp
    obtain ⟨within, -⟩ := List.getElem?_eq_some_iff.mp hb
    rw [size, Tcp.headerSize] at within
    omega

/-- Byte 128 of a quote is not the first one of an extension structure: behind a header of at most
sixty bytes its upper half is between 3 and 5. -/
theorem version_quoted
    (h : (Encoder.ofConfig c (.ofConfig c) src).encode flow round ttl = some p)
    {header front : Bytes}
    (least : 20 ≤ header.length) (most : header.length ≤ 60) (cut : front <+: p.transport)
    (hb : (header ++ front)[128]? = some b) : b.toNat / 16 ≠ Extensions.version := by
  obtain ⟨rest, whole⟩ := cut
  rw [List.getElem?_append_right (by omega)] at hb
  have within : p.transport[128 - header.length]? = some b := by
    rw [← whole, List.getElem?_append_left (List.getElem?_eq_some_iff.mp hb).1, hb]
  have value := congrArg UInt8.toNat (getElem?_transport h (by omega) within)
  rw [UInt8.toNat_ofNat'] at value
  rw [Extensions.version]
  omega

end Encoder

/-! ## No version -/

/-- A payload whose byte in the place of a version is another one holds no extensions. -/
theorem Packet.Extensions.parse_of_version {payload : Bytes} {length : UInt8} {unit : Nat}
    (other : ∀ b, payload[startOf length unit]? = some b → b.toNat / 16 ≠ version) :
    parse payload length unit = .ok none := by
  unfold parse
  by_cases hroom : startOf length unit < leastQuoted ∨
      payload.length < startOf length unit + headerSize
  · exact if_pos hroom
  have within : startOf length unit < payload.length := by
    rw [headerSize] at hroom
    omega
  have first : Bytes.byteAt (payload.drop (startOf length unit)) 0 =
      .ok payload[startOf length unit] := by
    refine Bytes.byteAt_of_getElem? ?_
    rw [List.getElem?_drop, Nat.add_zero, List.getElem?_eq_getElem within]
  have unversioned := other _ (List.getElem?_eq_getElem within)
  simp only [hroom, if_false, Bytes.suffix_of_le (Nat.le_of_lt within), first, bind, Except.bind]
  exact if_pos unversioned

namespace QuotedHeader

variable {family : Family}

/-- There are no extension headers. Options of an IPv4 header are part of it. -/
def IsBare : QuotedHeader family → Prop
  | .v4 _ => True
  | .v6 _ extensions => extensions = []

theorem length_bytes_of_isBare {h : QuotedHeader family} (bare : h.IsBare) (protocol : UInt8) :
    20 ≤ (h.bytes protocol).length ∧ (h.bytes protocol).length ≤ 60 := by
  cases h with
  | v4 header =>
    have fits := header.fits
    simp only [bytes, Ipv4Header.length_bytes]
    omega
  | v6 header extensions =>
    obtain rfl : extensions = [] := bare
    simp [bytes, ExtensionHeader.chain]

end QuotedHeader

namespace Decoder

variable {c : Config} {flow : UInt16}

/-- An error whose length field is zero and that quotes a probe, whole or cut, and nothing else is
decoded without extensions. -/
theorem decode_plain_of_encode (hf : flow.toNat < c.flows.toNat) (src : Address) (round : UInt32)
    (ttl : UInt8) :
    ∃ p, (Encoder.ofConfig c (.ofConfig c) src).encode flow round ttl = some p ∧
      (p.Fits → ∀ (e : IcmpError c.target.family) (checksum : UInt16)
        (header : QuotedHeader c.target.family) (front : Bytes) (responder : Address),
        e.length? = some 0 → header.IsBare → (∀ id ∈ p.ipId, header.identification = some id) →
        front <+: p.transport → 8 ≤ front.length →
        (c.target.family = .ipv4 →
          Checksum.verify (e.quoting checksum header p.protocol front []) = true) →
        responder.family = c.target.family →
        ∃ r : Response, r.kind = e.kind ∧ r.token = p.token ∧ r.extensions = none ∧
          (ofConfig c (FlowPlan.ofConfig c).carrier).decode
            (e.quoting checksum header p.protocol front []) responder .icmpMessage =
              .ok (some r) ∧
          (c.target.family = .ipv4 → ∀ outer : Ipv4Header,
            (ofConfig c (FlowPlan.ofConfig c).carrier).decode
              (outer.bytes Icmp.protocolV4 ++ e.quoting checksum header p.protocol front [])
              responder .ipv4Packet = .ok (some r))) := by
  obtain ⟨p, h⟩ := Encoder.exists_encode c src hf round ttl
  refine ⟨p, h, ?_⟩
  intro fits e checksum header front responder untold bare identified cut hlong hvalid hr
  obtain ⟨least, most⟩ := header.length_bytes_of_isBare bare (p.protocol.number c.target.family)
  -- If there is a byte where a structure would be looked for, it is one of the probe, and it does
  -- not say version 2.
  have parsed : e.extensions (header.bytes (p.protocol.number c.target.family) ++ (front ++ [])) =
      .ok none := by
    rw [IcmpError.extensions, untold, List.append_nil]
    exact Extensions.parse_of_version fun b => Encoder.version_quoted h least most cut
  have found := quotedProbe_of_encode h fits (q := header.packet _ _) rfl identified cut hlong
    (rfl : _ = front ++ [])
  exact ⟨_, rfl, rfl, rfl, decode_quoting_extensions e checksum hvalid found parsed hr⟩

/-- A session of large UDP datagrams. -/
def largeConfig : Config :=
  { Config.standard (.ofOctets4 192 0 2 1) .udp 7 with payloadSize := 200 }

/-- A router quotes a whole probe, so that byte 128 of the payload is a byte of the probe. -/
theorem decode_plain_largeConfig :
    ∃ p r message, (Encoder.ofConfig largeConfig (.ofConfig largeConfig)
        (.ofOctets4 10 0 0 1)).encode 0 0 5 = some p ∧
      132 ≤ ((QuotedHeader.v4 translatedHeader).bytes Udp.protocol ++ p.transport).length ∧
      (ofConfig largeConfig .udpChecksum).decode message (.ofOctets4 10 9 9 1) .icmpMessage =
        .ok (some r) ∧
      r.kind = .timeExceeded 0 ∧ r.token = p.token ∧ r.extensions = none := by
  obtain ⟨p, h, decodes⟩ :=
    @decode_plain_of_encode largeConfig 0 (by decide) (.ofOctets4 10 0 0 1) 0 5
  have length : p.transport.length = 208 := by
    rw [Encoder.length_udp h rfl, Encoder.flowPayload, Udp.length_payload]
    rfl
  have unidentified : p.ipId = none := (Encoder.udp_of_encode h rfl).2.2.2.2.2
  have size : ((QuotedHeader.v4 translatedHeader).bytes (p.protocol.number .ipv4) ++
      (p.transport ++ [])).length = 232 := by
    simp [QuotedHeader.bytes, translatedHeader, length]
  obtain ⟨r, kind, token, plain, bare, -⟩ :=
    decodes (Encoder.fits_of_payloadSize h (by decide)) (.timeExceeded 0 0) _
      (.v4 translatedHeader) p.transport (.ofOctets4 10 9 9 1) rfl trivial
      (fun id hid => by rw [unidentified] at hid; cases hid) List.prefix_rfl (by omega)
      (fun _ => IcmpError.verify_message _ _ (lt_of_eq_of_lt size (by decide))) rfl
  have hlong : 132 ≤ ((QuotedHeader.v4 translatedHeader).bytes Udp.protocol ++
      p.transport).length := by
    simp [QuotedHeader.bytes, translatedHeader, length]
  exact ⟨p, r, _, h, hlong, bare, kind, token, plain⟩

end Decoder

end FlowTrace
