import FlowTrace.Proofs.Bytes
import FlowTrace.Response

/-!
# Headers on the wire

- **IPv4** (`Ipv4Header`): twenty bytes and up to forty bytes of options.
- **IPv6** (`Ipv6Header`): forty bytes, and extension headers that tell their own length
  (`ExtensionHeader.chain`).
- **Reading** (`headerLength_bytes`, `readV4_bytes`, `readV6_bytes`): a header reads back as its
  addresses, hop limit, identification and protocol, and the datagram behind it.
-/

namespace FlowTrace

/-- An IPv4 header; the protocol is that of the datagram behind it. -/
structure Ipv4Header where
  service : UInt8
  total : UInt16
  identification : UInt16
  /-- Flags and fragment offset. -/
  fragment : UInt16
  ttl : UInt8
  checksum : UInt16
  src : Vector UInt8 4
  dst : Vector UInt8 4
  options : Bytes
  /-- Options are padded to whole words of four bytes. -/
  padded : options.length % 4 = 0
  fits : options.length ≤ 40

/-- An IPv6 header; the protocol is that of what stands behind it. -/
structure Ipv6Header where
  /-- Traffic class and flow label. -/
  label : Fin 268435456
  length : UInt16
  ttl : UInt8
  src : Vector UInt8 16
  dst : Vector UInt8 16

/-- The extension headers that are stepped over. -/
inductive ExtensionKind where
  | hopByHop
  | routing
  | destination
  deriving DecidableEq, Repr

def ExtensionKind.protocol : ExtensionKind → UInt8
  | .hopByHop => 0
  | .routing => 43
  | .destination => 60

/-- An extension header. Its length counts units of eight bytes, the first one left out. -/
structure ExtensionHeader where
  kind : ExtensionKind
  units : UInt8
  body : Bytes
  whole : body.length = units.toNat * 8 + 6

/-! ## IPv4 -/

namespace Ipv4Header

/-- The first twenty bytes. -/
def fixed (h : Ipv4Header) (protocol : UInt8) : Bytes :=
  [UInt8.ofNat (0x45 + h.options.length / 4), h.service] ++ octets16 h.total
    ++ octets16 h.identification ++ octets16 h.fragment ++ [h.ttl, protocol]
    ++ octets16 h.checksum ++ h.src.toList ++ h.dst.toList

def bytes (h : Ipv4Header) (protocol : UInt8) : Bytes := h.fixed protocol ++ h.options

@[simp] theorem length_fixed (h : Ipv4Header) (protocol : UInt8) :
    (h.fixed protocol).length = 20 := by
  simp [fixed]

@[simp] theorem length_bytes (h : Ipv4Header) (protocol : UInt8) :
    (h.bytes protocol).length = 20 + h.options.length := by
  simp [bytes]

/-- The first byte holds the version and the length in words. -/
theorem toNat_first (h : Ipv4Header) :
    (UInt8.ofNat (0x45 + h.options.length / 4)).toNat = 64 + (5 + h.options.length / 4) := by
  have := h.fits
  rw [UInt8.toNat_ofNat']
  omega

/-- The length of a header is read off its first byte. -/
theorem headerLength_bytes (h : Ipv4Header) (protocol : UInt8) (rest : Bytes) :
    Packet.Ipv4.headerLength (h.bytes protocol ++ rest) = some (h.bytes protocol).length := by
  have hp := h.padded
  have hf := h.fits
  have hlong : (h.bytes protocol ++ rest).length = 20 + h.options.length + rest.length := by simp
  have split : h.bytes protocol ++ rest =
      UInt8.ofNat (0x45 + h.options.length / 4) :: (h.bytes protocol ++ rest).tail := rfl
  rw [split] at hlong ⊢
  simp only [Packet.Ipv4.headerLength, Packet.Ipv4.headerSize, toNat_first, hlong, length_bytes]
  rw [if_neg (by omega), if_pos (by omega)]
  exact congrArg some (by omega)

end Ipv4Header

theorem Address.readV4_of_hasAt {data : Bytes} {i : Nat} {o : Vector UInt8 4}
    (h : data.HasAt i o.toList) : Address.readV4 data i = .ok (.v4 o) := by
  have byte (j : Nat) (hj : j < 4) : data.byteAt (i + j) = .ok o[j] :=
    Bytes.byteAt_of_getElem? ((h.getElem? (by simpa using hj)).trans (by simp [hj]))
  have whole : o = #v[o[0], o[1], o[2], o[3]] := by
    ext j hj
    obtain rfl | rfl | rfl | rfl : j = 0 ∨ j = 1 ∨ j = 2 ∨ j = 3 := by omega
    all_goals rfl
  have first := byte 0 (by decide)
  rw [Nat.add_zero] at first
  rw [readV4, first, byte 1 (by decide), byte 2 (by decide), byte 3 (by decide)]
  exact congrArg (fun o => Except.ok (Address.v4 o)) whole.symm

namespace Ipv4Header

variable (h : Ipv4Header) (protocol : UInt8) (rest : Bytes)

theorem hasAt_src : (h.bytes protocol ++ rest).HasAt 12 h.src.toList := by
  simp [Bytes.HasAt, bytes, fixed, octets16]

theorem hasAt_dst : (h.bytes protocol ++ rest).HasAt 16 h.dst.toList := by
  simp [Bytes.HasAt, bytes, fixed, octets16]

theorem byteAt_protocol : (h.bytes protocol ++ rest).byteAt 9 = .ok protocol := rfl

theorem suffix_bytes :
    Bytes.suffix (h.bytes protocol ++ rest) (h.bytes protocol).length = .ok rest := by
  rw [Bytes.suffix_of_le (by simp), List.drop_left]

theorem readV4_bytes : QuotedPacket.readV4 (h.bytes protocol ++ rest) =
    .ok (some ⟨.v4 h.src, .v4 h.dst, h.ttl, some h.identification, protocol, rest⟩) := by
  have src := Address.readV4_of_hasAt (h.hasAt_src protocol rest)
  have dst := Address.readV4_of_hasAt (h.hasAt_dst protocol rest)
  have ttl : (h.bytes protocol ++ rest).byteAt 8 = .ok h.ttl := rfl
  have id : (h.bytes protocol ++ rest).word16At 4 = .ok h.identification :=
    congrArg Except.ok (word16_octets _)
  rw [QuotedPacket.readV4, headerLength_bytes]
  simp only [src, dst, ttl, id, byteAt_protocol, suffix_bytes]
  rfl

/-- Behind an IPv4 header stands an ICMP message or a TCP segment. -/
theorem decode_bytes (d : Decoder) (responder : Address) :
    d.decode (h.bytes protocol ++ rest) responder .ipv4Packet =
      if protocol = Packet.Icmp.protocolV4 then d.icmpV4 rest responder
      else if protocol = Packet.Tcp.protocol then d.tcpReply rest responder
      else .ok none := by
  simp only [Decoder.decode, headerLength_bytes, byteAt_protocol, suffix_bytes]
  rfl

end Ipv4Header

/-! ## IPv6 -/

namespace ExtensionHeader

/-- The protocol number in front of some extension headers and a datagram. -/
def first : List ExtensionHeader → UInt8 → UInt8
  | [], protocol => protocol
  | h :: _, _ => h.kind.protocol

/-- Extension headers, each with the number of what follows it. -/
def chain : List ExtensionHeader → UInt8 → Bytes
  | [], _ => []
  | h :: hs, protocol => [first hs protocol, h.units] ++ h.body ++ chain hs protocol

theorem isWalkable_protocol (kind : ExtensionKind) :
    QuotedPacket.isWalkable kind.protocol = true := by
  cases kind <;> rfl

/-- The walk ends behind the last extension header. -/
theorem walkHeaders_chain (hs : List ExtensionHeader) {protocol : UInt8}
    (stops : QuotedPacket.isWalkable protocol = false) (before rest : Bytes) :
    QuotedPacket.walkHeaders (before ++ (chain hs protocol ++ rest)) (first hs protocol)
        before.length =
      .ok (some (protocol, before.length + (chain hs protocol).length)) := by
  -- By induction on the headers; what has been walked over is `before`, which grows by one header.
  induction hs generalizing before with
  | nil =>
    rw [QuotedPacket.walkHeaders, first, stops]
    rfl
  | cons h hs ih =>
    have size := h.whole
    have here : chain (h :: hs) protocol ++ rest =
      ([first hs protocol, h.units] ++ h.body) ++ (chain hs protocol ++ rest) := by simp [chain]
    have next : (before ++ (chain (h :: hs) protocol ++ rest)).byteAt before.length =
        .ok (first hs protocol) := by
      simp [Bytes.byteAt, chain]
    have units : (before ++ (chain (h :: hs) protocol ++ rest)).byteAt (before.length + 1) =
        .ok h.units := by
      simp [Bytes.byteAt, chain]
    have step := ih (before ++ ([first hs protocol, h.units] ++ h.body))
    have offset : (before ++ ([first hs protocol, h.units] ++ h.body)).length =
        before.length + (h.units.toNat + 1) * 8 := by
      simp only [List.length_append, List.length_cons, List.length_nil, size]
      omega
    have bytes : before ++ ([first hs protocol, h.units] ++ h.body) ++
        (chain hs protocol ++ rest) = before ++ (chain (h :: hs) protocol ++ rest) := by
      simp [chain]
    have length : before.length + (chain (h :: hs) protocol).length =
        before.length + (h.units.toNat + 1) * 8 + (chain hs protocol).length := by
      simp only [chain, List.length_append, List.length_cons, List.length_nil, size]
      omega
    rw [bytes, offset] at step
    rw [QuotedPacket.walkHeaders, first, isWalkable_protocol, if_pos rfl,
      dif_neg (by simp [chain]), next, units, length]
    exact step

end ExtensionHeader

namespace Ipv6Header

/-- The header in front of what has the given protocol. -/
def bytes (h : Ipv6Header) (protocol : UInt8) : Bytes :=
  octets32 (UInt32.ofNat (0x60000000 + h.label)) ++ octets16 h.length ++ [protocol, h.ttl]
    ++ h.src.toList ++ h.dst.toList

@[simp] theorem length_bytes (h : Ipv6Header) (protocol : UInt8) :
    (h.bytes protocol).length = 40 := by
  simp [bytes]

end Ipv6Header

theorem Address.readV6_of_hasAt {data : Bytes} {i : Nat} {o : Vector UInt8 16}
    (h : data.HasAt i o.toList) : Address.readV6 data i = .ok (.v6 o) := by
  have taken : (data.drop i).take 16 = o.toList := by simpa [Bytes.HasAt] using h
  have hroom : i + 16 ≤ data.length := by
    have := congrArg List.length taken
    simp only [List.length_take, List.length_drop, Vector.length_toList] at this
    omega
  have whole : Address.ofOctets16 o.toList = .ok (.v6 o) := by
    simp [Address.ofOctets16, Vector.toList]
  rw [readV6, Bytes.slice_of_le (by omega) hroom, Nat.add_sub_cancel_left, taken]
  exact whole

namespace Ipv6Header

variable (h : Ipv6Header) (protocol : UInt8) (rest : Bytes)

theorem hasAt_src : (h.bytes protocol ++ rest).HasAt 8 h.src.toList := by
  simp [Bytes.HasAt, bytes, octets16, octets32]

theorem hasAt_dst : (h.bytes protocol ++ rest).HasAt 24 h.dst.toList := by
  simp [Bytes.HasAt, bytes, octets16, octets32]

/-- A header with extension headers reads back. -/
theorem readV6_bytes (hs : List ExtensionHeader)
    (stops : QuotedPacket.isWalkable protocol = false) :
    QuotedPacket.readV6 (h.bytes (ExtensionHeader.first hs protocol) ++
        (ExtensionHeader.chain hs protocol ++ rest)) =
      .ok (some ⟨.v6 h.src, .v6 h.dst, h.ttl, none, protocol, rest⟩) := by
  generalize hf : ExtensionHeader.first hs protocol = following
  have walk := ExtensionHeader.walkHeaders_chain hs stops (h.bytes following) rest
  have src := Address.readV6_of_hasAt
    (h.hasAt_src following (ExtensionHeader.chain hs protocol ++ rest))
  have dst := Address.readV6_of_hasAt
    (h.hasAt_dst following (ExtensionHeader.chain hs protocol ++ rest))
  rw [hf, length_bytes] at walk
  have version : (UInt8.ofNat ((UInt32.ofNat (0x60000000 + h.label)).toNat / 16777216)).toNat / 16 =
      6 := by
    have := h.label.isLt
    rw [UInt32.toNat_ofNat', UInt8.toNat_ofNat']
    omega
  have first : (h.bytes following ++ (ExtensionHeader.chain hs protocol ++ rest)).byteAt 0 =
      .ok (UInt8.ofNat ((UInt32.ofNat (0x60000000 + h.label)).toNat / 16777216)) := rfl
  have next : (h.bytes following ++ (ExtensionHeader.chain hs protocol ++ rest)).byteAt 6 =
      .ok following := rfl
  have ttl : (h.bytes following ++ (ExtensionHeader.chain hs protocol ++ rest)).byteAt 7 =
      .ok h.ttl := rfl
  have behind : Bytes.suffix (h.bytes following ++ (ExtensionHeader.chain hs protocol ++ rest))
      (40 + (ExtensionHeader.chain hs protocol).length) = .ok rest := by
    rw [Bytes.suffix_of_le (by simp), ← List.append_assoc,
      List.drop_left' (by simp)]
  have hlong : ¬ (h.bytes following ++ (ExtensionHeader.chain hs protocol ++ rest)).length <
      40 + (ExtensionHeader.chain hs protocol).length := by
    simp only [List.length_append, length_bytes]
    omega
  have whole :
      ¬ (h.bytes following ++ (ExtensionHeader.chain hs protocol ++ rest)).length < 40 := by
    simp
  simp only [QuotedPacket.readV6, QuotedPacket.headerSizeV6, bind, Except.bind, pure, Except.pure,
    whole, first, version, src, dst, next, walk, hlong, ttl, behind, ne_eq, not_true_eq_false,
    if_false]

end Ipv6Header

end FlowTrace
