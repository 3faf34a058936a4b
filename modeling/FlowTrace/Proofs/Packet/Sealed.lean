import FlowTrace.Proofs.Bytes
import FlowTrace.Proofs.Checksum
import FlowTrace.Probe

/-!
# Datagrams that carry their checksum

- **Sealed datagrams** (`Sealed`): the word at some index is the checksum that a receiver or a
  kernel computes over the datagram and its pseudo-header, so the test of a receiver passes.
- **Two ways to get there**: the checksum is computed and filled in (`sealed_natural`), or it is
  chosen and a spare word brings it about (`sealed_steered`).
- **Our datagrams** are sealed: `Icmp.sealed_finish`, `Udp.sealed_datagram`, `Tcp.sealed_syn`.
-/

namespace FlowTrace

namespace Protocol

/-- A checksum as a protocol writes it. UDP writes zero as all ones, because zero means that there
is none. -/
def writes (protocol : Protocol) (sum : UInt16) : UInt16 :=
  if protocol = .udp ∧ sum = 0 then 0xFFFF else sum

/-- Where the checksum of a datagram stands. -/
def checksumAt : Protocol → Nat
  | .icmp => 2
  | .udp => 6
  | .tcp => 16

/-- The number that a protocol has in an IP header. -/
def number : Protocol → Family → UInt8
  | .icmp, .ipv4 => Packet.Icmp.protocolV4
  | .icmp, .ipv6 => Packet.Icmp.protocolV6
  | .udp, _ => Packet.Udp.protocol
  | .tcp, _ => Packet.Tcp.protocol

theorem writes_of_ne_zero {protocol : Protocol} {sum : UInt16} (h : sum ≠ 0) :
    protocol.writes sum = sum := if_neg fun both => h both.2

theorem writes_udp (sum : UInt16) : Protocol.udp.writes sum = if sum = 0 then 0xFFFF else sum := by
  simp [writes]

/-- Written either way, a checksum is the same modulo 65535. -/
theorem toNat_writes_mod (protocol : Protocol) (sum : UInt16) :
    (protocol.writes sum).toNat % 65535 = sum.toNat % 65535 ∧
      sum.toNat ≤ (protocol.writes sum).toNat := by
  unfold writes
  split
  · rename_i h
    rw [h.2]
    decide
  · exact ⟨rfl, Nat.le_refl _⟩

end Protocol

namespace Packet

/-- The checksum that a protocol asks for over a pseudo-header and a datagram, computed with zero in
its own place. -/
def recompute (protocol : Protocol) (pseudo data : Bytes) : UInt16 :=
  protocol.writes (Checksum.checksum (pseudo ++ data.overwrite protocol.checksumAt (octets16 0)))

/-- A datagram holds the checksum that it ought to have. -/
structure Sealed (protocol : Protocol) (pseudo data : Bytes) : Prop where
  /-- A receiver accepts it. -/
  verifies : Checksum.verify (pseudo ++ data) = true
  stored : data.HasAt protocol.checksumAt (octets16 (recompute protocol pseudo data))

section Sealed

variable {protocol : Protocol} {pseudo : Bytes}

/-- The checksum is computed and filled in. -/
theorem sealed_natural (before after : Bytes) (heven : pseudo.length % 2 = 0)
    (place : before.length = protocol.checksumAt)
    (hshort : (pseudo ++ (before ++ octets16 0 ++ after)).length < 131072) {sum : UInt16}
    (h : sum = protocol.writes (Checksum.checksum (pseudo ++ (before ++ octets16 0 ++ after)))) :
    Sealed protocol pseudo (before ++ octets16 sum ++ after) := by
  have haligned : (pseudo ++ before).length % 2 = 0 := by
    have : protocol.checksumAt % 2 = 0 := by cases protocol <;> rfl
    rw [List.length_append, place]
    omega
  have join (w : UInt16) : pseudo ++ (before ++ octets16 w ++ after) =
      pseudo ++ before ++ octets16 w ++ after := by simp only [List.append_assoc]
  have again : recompute protocol pseudo (before ++ octets16 sum ++ after) = sum := by
    rw [recompute, ← place, Bytes.overwrite_append before after (by simp), h]
  refine ⟨?_, ?_⟩
  · rw [join] at hshort h ⊢
    obtain ⟨hsame, le⟩ := protocol.toNat_writes_mod
      (Checksum.checksum (pseudo ++ before ++ octets16 0 ++ after))
    have whole := Checksum.checksum_add_total hshort
    have ones := Checksum.checksum_eq_ones_iff hshort
    rw [← h] at hsame le
    exact Checksum.verify_of_add_total haligned hshort (by omega) (by omega)
  · rw [again, ← place]
    exact Bytes.hasAt_append before (octets16 sum) after

/-- The checksum is chosen and a spare word makes it right. -/
theorem sealed_steered (before between after : Bytes) (heven : pseudo.length % 2 = 0)
    (place : before.length = protocol.checksumAt)
    (haligned : between.length % 2 = 0)
    (hshort :
      (pseudo ++ (before ++ octets16 0 ++ (between ++ octets16 0 ++ after))).length < 131072)
    {wished : UInt16} (hpos : 0 < wished.toNat) (lt : wished.toNat < 65535) :
    Sealed protocol pseudo (before ++ octets16 wished ++ (between ++ octets16 (Checksum.compensate
      (Checksum.checksum (pseudo ++ (before ++ octets16 0 ++ (between ++ octets16 0 ++ after))))
      wished) ++ after)) := by
  have front : (pseudo ++ before ++ octets16 0 ++ between).length % 2 = 0 := by
    have : protocol.checksumAt % 2 = 0 := by cases protocol <;> rfl
    simp only [List.length_append, length_octets16, place]
    omega
  have join (w : UInt16) : pseudo ++ (before ++ octets16 0 ++ (between ++ octets16 w ++ after)) =
      pseudo ++ before ++ octets16 0 ++ between ++ octets16 w ++ after := by
    simp only [List.append_assoc]
  refine sealed_natural before _ heven place (by simpa using hshort) ?_
  rw [join] at hshort ⊢
  rw [join, Checksum.checksum_compensate front hshort lt, Protocol.writes_of_ne_zero]
  rintro rfl
  exact absurd hpos (by decide)

end Sealed

/-! ## Echo requests -/

namespace Icmp

/-- An echo request with its fields filled in. Its header holds the identifier `outer`. -/
def layout (type : UInt8) (outer identifier sequence : UInt16) (filling : Bytes)
    (sum spare : UInt16) : Bytes :=
  [type, 0] ++ octets16 sum ++ (octets16 outer ++ octets16 sequence ++ octets16 identifier
    ++ octets16 sequence ++ octets16 spare ++ filling)

/-- The type of an echo request. -/
def requestType (ipv6 : Bool) : UInt8 := if ipv6 then echoRequestV6 else echoRequestV4

/-- What fills the payload of an echo request. -/
def filling (payloadSize : Nat) : Bytes := filler (Nat.max payloadSize minPayload - 6)

theorem stamp_echoRequest (identifier sequence : UInt16) (payloadSize : Nat) (ipv6 : Bool)
    (sum spare : UInt16) : stamp (echoRequest identifier sequence payloadSize ipv6) sum spare =
      layout (requestType ipv6) identifier identifier sequence (filling payloadSize) sum spare :=
  rfl

@[simp] theorem length_layout (type : UInt8) (outer identifier sequence : UInt16) (filling : Bytes)
    (sum spare : UInt16) :
    (layout type outer identifier sequence filling sum spare).length = filling.length + 14 := by
  simp only [layout, List.length_append, List.length_cons, List.length_nil, length_octets16]
  omega

@[simp] theorem length_filling (payloadSize : Nat) :
    (filling payloadSize).length + 14 = headerSize + Nat.max payloadSize minPayload := by
  have : 8 ≤ Nat.max payloadSize minPayload := Nat.le_max_right ..
  rw [filling, length_filler, headerSize]
  omega

theorem length_echoRequest (identifier sequence : UInt16) (payloadSize : Nat) (ipv6 : Bool) :
    (echoRequest identifier sequence payloadSize ipv6).length =
      headerSize + Nat.max payloadSize minPayload := by
  rw [← length_filling]
  simp only [echoRequest, filling, List.length_append, List.length_cons, List.length_nil,
    length_octets16]
  omega

/-- A finished echo request. -/
theorem finish_echoRequest (identifier sequence : UInt16) (payloadSize : Nat) (ipv6 : Bool)
    (pseudoSum : UInt32) (wished : Option UInt16) :
    ∃ spare, (finish (echoRequest identifier sequence payloadSize ipv6) pseudoSum wished).1 =
      layout (requestType ipv6) identifier identifier sequence (filling payloadSize)
        (finish (echoRequest identifier sequence payloadSize ipv6) pseudoSum wished).2 spare := by
  cases wished <;> exact ⟨_, rfl⟩

/-- An echo request is sealed, with the natural checksum or with a wished one. -/
theorem sealed_finish {pseudo : Bytes} {pseudoSum : UInt32} (heven : pseudo.length % 2 = 0)
    (sums : ∀ data, Checksum.checksumWith data pseudoSum = Checksum.checksum (pseudo ++ data))
    (identifier sequence : UInt16) (payloadSize : Nat) (ipv6 : Bool)
    (hshort : pseudo.length + (headerSize + Nat.max payloadSize minPayload) < 131072)
    {wished : Option UInt16} (within : ∀ w ∈ wished, 0 < w.toNat ∧ w.toNat < 65535) :
    Sealed .icmp pseudo
      (finish (echoRequest identifier sequence payloadSize ipv6) pseudoSum wished).1 := by
  have size : (pseudo ++ layout (requestType ipv6) identifier identifier sequence
      (filling payloadSize) 0 0).length < 131072 := by
    rw [List.length_append, length_layout, length_filling]
    exact hshort
  cases wished with
  | none =>
    simp only [finish, stamp_echoRequest, sums]
    exact sealed_natural [requestType ipv6, 0] _ heven rfl size rfl
  | some w =>
    obtain ⟨hpos, lt⟩ := within w rfl
    simp only [finish, stamp_echoRequest, sums]
    exact sealed_steered [requestType ipv6, 0] (octets16 identifier ++ octets16 sequence
      ++ octets16 identifier ++ octets16 sequence) _ heven rfl (by simp) size hpos lt

end Icmp

/-! ## UDP datagrams -/

namespace Udp

@[simp] theorem length_payload (size : Nat) : (payload size).length = Nat.max size minPayload := by
  have : 8 ≤ Nat.max size minPayload := Nat.le_max_right ..
  simp only [payload, magic, List.length_append, List.length_cons, List.length_nil, length_filler]
  omega

theorem minPayload_le_length (size : Nat) : minPayload ≤ (payload size).length := by
  rw [length_payload]
  exact Nat.le_max_right ..

@[simp] theorem length_layout (src dst : UInt16) {body : Bytes} (hroom : 2 ≤ body.length)
    (sum spare : UInt16) :
    (layout src dst body sum spare).length = headerSize + body.length := by
  simp only [layout, headerSize, List.length_append, length_octets16, List.length_drop]
  omega

/-- A finished datagram. -/
theorem datagram_fst (src dst : UInt16) (body : Bytes) (from_ to_ : Address)
    (wished : Option UInt16) :
    ∃ spare, (datagram src dst body from_ to_ wished).1 =
      layout src dst body (datagram src dst body from_ to_ wished).2 spare := by
  cases wished <;> exact ⟨_, rfl⟩

/-- A datagram is sealed, with the natural checksum or with a wished one. -/
theorem sealed_datagram (src dst : UInt16) {body : Bytes} (hroom : 2 ≤ body.length)
    {from_ to_ : Address} (families : from_.family = to_.family) {wished : Option UInt16}
    (hshort : headerSize + body.length + 40 < 131072)
    (within : ∀ w ∈ wished, 0 < w.toNat ∧ w.toNat < 65535) :
    Sealed .udp (Checksum.pseudoHeader from_ to_ protocol (headerSize + body.length))
      (datagram src dst body from_ to_ wished).1 := by
  obtain ⟨heven, hsmall⟩ :=
    Checksum.length_pseudoHeader from_ to_ protocol (headerSize + body.length)
  have size : (Checksum.pseudoHeader from_ to_ protocol (headerSize + body.length) ++
      layout src dst body 0 0).length < 131072 := by
    rw [List.length_append, length_layout src dst hroom]
    omega
  cases wished with
  | none =>
    simp only [datagram, Checksum.checksumWith_pseudoHeaderSum families]
    exact sealed_natural (octets16 src ++ octets16 dst ++ octets16 (UInt16.ofNat
      (headerSize + body.length))) (octets16 0 ++ body.drop 2) heven rfl size
      (Protocol.writes_udp _).symm
  | some w =>
    obtain ⟨hpos, lt⟩ := within w rfl
    simp only [datagram, Checksum.checksumWith_pseudoHeaderSum families]
    exact sealed_steered (octets16 src ++ octets16 dst ++ octets16 (UInt16.ofNat
      (headerSize + body.length))) [] (body.drop 2) heven rfl rfl size hpos lt

/-- The datagram that a kernel builds around the payload that a datagram socket is handed. -/
def kernelDatagram (src dst : UInt16) (payload : Bytes) (from_ to_ : Address) : Bytes :=
  let blank := octets16 src ++ octets16 dst ++ octets16 (UInt16.ofNat (headerSize + payload.length))
    ++ octets16 0 ++ payload
  blank.overwrite 6 (octets16
    (recompute .udp (Checksum.pseudoHeader from_ to_ protocol blank.length) blank))

theorem layout_hasAt_sum (src dst : UInt16) (body : Bytes) (sum spare : UInt16) :
    (layout src dst body sum spare).HasAt 6 (octets16 sum) := rfl

/-- From the payload of a sealed datagram a kernel builds the datagram. -/
theorem kernelDatagram_of_sealed {src dst sum spare : UInt16} {body : Bytes} {from_ to_ : Address}
    (hroom : 2 ≤ body.length)
    (h : Sealed .udp (Checksum.pseudoHeader from_ to_ protocol (headerSize + body.length))
      (layout src dst body sum spare)) :
    kernelDatagram src dst ((layout src dst body sum spare).drop headerSize) from_ to_ =
      layout src dst body sum spare := by
  have length : ((layout src dst body sum spare).drop headerSize).length = body.length := by
    rw [List.length_drop, length_layout src dst hroom]
    omega
  have payload : (layout src dst body sum spare).drop headerSize =
      octets16 spare ++ body.drop 2 := rfl
  have blank : octets16 src ++ octets16 dst ++ octets16 (UInt16.ofNat (headerSize + body.length))
      ++ octets16 0 ++ (octets16 spare ++ body.drop 2) = layout src dst body 0 spare := rfl
  have again : (layout src dst body sum spare).overwrite 6 (octets16 0) =
      (layout src dst body 0 spare).overwrite 6 (octets16 0) := rfl
  have stored := Bytes.HasAt.word16_eq h.stored (layout_hasAt_sum src dst body sum spare)
  rw [recompute, Protocol.checksumAt, again] at stored
  rw [kernelDatagram, length, payload, blank, recompute, length_layout src dst hroom,
    Protocol.checksumAt, stored]
  rfl

end Udp

/-! ## TCP segments -/

namespace Tcp

/-- A SYN segment is sealed. -/
theorem sealed_syn (token src dst : UInt16) {from_ to_ : Address}
    (families : from_.family = to_.family) :
    Sealed .tcp (Checksum.pseudoHeader from_ to_ protocol headerSize)
      (syn token src dst from_ to_) := by
  obtain ⟨heven, hsmall⟩ := Checksum.length_pseudoHeader from_ to_ protocol headerSize
  simp only [syn, Checksum.checksumWith_pseudoHeaderSum families]
  refine sealed_natural (octets16 src ++ octets16 dst ++ octets32 (sequenceOfToken token)
    ++ [0, 0, 0, 0] ++ [0x50, flagSyn] ++ octets16 65535) [0, 0] heven rfl ?_ rfl
  simp
  omega

end Tcp

end Packet

end FlowTrace
