import FlowTrace.Proofs.Probe

/-!
# Flows keep to one path

A router that picks among paths of equal cost hashes some fields of a packet, so packets that agree
on them take one path.

- **Hashed fields** (`HashedFields`): both addresses, the destination number, the first four bytes
  of the datagram and the identifier of an echo request.
- **Flows** (`hashed_of_encode`): where a flow pins its path, these fields of its probes follow from
  the session and the flow (`flowHashed`). The round, the hop limit and the token are not in them.
- **Different flows** (`firstFour_inj`) differ in the first four bytes already.
- **Main result** (`keeps_to_one_path`): both, for probes whose checksum is right.
-/

namespace FlowTrace

open Packet

/-- What a router may hash to choose a path. -/
structure HashedFields where
  src : Address
  dst : Address
  dstPort : UInt16
  /-- Source and destination number, or type, code and checksum. -/
  firstFour : Bytes
  /-- The identifier of an echo request. -/
  identifier : Option Bytes
  deriving DecidableEq, Repr

def EncodedProbe.hashed (p : EncodedProbe) : HashedFields where
  src := p.src
  dst := p.dst
  dstPort := p.dstPort
  firstFour := p.transport.take 4
  identifier := if p.protocol = .icmp then some ((p.transport.drop 4).take 2) else none

namespace FlowPlan

/-- Only the echo requests of an algorithm that leaves their checksum alone do not pin a path. -/
theorem fidelity_fieldsOf (c : Config) (carrier : Carrier) (flow : UInt16) :
    (fieldsOf c carrier flow).fidelity = .full ↔ (c.protocol = .icmp → c.multipath = .paris) := by
  unfold fieldsOf FlowFields.fidelity
  cases c.protocol <;> cases c.multipath <;> simp

end FlowPlan

namespace Encoder

variable {c : Config} {src : Address} {flow flow' : UInt16} {round : UInt32} {ttl : UInt8}
  {p : EncodedProbe}

/-- The first four bytes of the probes of a flow that pins its path. -/
def firstFour (c : Config) (flow : UInt16) : Bytes :=
  match c.protocol with
  | .icmp => [Icmp.requestType c.target.isIpv6, 0] ++ octets16 ((wishedChecksum c flow).getD 0)
  | _ => octets16 (c.keyBase + flow) ++ octets16 c.dstPort

/-- The hashed fields of the probes of a flow that pins its path. -/
def flowHashed (c : Config) (src : Address) (flow : UInt16) : HashedFields where
  src := src
  dst := c.target
  dstPort := (FlowPlan.fieldsOf c (FlowPlan.ofConfig c).carrier flow).dstPort.getD 0
  firstFour := firstFour c flow
  identifier := if c.protocol = .icmp then some (octets16 (c.keyBase + flow)) else none

/-! ## One flow -/

section Flow

variable (h : (ofConfig c (.ofConfig c) src).encode flow round ttl = some p)
include h

theorem dstPort_of_encode :
    p.dstPort = (FlowPlan.fieldsOf c (FlowPlan.ofConfig c).carrier flow).dstPort.getD 0 := by
  have hf := (isProbe_of_encode h).flow_lt
  simp only [encode, ofConfig, FlowPlan.get?_ofConfig, hf, if_true, Option.bind_eq_bind,
    Option.bind_some] at h
  split at h <;> simp only [Option.pure_def, Option.some.injEq] at h <;> subst h <;> rfl

/-- The token and its copy stay out of the first four bytes. An echo request has the checksum of its
flow there, which the spare word makes right. -/
theorem take_four_of_encode (pins : c.protocol = .icmp → c.multipath = .paris) :
    p.transport.take 4 = firstFour c flow := by
  unfold firstFour
  cases hp : c.protocol with
  | icmp =>
    rw [(icmp_of_encode h hp).1, wishedChecksum, pins hp]
    rfl
  | udp =>
    obtain ⟨sum, spare, -, layout⟩ := udp_layout h hp
    rw [layout, (udp_of_encode h hp).2.2.1, (isProbe_of_encode h).key_eq]
    rfl
  | tcp =>
    rw [(tcp_of_encode h hp).1]
    rfl

/-- What a router hashes follows from the session and the flow. -/
theorem hashed_of_encode (pins : c.protocol = .icmp → c.multipath = .paris) :
    p.hashed = flowHashed c src flow := by
  have probe := isProbe_of_encode h
  have identifier : (if p.protocol = .icmp then some ((p.transport.drop 4).take 2) else none) =
      if c.protocol = .icmp then some (octets16 (c.keyBase + flow)) else none := by
    rw [probe.protocol_eq]
    by_cases hp : c.protocol = .icmp
    · rw [if_pos hp, if_pos hp, ← probe.key_eq]
      exact congrArg some (icmp_fields h hp).2.1
    · rw [if_neg hp, if_neg hp]
  rw [EncodedProbe.hashed, flowHashed, probe.src_eq, probe.dst_eq, dstPort_of_encode h,
    take_four_of_encode h pins, identifier]

end Flow

/-! ## Different flows -/

/-- The factor `0x0101` is odd, so no two flows wish for one checksum. -/
theorem flowChecksum_inj (h : (0x4000 + flow * 0x0101 : UInt16) = 0x4000 + flow' * 0x0101) :
    flow = flow' := by
  have e := congrArg UInt16.toNat h
  have hf := flow.toNat_lt
  have hf' := flow'.toNat_lt
  rw [UInt16.toNat_add, UInt16.toNat_add, UInt16.toNat_mul, UInt16.toNat_mul,
    show (0x4000 : UInt16).toNat = 16384 from rfl, show (0x0101 : UInt16).toNat = 257 from rfl] at e
  exact UInt16.toNat_inj.mp (by omega)

/-- The first four bytes tell the flows of a session apart. -/
theorem firstFour_inj (pins : c.protocol = .icmp → c.multipath = .paris)
    (h : firstFour c flow = firstFour c flow') : flow = flow' := by
  have numbers (hp : c.protocol ≠ .icmp) (f : UInt16) :
      (firstFour c f).HasAt 0 (octets16 (c.keyBase + f)) := by
    unfold firstFour
    split
    · exact absurd ‹_› hp
    · rfl
  by_cases hp : c.protocol = .icmp
  · have checksum (f : UInt16) : (firstFour c f).HasAt 2 (octets16 (0x4000 + f * 0x0101)) := by
      simp only [firstFour, hp, wishedChecksum, pins hp]
      rfl
    have here := checksum flow
    rw [h] at here
    exact flowChecksum_inj (here.word16_eq (checksum flow'))
  · have here := numbers hp flow
    rw [h] at here
    exact (UInt16.add_right_inj c.keyBase).mp (here.word16_eq (numbers hp flow'))

/-! ## All flows -/

/-- The probes of a flow that pins its path agree on what routers hash, in all rounds and at all hop
limits, and their checksum is right nevertheless. Probes of two flows differ in the first four
bytes. -/
theorem keeps_to_one_path (hc : c.check = .ok ()) (hs : src.family = c.target.family)
    {fields : FlowFields} (hf : (FlowPlan.ofConfig c).get? flow = some fields)
    (hfull : fields.fidelity = .full) :
    (∀ (round round' : UInt32) (ttl ttl' : UInt8),
      (1 ≤ ttl.toNat ∧ ttl.toNat ≤ c.maxTtl.toNat) →
      (1 ≤ ttl'.toNat ∧ ttl'.toNat ≤ c.maxTtl.toNat) →
      ∃ p p', (ofConfig c (.ofConfig c) src).encode flow round ttl = some p ∧
        (ofConfig c (.ofConfig c) src).encode flow round' ttl' = some p' ∧
        p.hashed = p'.hashed ∧
        (p.Fits → Checksum.verify (p.pseudoHeader ++ p.transport) = true)) ∧
    ∀ one other : UInt16, one.toNat < c.flows.toNat → other.toNat < c.flows.toNat →
      one ≠ other → ∀ (round round' : UInt32) (ttl ttl' : UInt8),
      ∃ p p', (ofConfig c (.ofConfig c) src).encode one round ttl = some p ∧
        (ofConfig c (.ofConfig c) src).encode other round' ttl' = some p' ∧
        p.transport.take 4 ≠ p'.transport.take 4 := by
  have hb := Config.bounds_of_check hc
  rw [FlowPlan.get?_ofConfig] at hf
  split at hf
  case isFalse => cases hf
  rename_i flow_lt
  obtain rfl := Option.some.inj hf
  have pins := (FlowPlan.fidelity_fieldsOf c (FlowPlan.ofConfig c).carrier flow).mp hfull
  refine ⟨fun round round' ttl ttl' ht ht' => ?_,
    fun one other one_lt other_lt differ round round' ttl ttl' => ?_⟩
  · obtain ⟨p, h⟩ := exists_encode c src flow_lt round ttl
    obtain ⟨p', h'⟩ := exists_encode c src flow_lt round' ttl'
    refine ⟨p, p', h, h', ?_, fun fits => ?_⟩
    · rw [hashed_of_encode h pins, hashed_of_encode h' pins]
    · exact (sealed_of_encode hb hs h ⟨ht.1, Nat.le_trans ht.2 hb.ttl_le⟩ fits.short).verifies
  · obtain ⟨p, h⟩ := exists_encode c src one_lt round ttl
    obtain ⟨p', h'⟩ := exists_encode c src other_lt round' ttl'
    refine ⟨p, p', h, h', fun hsame => differ (firstFour_inj pins ?_)⟩
    rw [← take_four_of_encode h pins, ← take_four_of_encode h' pins, hsame]

/-- A session of two flows of echo requests. -/
def echoPairConfig : Config :=
  { Config.standard (.ofOctets4 192 0 2 1) .icmp 0x3000 with flows := 2 }

/-- Its second flow looks the same to a router near by and late in the session, and other than the
first one. -/
theorem keeps_to_one_path_echoPairConfig :
    echoPairConfig.check = .ok () ∧
    (∃ p p', (ofConfig echoPairConfig (.ofConfig echoPairConfig) (.ofOctets4 10 0 0 1)).encode
        1 0 1 = some p ∧
      (ofConfig echoPairConfig (.ofConfig echoPairConfig) (.ofOctets4 10 0 0 1)).encode
        1 77 30 = some p' ∧ p.hashed = p'.hashed ∧
      Checksum.verify (p.pseudoHeader ++ p.transport) = true) ∧
    ∃ p p', (ofConfig echoPairConfig (.ofConfig echoPairConfig) (.ofOctets4 10 0 0 1)).encode
        0 0 1 = some p ∧
      (ofConfig echoPairConfig (.ofConfig echoPairConfig) (.ofOctets4 10 0 0 1)).encode
        1 0 1 = some p' ∧ p.transport.take 4 ≠ p'.transport.take 4 := by
  obtain ⟨agree, differ⟩ := @keeps_to_one_path echoPairConfig (.ofOctets4 10 0 0 1) 1 rfl rfl _ rfl
    rfl
  obtain ⟨p, p', h, h', hsame, verifies⟩ := agree 0 77 1 30 (by decide) (by decide)
  exact ⟨rfl, ⟨p, p', h, h', hsame, verifies (fits_of_payloadSize h (by decide))⟩,
    differ 0 1 (by decide) (by decide) (by decide) 0 0 1 1⟩

end Encoder

end FlowTrace
