import FlowTrace.Proofs.Flow
import FlowTrace.Proofs.Outstanding

/-!
# How the probes of a session are told apart

- **Keys** (`names_flows`): the keys of a checked configuration count up from the first one without
  a wrap. They name the flows one to one, and other keys name none.
- **Distances** (`roundsApart`): rounds are counted around the wrap of the round number, so one of
  two rounds is ahead of the other (`exists_ahead`).
- **Tokens** (`tells_apart`): where a token holds a sequence byte, it stands for one probe among
  those of `256 / flows` rounds, and no longer (`exists_sequenceToken_eq`). Where it is a length, it
  stands for one probe of each flow among those of four rounds.
-/

namespace FlowTrace

/-! ## Keys -/

namespace FlowPlan

variable {c : Config} {flow : UInt16} {fields : FlowFields}

theorem get?_eq_some_iff : (ofConfig c).get? flow = some fields ↔
    flow.toNat < c.flows.toNat ∧ fieldsOf c (ofConfig c).carrier flow = fields := by
  rw [get?_ofConfig, Option.ite_none_right_eq_some, Option.some.injEq]

theorem key_of_get? (h : (ofConfig c).get? flow = some fields) : fields.key = c.keyBase + flow := by
  rw [← (get?_eq_some_iff.mp h).2, key_fieldsOf]

/-- The fields of the session are those of its flows. -/
theorem mem_flows_ofConfig (hb : c.Bounds) :
    fields ∈ (ofConfig c).flows ↔ ∃ flow, (ofConfig c).get? flow = some fields := by
  have hfew := hb.flows_le
  constructor
  · intro h
    obtain ⟨i, hi, rfl⟩ := List.mem_map.mp h
    have lt := List.mem_range.mp hi
    have number : (UInt16.ofNat i).toNat = i := by
      rw [UInt16.toNat_ofNat']
      exact Nat.mod_eq_of_lt (by omega)
    exact ⟨UInt16.ofNat i, get?_eq_some_iff.mpr ⟨number.symm ▸ lt, rfl⟩⟩
  · rintro ⟨flow, h⟩
    exact List.mem_of_getElem? h

/-- The number by which a flow is known counts from the first one. -/
theorem number_fieldsOf (c : Config) (carrier : Carrier) (flow : UInt16) :
    (if c.protocol = .icmp then (fieldsOf c carrier flow).identifier
      else (fieldsOf c carrier flow).srcPort) = some (c.keyBase + flow) := by
  unfold fieldsOf Config.keyBase
  cases c.protocol <;> rfl

/-- The keys of a session name its flows. -/
structure NamesFlows (c : Config) : Prop where
  /-- A key leads to a flow exactly if it is the key of that flow. -/
  leads : ∀ key flow, (ofConfig c).flowForKey key = some flow ↔
    flow.toNat < c.flows.toNat ∧
      ∃ fields, (ofConfig c).get? flow = some fields ∧ fields.key = key
  /-- A key that leads to no flow is that of none. -/
  foreign : ∀ key, (ofConfig c).flowForKey key = none ↔
    ∀ fields ∈ (ofConfig c).flows, fields.key ≠ key
  /-- The identifiers or source numbers count up from the first one and do not wrap around. -/
  counts : ∀ flow fields, (ofConfig c).get? flow = some fields → ∃ number,
    (if c.protocol = .icmp then fields.identifier else fields.srcPort) = some number ∧
      fields.key = number ∧ number.toNat = c.keyBase.toNat + flow.toNat
  /-- No two flows have one key. -/
  distinct : ∀ flow flow' fields fields', (ofConfig c).get? flow = some fields →
    (ofConfig c).get? flow' = some fields' → fields.key = fields'.key → flow = flow'

/-- The keys of a checked configuration name its flows one to one, and all other keys name none. -/
theorem names_flows (hc : c.check = .ok ()) : NamesFlows c := by
  have hb := Config.bounds_of_check hc
  have leads (key flow : UInt16) : (ofConfig c).flowForKey key = some flow ↔
      flow.toNat < c.flows.toNat ∧
        ∃ fields, (ofConfig c).get? flow = some fields ∧ fields.key = key := by
    rw [flowForKey_eq_some_iff hb]
    refine and_congr_right fun hf => ⟨?_, ?_⟩
    · rintro rfl
      exact ⟨_, get?_eq_some_iff.mpr ⟨hf, rfl⟩, key_fieldsOf ..⟩
    · rintro ⟨fields, h, rfl⟩
      exact key_of_get? h
  refine ⟨leads, fun key => ?_, fun flow fields h => ?_,
    fun flow flow' fields fields' h h' hsame => ?_⟩
  · rw [Option.eq_none_iff_forall_ne_some]
    constructor
    · intro unknown fields member is
      obtain ⟨flow, h⟩ := (mem_flows_ofConfig hb).mp member
      exact unknown flow ((leads key flow).mpr ⟨(get?_eq_some_iff.mp h).1, fields, h, is⟩)
    · intro other flow found
      obtain ⟨-, fields, h, is⟩ := (leads key flow).mp found
      exact other fields ((mem_flows_ofConfig hb).mpr ⟨flow, h⟩) is
  · obtain ⟨hf, rfl⟩ := get?_eq_some_iff.mp h
    exact ⟨_, number_fieldsOf .., key_fieldsOf .., toNat_keyBase_add hb hf⟩
  · rw [key_of_get? h, key_of_get? h'] at hsame
    exact (UInt16.add_right_inj c.keyBase).mp hsame

/-- A session of sixteen flows on the last sixteen source numbers. -/
def lastNumbersConfig : Config :=
  { Config.standard (.ofOctets4 192 0 2 1) .udp 0x3000 with flows := 16, srcPortBase := 65520 }

/-- The very last number is that of its last flow, and the number after it, zero, that of none. -/
theorem names_flows_lastNumbersConfig :
    lastNumbersConfig.check = .ok () ∧
      (ofConfig lastNumbersConfig).flowForKey 65535 = some 15 ∧
      (∃ fields, (ofConfig lastNumbersConfig).get? 15 = some fields ∧ fields.key = 65535) ∧
      (ofConfig lastNumbersConfig).flowForKey 0 = none := by
  have names := @names_flows lastNumbersConfig rfl
  exact ⟨rfl, (names.leads 65535 15).mpr ⟨by decide, _, rfl, rfl⟩, ⟨_, rfl, rfl⟩,
    (names.foreign 0).mpr (by decide)⟩

end FlowPlan

/-! ## Rounds -/

/-- How many rounds two rounds are apart, counted around the wrap of the round number. -/
def roundsApart (r s : UInt32) : Nat := min (s - r).toNat (r - s).toNat

/-- Of two rounds one is ahead of the other. -/
theorem exists_ahead (r s : UInt32) : ∃ d, d = roundsApart r s ∧
    (s = r + UInt32.ofNat d ∨ r = s + UInt32.ofNat d) := by
  have back (a b : UInt32) : b = a + UInt32.ofNat (b - a).toNat := by
    rw [UInt32.ofNat_toNat, UInt32.add_comm, UInt32.sub_add_cancel]
  rcases Nat.le_total (s - r).toNat (r - s).toNat with le | le
  · exact ⟨_, rfl, .inl (by rw [roundsApart, Nat.min_eq_left le]; exact back r s)⟩
  · exact ⟨_, rfl, .inr (by rw [roundsApart, Nat.min_eq_right le]; exact back s r)⟩

/-- Less than half the round numbers ahead is as far apart. -/
theorem roundsApart_add (r : UInt32) {d : Nat} (hnear : d < 2147483648) :
    roundsApart r (r + UInt32.ofNat d) = d := by
  have hr := r.toNat_lt
  have ahead := FlowPlan.toNat_add_ofNat r d
  rw [roundsApart, UInt32.toNat_sub, UInt32.toNat_sub]
  omega

/-! ## Tokens -/

namespace ProbeKey

/-- The probe is one that a session may send. -/
structure InSession (k : ProbeKey) (c : Config) : Prop where
  flow_lt : k.flow.toNat < c.flows.toNat
  ttl_pos : 1 ≤ k.ttl.toNat
  ttl_le : k.ttl.toNat ≤ c.maxTtl.toNat

/-- The token of a probe. -/
def token (k : ProbeKey) (c : Config) : UInt16 :=
  (FlowPlan.ofConfig c).carrier.token ((FlowPlan.ofConfig c).probeId k.round k.flow k.ttl)

variable {c : Config} {p q : ProbeKey}

/-- Where the token holds a sequence byte, it tells all probes of a window of rounds apart. -/
theorem eq_of_sequenceToken (hc : (FlowPlan.ofConfig c).carrier ≠ .udpPayloadLength)
    (hp : p.InSession c) (hq : q.InSession c)
    (hnear : roundsApart p.round q.round < 256 / c.flows.toNat) (hsame : p.token c = q.token c) :
    p = q := by
  obtain ⟨flow, round, ttl⟩ := p
  obtain ⟨flow', round', ttl'⟩ := q
  obtain ⟨d, apart, rfl | rfl⟩ := exists_ahead round round'
  · obtain ⟨rfl, rfl, rfl⟩ :=
      FlowPlan.sequenceToken_inj hc (apart ▸ hnear) hp.flow_lt hq.flow_lt hsame
    rw [show round + UInt32.ofNat 0 = round from UInt32.add_zero round]
  · obtain ⟨rfl, rfl, rfl⟩ :=
      FlowPlan.sequenceToken_inj hc (apart ▸ hnear) hq.flow_lt hp.flow_lt hsame.symm
    rw [show round' + UInt32.ofNat 0 = round' from UInt32.add_zero round']

theorem sequenceToken_within (hb : c.Bounds)
    (hc : (FlowPlan.ofConfig c).carrier ≠ .udpPayloadLength) (hp : p.InSession c) :
    0x0100 ≤ p.token c ∧ p.token c ≤ 0x40FF := by
  have value := FlowPlan.toNat_sequenceToken hc p.round p.flow p.ttl
  have hpos := hp.ttl_pos
  have le := Nat.le_trans hp.ttl_le hb.ttl_le
  rw [UInt16.le_iff_toNat_le, UInt16.le_iff_toNat_le]
  change 256 ≤ (p.token c).toNat ∧ (p.token c).toNat ≤ 16639
  rw [token]
  omega

/-- The flows of `256 / flows` rounds use up the sequence bytes, so that a flow of the round after
these has the byte of the first one. -/
theorem exists_sequenceToken_eq (hb : c.Bounds)
    (hc : (FlowPlan.ofConfig c).carrier ≠ .udpPayloadLength) (round : UInt32) :
    ∃ p q : ProbeKey, p.InSession c ∧ q.InSession c ∧ p.round = round ∧
      roundsApart p.round q.round = 256 / c.flows.toNat ∧ p.token c = q.token c := by
  have hpos := hb.flows_pos
  have hfew := hb.flows_le
  have left := Nat.mod_lt 256 hpos
  have all := Nat.div_add_mod' 256 c.flows.toNat
  have flow : (UInt16.ofNat (256 % c.flows.toNat)).toNat = 256 % c.flows.toNat := by
    rw [UInt16.toNat_ofNat']
    omega
  have hnear : 256 / c.flows.toNat < 2147483648 :=
    Nat.lt_of_le_of_lt (Nat.div_le_self ..) (by decide)
  -- If 256 is no multiple of the number of flows, the rounds do not use up the bytes evenly, and
  -- the later probe is one of another flow.
  refine ⟨⟨0, round, 1⟩,
    ⟨UInt16.ofNat (256 % c.flows.toNat), round + UInt32.ofNat (256 / c.flows.toNat), 1⟩,
    ⟨hpos, Nat.le_refl 1, hb.ttl_pos⟩, ⟨flow.symm ▸ left, Nat.le_refl 1, hb.ttl_pos⟩, rfl,
    roundsApart_add round hnear, ?_⟩
  have wrap := FlowPlan.toNat_add_mul_mod round (256 / c.flows.toNat) c.flows.toNat
  have first := FlowPlan.toNat_sequenceToken hc round 0 1
  have second := FlowPlan.toNat_sequenceToken hc (round + UInt32.ofNat (256 / c.flows.toNat))
    (UInt16.ofNat (256 % c.flows.toNat)) 1
  rw [UInt16.toNat_zero] at first
  rw [flow] at second
  exact UInt16.toNat_inj.mp (first.trans (Eq.trans (by omega) second.symm))

/-- Where the token is a length, it tells the rounds of a window and the hop limits apart. -/
theorem lengthToken_eq_iff (hb : c.Bounds)
    (hc : (FlowPlan.ofConfig c).carrier = .udpPayloadLength) (hp : p.InSession c)
    (hq : q.InSession c) (hnear : roundsApart p.round q.round < 4) :
    p.token c = q.token c ↔ p.round = q.round ∧ p.ttl = q.ttl := by
  have limit := Nat.le_trans hp.ttl_le hb.ttl_le
  have limit' := Nat.le_trans hq.ttl_le hb.ttl_le
  have hpos := hp.ttl_pos
  have pos' := hq.ttl_pos
  have fits := p.round.toNat_lt
  have fits' := q.round.toNat_lt
  rw [roundsApart, UInt32.toNat_sub, UInt32.toNat_sub] at hnear
  rw [token, token, ← UInt16.toNat_inj, FlowPlan.toNat_lengthToken hc,
    FlowPlan.toNat_lengthToken hc, ← UInt32.toNat_inj, ← UInt8.toNat_inj]
  omega

theorem lengthToken_lt (hc : (FlowPlan.ofConfig c).carrier = .udpPayloadLength) (p : ProbeKey) :
    (p.token c).toNat < 256 := by
  have value := FlowPlan.toNat_lengthToken hc p.round p.flow p.ttl
  rw [token]
  omega

/-- How far the tokens of a session tell its probes apart. -/
structure TellsApart (c : Config) : Prop where
  /-- A token with a sequence byte stands for one probe among those of `256 / flows` rounds. -/
  sequence : (FlowPlan.ofConfig c).carrier ≠ .udpPayloadLength →
    ∀ p q : ProbeKey, p.InSession c → q.InSession c →
      roundsApart p.round q.round < 256 / c.flows.toNat → (p.token c = q.token c ↔ p = q)
  /-- It is neither zero nor all ones. -/
  sequenceRange : (FlowPlan.ofConfig c).carrier ≠ .udpPayloadLength →
    ∀ p : ProbeKey, p.InSession c → 0x0100 ≤ p.token c ∧ p.token c ≤ 0x40FF
  /-- With one more round some token stands for two probes. -/
  sequenceEnd : (FlowPlan.ofConfig c).carrier ≠ .udpPayloadLength →
    ∀ round, ∃ p q : ProbeKey, p.InSession c ∧ q.InSession c ∧ p.round = round ∧
      roundsApart p.round q.round = 256 / c.flows.toNat ∧ p.token c = q.token c
  /-- A token that is a length stands for one probe of each flow among those of four rounds. -/
  length : (FlowPlan.ofConfig c).carrier = .udpPayloadLength →
    ∀ p q : ProbeKey, p.InSession c → q.InSession c → roundsApart p.round q.round < 4 →
      (p.token c = q.token c ↔ p.round = q.round ∧ p.ttl = q.ttl)
  /-- It fits in a byte. -/
  lengthRange : (FlowPlan.ofConfig c).carrier = .udpPayloadLength →
    ∀ p : ProbeKey, (p.token c).toNat < 256

/-- The tokens of a checked configuration tell its probes apart in a window of rounds, also where
the round number wraps around within it. -/
theorem tells_apart (hc : c.check = .ok ()) : TellsApart c := by
  have hb := Config.bounds_of_check hc
  exact
    { sequence := fun carrier p q hp hq hnear =>
        ⟨eq_of_sequenceToken carrier hp hq hnear, fun hsame => hsame ▸ rfl⟩
      sequenceRange := fun carrier _ hp => sequenceToken_within hb carrier hp
      sequenceEnd := fun carrier round => exists_sequenceToken_eq hb carrier round
      length := fun carrier _ _ hp hq hnear => lengthToken_eq_iff hb carrier hp hq hnear
      lengthRange := fun carrier p => lengthToken_lt carrier p }

/-- A session of five flows, whose window is 51 rounds long. -/
def fiveFlowsConfig : Config :=
  { Config.standard (.ofOctets4 192 0 2 1) .udp 0x3000 with flows := 5 }

/-- The first probe of the last round before the round number wraps around and the last one of the
fiftieth round after it have distinct tokens. -/
theorem tells_apart_fiveFlowsConfig :
    fiveFlowsConfig.check = .ok () ∧
      roundsApart 0xFFFFFFFF 49 = 50 ∧ 256 / fiveFlowsConfig.flows.toNat = 51 ∧
      token ⟨0, 0xFFFFFFFF, 30⟩ fiveFlowsConfig ≠ token ⟨4, 49, 30⟩ fiveFlowsConfig := by
  have tells := @tells_apart fiveFlowsConfig rfl
  have first : InSession ⟨0, 0xFFFFFFFF, 30⟩ fiveFlowsConfig := ⟨by decide, by decide, by decide⟩
  have last : InSession ⟨4, 49, 30⟩ fiveFlowsConfig := ⟨by decide, by decide, by decide⟩
  refine ⟨rfl, by decide, by decide, fun hsame => ?_⟩
  exact absurd ((tells.sequence (by decide) _ _ first last (by decide)).mp hsame) (by decide)

end ProbeKey

end FlowTrace
