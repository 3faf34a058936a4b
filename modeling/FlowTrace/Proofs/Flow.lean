import FlowTrace.Flow

/-!
# Flows and tokens of a checked configuration

- **Bounds** (`Config.Bounds`): what `Config.check` guarantees about flows, hop limits and keys.
- **Keys** (`FlowPlan.flowForKey_eq_some_iff`): the key of a flow leads back to the flow, and no
  other key does.
- **Tokens** (`toNat_sequenceToken`, `toNat_lengthToken`): the wire value of a probe. Where the
  token holds a sequence byte, probes of rounds less than `256 / flows` apart have distinct tokens
  (`sequenceToken_inj`); where it is a length, rounds less than four apart and hop limits are told
  apart, and flows are not (`lengthToken_inj`).
-/

namespace FlowTrace

namespace Config

/-- What a checked configuration guarantees about numbers of flows, hop limits and keys. -/
structure Bounds (c : Config) : Prop where
  flows_pos : 0 < c.flows.toNat
  flows_le : c.flows.toNat ≤ 16
  ttl_pos : 0 < c.maxTtl.toNat
  ttl_le : c.maxTtl.toNat ≤ 64
  keys : c.keyBase.toNat + c.flows.toNat ≤ 65536

/-- A guard in front of a computation that succeeds. -/
theorem guard_eq_ok {ε α : Type} {p : Prop} [Decidable p] {e : ε} {k : Except ε α} {x : α} :
    (if p then Except.error e else k) = .ok x ↔ ¬ p ∧ k = .ok x := by
  split <;> simp_all

theorem bounds_of_check {c : Config} (h : c.check = .ok ()) : c.Bounds := by
  simp only [check, throw, throwThe, MonadExceptOf.throw, bind, Except.bind, pure, Except.pure,
    guard_eq_ok, not_or, UInt16.not_lt, UInt8.not_lt] at h
  obtain ⟨hf, ht, -, -, -, hk, -⟩ := h
  refine ⟨?_, UInt16.le_iff_toNat_le.mp hf.2, ?_, UInt8.le_iff_toNat_le.mp ht.2,
    (Decidable.not_not.mp hk).2⟩
  · exact Nat.pos_of_ne_zero fun e => hf.1 (UInt16.toNat_inj.mp e)
  · exact Nat.pos_of_ne_zero fun e => ht.1 (UInt8.toNat_inj.mp e)

end Config

namespace FlowPlan

@[simp] theorem carrier_ofConfig (c : Config) :
    (ofConfig c).carrier = carrierFor c.protocol c.multipath c.target.family := rfl

@[simp] theorem protocol_ofConfig (c : Config) : (ofConfig c).protocol = c.protocol := rfl

@[simp] theorem size_ofConfig (c : Config) : (ofConfig c).size = c.flows := by
  simp [size, ofConfig]

theorem protocol_of_checksum {c : Config} (h : (ofConfig c).carrier = .udpChecksum) :
    c.protocol = .udp := by
  rw [carrier_ofConfig] at h
  unfold carrierFor at h
  split at h <;> simp_all

theorem carrier_of_icmp {c : Config} (icmp : c.protocol = .icmp) :
    (ofConfig c).carrier = .icmpSequence := by
  rw [carrier_ofConfig, icmp]
  rfl

theorem carrier_of_paris {c : Config} (udp : c.protocol = .udp) (paris : c.multipath = .paris) :
    (ofConfig c).carrier = .udpChecksum := by
  rw [carrier_ofConfig, udp, paris]
  rfl

/-- Only UDP probes over IPv6 have their token in the length. -/
theorem of_lengthCarrier {c : Config} (h : (ofConfig c).carrier = .udpPayloadLength) :
    c.protocol = .udp ∧ c.target.family = .ipv6 := by
  rw [carrier_ofConfig] at h
  unfold carrierFor at h
  split at h <;> simp_all

/-- The fields of a flow of the session. -/
theorem get?_ofConfig (c : Config) (flow : UInt16) :
    (ofConfig c).get? flow =
      if flow.toNat < c.flows.toNat then some (fieldsOf c (ofConfig c).carrier flow) else none := by
  simp only [get?, ofConfig, List.getElem?_map]
  split
  · rename_i h
    simp [List.getElem?_range h]
  · rename_i h
    simp [Nat.le_of_not_lt h]

@[simp] theorem carrier_fieldsOf (c : Config) (carrier : Carrier) (flow : UInt16) :
    (fieldsOf c carrier flow).carrier = carrier := by
  unfold fieldsOf; split <;> rfl

@[simp] theorem flow_fieldsOf (c : Config) (carrier : Carrier) (flow : UInt16) :
    (fieldsOf c carrier flow).flow = flow := by
  unfold fieldsOf; split <;> rfl

/-- The key of a flow counts from the first key. -/
theorem key_fieldsOf (c : Config) (carrier : Carrier) (flow : UInt16) :
    (fieldsOf c carrier flow).key = c.keyBase + flow := by
  unfold fieldsOf FlowFields.key Config.keyBase
  split <;> simp_all

/-- Where a flow has a source number, it is the key. -/
theorem srcPort_fieldsOf {c : Config} (hp : c.protocol ≠ .icmp) (carrier : Carrier)
    (flow : UInt16) : (fieldsOf c carrier flow).srcPort = some (c.keyBase + flow) := by
  unfold fieldsOf Config.keyBase
  split <;> simp_all

@[simp] theorem keyBase_ofConfig (c : Config) : (ofConfig c).keyBase = c.keyBase := rfl

/-- The key of a flow does not wrap around. -/
theorem toNat_keyBase_add {c : Config} (hb : c.Bounds) {flow : UInt16}
    (hf : flow.toNat < c.flows.toNat) :
    (c.keyBase + flow).toNat = c.keyBase.toNat + flow.toNat := by
  have keys := hb.keys
  rw [UInt16.toNat_add]
  exact Nat.mod_eq_of_lt (by omega)

/-- The key of a flow leads back to the flow. -/
theorem flowForKey_key {c : Config} (hb : c.Bounds) {flow : UInt16}
    (hf : flow.toNat < c.flows.toNat) :
    (ofConfig c).flowForKey (c.keyBase + flow) = some flow := by
  have sum := toNat_keyBase_add hb hf
  have diff : c.keyBase + flow - c.keyBase = flow := by
    rw [UInt16.add_comm, UInt16.add_sub_cancel]
  have le : c.keyBase ≤ c.keyBase + flow := UInt16.le_iff_toNat_le.mpr (by omega)
  have lt : flow < c.flows := UInt16.lt_iff_toNat_lt.mpr hf
  simp [flowForKey, diff, le, lt]

/-- A key leads to a flow exactly if it is the key of that flow. -/
theorem flowForKey_eq_some_iff {c : Config} (hb : c.Bounds) {key flow : UInt16} :
    (ofConfig c).flowForKey key = some flow ↔
      flow.toNat < c.flows.toNat ∧ key = c.keyBase + flow := by
  constructor
  · intro h
    rw [flowForKey, keyBase_ofConfig, size_ofConfig] at h
    split at h
    case isFalse => cases h
    rename_i within
    obtain rfl := Option.some.inj h
    refine ⟨UInt16.lt_iff_toNat_lt.mp within.2, ?_⟩
    rw [UInt16.add_comm, UInt16.sub_add_cancel]
  · rintro ⟨hf, rfl⟩
    exact flowForKey_key hb hf

/-! ## Tokens -/

/-- The token that holds hop limit and sequence byte. -/
theorem toNat_word (id : ProbeId) : id.word.toNat = id.ttl.toNat * 256 + id.seq.toNat := by
  have ht := id.ttl.toNat_lt
  have hs := id.seq.toNat_lt
  simp only [ProbeId.word, word16, UInt16.toNat_ofNat']
  omega

theorem toNat_roundSequence (round : UInt32) (flow flows : UInt16) :
    (roundSequence round flow flows).toNat = (round.toNat * flows.toNat + flow.toNat) % 256 := by
  simp only [roundSequence, UInt8.toNat_ofNat']
  omega

/-- The token of a probe where the carrier holds hop limit and sequence byte. -/
theorem toNat_sequenceToken {c : Config} (hc : (ofConfig c).carrier ≠ .udpPayloadLength)
    (round : UInt32) (flow : UInt16) (ttl : UInt8) :
    ((ofConfig c).carrier.token ((ofConfig c).probeId round flow ttl)).toNat =
      ttl.toNat * 256 + (round.toNat * c.flows.toNat + flow.toNat) % 256 := by
  have token (id : ProbeId) : (ofConfig c).carrier.token id = id.word := by
    unfold Carrier.token; split <;> simp_all
  have seq : (ofConfig c).probeId round flow ttl = ⟨ttl, roundSequence round flow c.flows⟩ := by
    unfold probeId; split <;> simp_all
  rw [token, seq, toNat_word, toNat_roundSequence]

/-- The token of a probe where the carrier is a length. -/
theorem toNat_lengthToken {c : Config} (hc : (ofConfig c).carrier = .udpPayloadLength)
    (round : UInt32) (flow : UInt16) (ttl : UInt8) :
    ((ofConfig c).carrier.token ((ofConfig c).probeId round flow ttl)).toNat =
      round.toNat % 4 * 64 + (ttl.toNat - 1) % 64 := by
  simp only [hc, Carrier.token, probeId, UInt16.toNat_ofNat', UInt8.toNat_ofNat']
  omega

/-- Within a round the tokens of a flow tell its hop limits apart. -/
theorem ttl_of_token {c : Config} {round : UInt32} {flow : UInt16} {ttl ttl' : UInt8}
    (ht : 0 < ttl.toNat ∧ ttl.toNat ≤ 64) (ht' : 0 < ttl'.toNat ∧ ttl'.toNat ≤ 64)
    (h : (ofConfig c).carrier.token ((ofConfig c).probeId round flow ttl) =
      (ofConfig c).carrier.token ((ofConfig c).probeId round flow ttl')) : ttl = ttl' := by
  have e := congrArg UInt16.toNat h
  refine UInt8.toNat_inj.mp ?_
  by_cases hc : (ofConfig c).carrier = .udpPayloadLength
  · rw [toNat_lengthToken hc, toNat_lengthToken hc] at e
    omega
  · rw [toNat_sequenceToken hc, toNat_sequenceToken hc] at e
    omega

/-- Rounds `d` apart, modulo the wrap of the round number. -/
theorem toNat_add_ofNat (round : UInt32) (d : Nat) :
    (round + UInt32.ofNat d).toNat = (round.toNat + d) % 4294967296 := by
  rw [UInt32.toNat_add, UInt32.toNat_ofNat']
  omega

/-- The wrap of the round number is a multiple of 256, so that a sequence byte does not show it. -/
theorem toNat_add_mul_mod (round : UInt32) (d flows : Nat) :
    ((round + UInt32.ofNat d).toNat * flows) % 256 =
      (round.toNat * flows + d * flows) % 256 := by
  rw [toNat_add_ofNat, ← Nat.add_mul, Nat.mul_mod,
    Nat.mod_mod_of_dvd _ (by decide : 256 ∣ 4294967296), ← Nat.mul_mod]

/-- Sequence bytes of rounds less than `256 / flows` apart differ, unless round and flow agree. -/
theorem sequence_inj {round : UInt32} {d flows flow flow' : Nat} (hd : d < 256 / flows)
    (hf : flow < flows) (hf' : flow' < flows)
    (h : (round.toNat * flows + flow) % 256 =
      ((round + UInt32.ofNat d).toNat * flows + flow') % 256) : d = 0 ∧ flow = flow' := by
  have window : d * flows + flows ≤ 256 := by
    have := Nat.mul_le_of_le_div _ _ _ (Nat.succ_le_of_lt hd)
    rwa [Nat.succ_mul] at this
  have wrap := toNat_add_mul_mod round d flows
  have hsame : d * flows + flow' = flow := by omega
  rcases Nat.eq_zero_or_pos d with rfl | hpos
  · exact ⟨rfl, by omega⟩
  · have := Nat.le_mul_of_pos_left flows hpos
    omega

/-- Where the token holds a sequence byte, probes of rounds less than `256 / flows` apart have
distinct tokens. -/
theorem sequenceToken_inj {c : Config} (hc : (ofConfig c).carrier ≠ .udpPayloadLength)
    {round : UInt32} {d : Nat} {flow flow' : UInt16} {ttl ttl' : UInt8}
    (hd : d < 256 / c.flows.toNat) (hf : flow.toNat < c.flows.toNat)
    (hf' : flow'.toNat < c.flows.toNat)
    (h : (ofConfig c).carrier.token ((ofConfig c).probeId round flow ttl) =
      (ofConfig c).carrier.token ((ofConfig c).probeId (round + UInt32.ofNat d) flow' ttl')) :
    d = 0 ∧ flow = flow' ∧ ttl = ttl' := by
  have e := congrArg UInt16.toNat h
  rw [toNat_sequenceToken hc, toNat_sequenceToken hc] at e
  have seq : (round.toNat * c.flows.toNat + flow.toNat) % 256 =
      ((round + UInt32.ofNat d).toNat * c.flows.toNat + flow'.toNat) % 256 := by omega
  obtain ⟨hd0, hff⟩ := sequence_inj hd hf hf' seq
  exact ⟨hd0, UInt16.toNat_inj.mp hff, UInt8.toNat_inj.mp (by omega)⟩

/-- Where the token is a length, probes of rounds less than four apart have one token only if round
and hop limit agree; the flow is not in it. -/
theorem lengthToken_inj {c : Config} (hc : (ofConfig c).carrier = .udpPayloadLength)
    {round : UInt32} {d : Nat} {flow flow' : UInt16} {ttl ttl' : UInt8} (hd : d < 4)
    (ht : 0 < ttl.toNat ∧ ttl.toNat ≤ 64) (ht' : 0 < ttl'.toNat ∧ ttl'.toNat ≤ 64) :
    (ofConfig c).carrier.token ((ofConfig c).probeId round flow ttl) =
      (ofConfig c).carrier.token ((ofConfig c).probeId (round + UInt32.ofNat d) flow' ttl') ↔
    d = 0 ∧ ttl = ttl' := by
  rw [← UInt16.toNat_inj, toNat_lengthToken hc, toNat_lengthToken hc, toNat_add_ofNat,
    ← UInt8.toNat_inj]
  omega

end FlowPlan

end FlowTrace
