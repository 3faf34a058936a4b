import FlowTrace.Correlator
import FlowTrace.Proofs.Checksum
import FlowTrace.Proofs.Outstanding
import FlowTrace.Proofs.Reply

/-!
# What a reply resolves

All waiting probes belong to one round (`Outstanding.OfRound`). A reply answers a probe of the same
round or of an earlier one, `d` rounds before.

- **Own probe** (`claim?_of_waits`): while it waits, flow and token find it.
- **Token in a sequence byte** (`faithful_of_sequence`): once the own probe is gone, no way leads to
  another one.
- **Token in a length** (`faithful_iff_of_length`): once it is gone, the token alone finds the probe
  of another flow, if exactly one other flow has one waiting at that hop limit.
- **Token in a checksum** (`faithful_iff_of_checksum`): once it is gone, undoing a change of the
  source number that did not happen may give the token of another flow's probe.
-/

namespace FlowTrace

/-- The evidence of a NAT in an event. -/
def Event.nat? : Event → Option FieldChange
  | .answered a => a.nat
  | _ => none

/-- The registration of a probe of a round. -/
structure PendingProbe.IsProbe (c : Config) (src : Address) (round : UInt32) (q : PendingProbe) :
    Prop where
  round_eq : q.round = round
  ttl_pos : 0 < q.ttl.toNat
  ttl_le : q.ttl.toNat ≤ 64
  encoded : ∃ e, (Encoder.ofConfig c (.ofConfig c) src).encode q.flow round q.ttl = some e ∧
    q.token = e.token ∧ q.expected = e.expected

/-- All waiting probes belong to one round. -/
structure Outstanding.OfRound (c : Config) (src : Address) (round : UInt32) (o : Outstanding) :
    Prop where
  wf : o.WF
  length : o.shards.length = c.flows.toNat
  probe : ∀ q ∈ o.waiting, q.IsProbe c src round

/-- Before the first probe of a round nothing waits. -/
theorem Outstanding.ofRound_new {c : Config} (hf : 0 < c.flows.toNat) (src : Address)
    (round : UInt32) : (new c.flows).OfRound c src round where
  wf := new_wf c.flows
  length := by
    have some_ : c.flows ≠ 0 := fun none => by simp [none] at hf
    simp [new, some_]
  probe q hq := by simp [new_waiting] at hq

/-- One more probe of the round. -/
theorem Outstanding.OfRound.insert? {c : Config} {src : Address} {round : UInt32}
    {o o' : Outstanding} {q : PendingProbe} (ho : o.OfRound c src round)
    (hq : q.IsProbe c src round) (h : o.insert? q = some o') : o'.OfRound c src round where
  wf := ho.wf.insert? h
  length := (insert?_length h).trans ho.length
  probe x hx := by
    rcases List.mem_cons.mp ((insert?_waiting h).mem_iff.mp hx) with rfl | hx
    · exact hq
    · exact ho.probe x hx

/-- The probe as it is registered. -/
def EncodedProbe.keyIn (p : EncodedProbe) (round : UInt32) : ProbeKey := ⟨p.flow, round, p.ttl⟩

theorem PendingProbe.IsProbe.token_eq {c : Config} {src : Address} {round : UInt32}
    {q : PendingProbe} (h : q.IsProbe c src round) : q.flow.toNat < c.flows.toNat ∧ q.token =
      (FlowPlan.ofConfig c).carrier.token ((FlowPlan.ofConfig c).probeId round q.flow q.ttl) := by
  obtain ⟨e, he, ht, -⟩ := h.encoded
  have he := Encoder.isProbe_of_encode he
  exact ⟨he.flow_lt, ht.trans he.token_eq⟩

/-- A waiting probe of a round with flow and token of another probe of the round is this probe. -/
theorem PendingProbe.IsProbe.key_of_token {c : Config} {src : Address} {round : UInt32}
    {q : PendingProbe} (h : q.IsProbe c src round) {p : EncodedProbe}
    (hp : (Encoder.ofConfig c (.ofConfig c) src).encode p.flow round p.ttl = some p)
    (ht : 0 < p.ttl.toNat ∧ p.ttl.toNat ≤ 64) (flow : q.flow = p.flow) (token : q.token = p.token) :
    q.key = p.keyIn round := by
  have tokens := token
  rw [h.token_eq.2, (Encoder.isProbe_of_encode hp).token_eq, flow] at tokens
  have ttl := FlowPlan.ttl_of_token ⟨h.ttl_pos, h.ttl_le⟩ ht tokens
  simp [key, EncodedProbe.keyIn, flow, h.round_eq, ttl]

namespace Correlator

/-- The correlator of a configuration; `source` is the local address. -/
def ofConfig (c : Config) (source : Address) : Correlator := ⟨.ofConfig c, c.target, some source⟩

/-- A reply to a probe is taken for nothing else. -/
structure Faithful (c : Correlator) (o : Outstanding) (r : Response) (k : ProbeKey) : Prop where
  /-- An event is about the probe, shows no NAT, and leaves the probe resolved. -/
  names : ∀ {now e o'}, c.correlate o r now = some (e, o') →
    e.resolved? = some k ∧ e.nat? = none ∧ ¬ o'.Waits k
  /-- The reply is heard while the probe waits. -/
  heard : o.Waits k → ∀ now, (c.correlate o r now).isSome
  /-- Later copies resolve nothing. -/
  silent : ¬ o.Waits k → ∀ now, c.correlate o r now = none

/-! ## Claims and events -/

theorem resolved?_outcome (c : Correlator) (claim : Claim) (r : Response) (now : Instant) :
    (c.outcome claim r now).resolved? = some claim.probe.key := by
  simp only [outcome]; split <;> rfl

theorem nat?_outcome {c : Correlator} {claim : Claim} {r : Response}
    (h : c.fieldChange claim r = none) (now : Instant) : (c.outcome claim r now).nat? = none := by
  simp only [outcome]
  split
  · rfl
  · exact h

theorem correlate_eq_some {c : Correlator} {o o' : Outstanding} {r : Response} {now : Instant}
    {e : Event} (h : c.correlate o r now = some (e, o')) :
    ∃ claim, c.claim? o r = some claim ∧ e = c.outcome claim r now ∧ o' = claim.rest := by
  obtain ⟨claim, hc, he⟩ := Option.map_eq_some_iff.mp h
  simp only [Prod.mk.injEq] at he
  exact ⟨claim, hc, he.1.symm, he.2.symm⟩

/-- Whichever way a response finds a probe, it takes it out by the flow and token of the probe. -/
theorem remove_of_claim? {c : Correlator} {o : Outstanding} {r : Response} {claim : Claim}
    (wf : o.WF) (h : c.claim? o r = some claim) :
    o.remove claim.probe.flow claim.probe.token = some (claim.probe, claim.rest) := by
  -- Every way to a probe ends in a removal: by flow and token, or by the token alone, which removes
  -- by flow and token once it has found the only flow.
  have own {flow token : UInt16} {q : PendingProbe} {o' : Outstanding}
      (h : o.remove flow token = some (q, o')) : o.remove q.flow q.token = some (q, o') := by
    obtain ⟨-, rfl, rfl⟩ := wf.remove_mem h
    exact h
  have unique {q : PendingProbe} {o' : Outstanding} (h : (if c.aimedAtTarget r then
      o.removeUnique r.token else none) = some (q, o')) :
      o.remove q.flow q.token = some (q, o') := by
    split at h
    case isFalse => cases h
    unfold Outstanding.removeUnique at h
    split at h
    · exact own h
    · cases h
  unfold claim? at h
  split at h
  · rename_i q o' named
    obtain rfl : Claim.mk q false o' = claim := by simpa using h
    unfold removeNamed at named
    simp only at named
    split at named
    · rcases Option.or_eq_some_iff.mp named with hf | ⟨-, ht⟩
      · exact own hf
      · exact unique ht
    · exact unique named
  · split at h
    case isFalse => cases h
    obtain ⟨⟨q, o'⟩, patched, rfl⟩ := Option.map_eq_some_iff.mp h
    unfold removePatched at patched
    split at patched
    · exact own patched
    · cases patched

/-- It claims this probe and no other. -/
theorem claims_of_claim? {c : Correlator} {o : Outstanding} {r : Response} {claim : Claim}
    (wf : o.WF) (h : c.claim? o r = some claim) :
    Outstanding.Claims o [claim.probe] claim.rest := wf.claims_remove (remove_of_claim? wf h)

/-- An event is about the probe that is claimed, and about one only. -/
theorem claims_of_correlate {c : Correlator} {o o' : Outstanding} {r : Response} {now : Instant}
    {e : Event} (wf : o.WF) (h : c.correlate o r now = some (e, o')) :
    ∃ q, Outstanding.Claims o [q] o' ∧ e.resolved? = some q.key := by
  obtain ⟨claim, hc, rfl, rfl⟩ := correlate_eq_some h
  exact ⟨claim.probe, claims_of_claim? wf hc, resolved?_outcome c claim r now⟩

/-- A claim of the own probe, and no claim once it is gone. -/
theorem faithful_of_claim {c : Correlator} {o : Outstanding} {r : Response} {k : ProbeKey}
    (own : o.Waits k → ∃ claim, c.claim? o r = some claim ∧ claim.probe.key = k ∧
      c.fieldChange claim r = none ∧ ¬ claim.rest.Waits k)
    (gone : ¬ o.Waits k → c.claim? o r = none) : c.Faithful o r k where
  names {now e o'} h := by
    obtain ⟨claim, hc, rfl, rfl⟩ := correlate_eq_some h
    by_cases hw : o.Waits k
    · obtain ⟨claim', hc', hk, hn, hr⟩ := own hw
      rw [hc] at hc'
      obtain rfl : claim = claim' := by simpa using hc'
      exact ⟨hk ▸ resolved?_outcome c claim r now, nat?_outcome hn now, hr⟩
    · rw [gone hw] at hc
      cases hc
  heard hw now := by
    obtain ⟨claim, hc, -⟩ := own hw
    simp [correlate, hc]
  silent hw now := by simp [correlate, gone hw]

theorem claim?_of_removeNamed {c : Correlator} {o o' : Outstanding} {r : Response}
    {q : PendingProbe} (h : c.removeNamed o r = some (q, o')) :
    c.claim? o r = some ⟨q, false, o'⟩ := by
  simp [claim?, h]

/-- A response that names no waiting token is not taken for a reply to a probe as it was sent. -/
theorem removeNamed_of_fresh {c : Correlator} {o : Outstanding} {r : Response} (wf : o.WF)
    (hfresh : ∀ q ∈ o.waiting, q.token ≠ r.token) : c.removeNamed o r = none := by
  have byFlow (flow : UInt16) : o.remove flow r.token = none :=
    wf.remove_eq_none_iff.mpr fun q hq _ ht => hfresh q hq ht
  have byToken : o.removeUnique r.token = none := by
    by_contra h
    obtain ⟨⟨q, o'⟩, hq⟩ := Option.ne_none_iff_exists'.mp h
    obtain ⟨hmem, ht, -⟩ := wf.removeUnique_mem hq
    exact hfresh q hmem ht
  unfold removeNamed
  cases c.plan.flowForKey r.flowKey <;> simp [byFlow, byToken]

/-! ## Replies to the own probe -/

section Reply

variable {c : Config} {src : Address} {o : Outstanding} {r : Response} {p : EncodedProbe}
  {round : UInt32} {d : Nat}

/-- The probe's own registration. -/
theorem registered_of_key (ho : o.OfRound c src (round + UInt32.ofNat d))
    (hp : (Encoder.ofConfig c (.ofConfig c) src).encode p.flow round p.ttl = some p)
    {q : PendingProbe} (hq : q ∈ o.waiting) (hk : q.key = p.keyIn round) :
    d % 4294967296 = 0 ∧ q.token = p.token ∧ q.expected = p.expected := by
  obtain ⟨hround, -, -, e, he, ht, hx⟩ := ho.probe q hq
  simp only [PendingProbe.key, EncodedProbe.keyIn, ProbeKey.mk.injEq] at hk
  obtain ⟨hf, hr, ht'⟩ := hk
  have hsame : round + UInt32.ofNat d = round := hround.symm.trans hr
  rw [hf, ht', hsame, hp] at he
  obtain rfl : p = e := by simpa using he
  refine ⟨?_, ht, hx⟩
  have := congrArg UInt32.toNat hsame
  rw [FlowPlan.toNat_add_ofNat] at this
  have := round.toNat_lt
  omega

/-- A reply leads to the flow of its probe. -/
theorem flowForKey_of_answers (hb : c.Bounds)
    (hp : (Encoder.ofConfig c (.ofConfig c) src).encode p.flow round p.ttl = some p)
    (hr : r.Answers p) : (FlowPlan.ofConfig c).flowForKey r.flowKey = some p.flow := by
  have h := Encoder.isProbe_of_encode hp
  rw [hr.key, h.key_eq]
  exact FlowPlan.flowForKey_key hb h.flow_lt

/-- The quote in a reply shows no NAT. -/
theorem fieldChange_of_answers
    (hp : (Encoder.ofConfig c (.ofConfig c) src).encode p.flow round p.ttl = some p)
    (hr : r.Answers p) {claim : Claim} (hx : claim.probe.expected = p.expected)
    (hn : claim.patched = false) : (ofConfig c src).fieldChange claim r = none := by
  unfold fieldChange
  cases hq : r.quoted with
  | none => rfl
  | some quoted =>
    obtain ⟨ttl, rfl⟩ := hr.quoted quoted hq
    have target : (ofConfig c src).target = p.dst := (Encoder.isProbe_of_encode hp).dst_eq.symm
    simp [hx, hn, target, p.find_quote ttl]

/-- A reply claims its own probe among those that wait. -/
theorem claim?_of_mem (hb : c.Bounds) (ho : o.OfRound c src (round + UInt32.ofNat d))
    (hp : (Encoder.ofConfig c (.ofConfig c) src).encode p.flow round p.ttl = some p)
    (hr : r.Answers p) {q : PendingProbe} (hq : q ∈ o.waiting) (hk : q.key = p.keyIn round) :
    ∃ o', (ofConfig c src).claim? o r = some ⟨q, false, o'⟩ ∧
      (ofConfig c src).fieldChange ⟨q, false, o'⟩ r = none ∧ ¬ o'.Waits (p.keyIn round) := by
  obtain ⟨-, ht, hx⟩ := registered_of_key ho hp hq hk
  have hf : q.flow = p.flow := congrArg ProbeKey.flow hk
  obtain ⟨o', hrem⟩ := ho.wf.exists_remove hq
  rw [hf, ht] at hrem
  have named : (ofConfig c src).removeNamed o r = some (q, o') := by
    simp [removeNamed, ofConfig, flowForKey_of_answers hb hp hr, hr.token, hrem]
  refine ⟨o', claim?_of_removeNamed named, fieldChange_of_answers hp hr hx rfl, ?_⟩
  rintro ⟨x, hxm, hxk⟩
  have inO := (ho.wf.claims_remove hrem).mem hxm
  exact ho.wf.remove_gone hrem hxm (congrArg ProbeKey.flow hxk)
    (registered_of_key ho hp inO hxk).2.1

/-- While the own probe waits, the reply claims it. -/
theorem claim?_of_waits (hb : c.Bounds) (ho : o.OfRound c src (round + UInt32.ofNat d))
    (hp : (Encoder.ofConfig c (.ofConfig c) src).encode p.flow round p.ttl = some p)
    (hr : r.Answers p) (hw : o.Waits (p.keyIn round)) :
    ∃ claim, (ofConfig c src).claim? o r = some claim ∧ claim.probe.key = p.keyIn round ∧
      (ofConfig c src).fieldChange claim r = none ∧ ¬ claim.rest.Waits (p.keyIn round) := by
  obtain ⟨q, hq, hk⟩ := hw
  obtain ⟨o', claimed, unchanged, gone⟩ := claim?_of_mem hb ho hp hr hq hk
  exact ⟨_, claimed, hk, unchanged, gone⟩

/-- A quote names the target. -/
theorem aimedAtTarget_of_quotes
    (hp : (Encoder.ofConfig c (.ofConfig c) src).encode p.flow round p.ttl = some p)
    (hr : r.Quotes p) : (ofConfig c src).aimedAtTarget r = true := by
  obtain ⟨ttl, hq⟩ := hr.quoted
  have target : p.dst = (ofConfig c src).target := (Encoder.isProbe_of_encode hp).dst_eq
  simp [aimedAtTarget, hq, EncodedProbe.quote, target]

/-- Once the own probe is gone, nothing waits under its flow and token. -/
theorem remove_of_gone (ho : o.OfRound c src (round + UInt32.ofNat d))
    (own : ∀ q ∈ o.waiting, q.flow = p.flow → q.token = p.token → q.key = p.keyIn round)
    (hw : ¬ o.Waits (p.keyIn round)) : o.remove p.flow p.token = none :=
  ho.wf.remove_eq_none_iff.mpr fun q hq hf ht => hw ⟨q, hq, own q hq hf ht⟩

/-! ## The token holds a sequence byte -/

/-- A waiting probe with the token of the probe is the probe. -/
theorem key_of_sequenceToken (hc : (FlowPlan.ofConfig c).carrier ≠ .udpPayloadLength)
    (hd : d < 256 / c.flows.toNat) (ho : o.OfRound c src (round + UInt32.ofNat d))
    (hp : (Encoder.ofConfig c (.ofConfig c) src).encode p.flow round p.ttl = some p)
    {q : PendingProbe} (hq : q ∈ o.waiting) (ht : q.token = p.token) :
    q.key = p.keyIn round := by
  have hpe := Encoder.isProbe_of_encode hp
  obtain ⟨hqf, hqt⟩ := (ho.probe q hq).token_eq
  have tokens := hpe.token_eq.symm.trans (ht.symm.trans hqt)
  obtain ⟨rfl, hf, hl⟩ := FlowPlan.sequenceToken_inj hc hd hpe.flow_lt hqf tokens
  have hround : q.round = round := by simpa using (ho.probe q hq).round_eq
  simp [PendingProbe.key, EncodedProbe.keyIn, hf, hl, hround]

/-- No two waiting probes of one round have one token. -/
theorem eq_of_sequenceToken (hb : c.Bounds)
    (hc : (FlowPlan.ofConfig c).carrier ≠ .udpPayloadLength) {round : UInt32}
    (ho : o.OfRound c src round) {q q' : PendingProbe} (hq : q ∈ o.waiting) (hq' : q' ∈ o.waiting)
    (h : q.token = q'.token) : q = q' := by
  obtain ⟨hf, ht⟩ := (ho.probe q hq).token_eq
  obtain ⟨hf', ht'⟩ := (ho.probe q' hq').token_eq
  have hnear : 0 < 256 / c.flows.toNat :=
    Nat.div_pos (hb.flows_le.trans (by decide)) hb.flows_pos
  have hsame : round + UInt32.ofNat 0 = round := UInt32.add_zero round
  rw [← hsame] at ht'
  obtain ⟨-, flow, -⟩ := FlowPlan.sequenceToken_inj hc hnear hf hf' (ht.symm.trans (h.trans ht'))
  exact ho.wf.eq_of_token hq hq' flow h

/-- In one round the token alone finds a waiting probe. -/
theorem exists_removeUnique (hb : c.Bounds)
    (hc : (FlowPlan.ofConfig c).carrier ≠ .udpPayloadLength) {round : UInt32}
    (ho : o.OfRound c src round) {q : PendingProbe} (hq : q ∈ o.waiting) :
    ∃ o', o.removeUnique q.token = some (q, o') := by
  have few : o.shards.length ≤ 65536 := by
    have := ho.length
    have := hb.flows_le
    omega
  have found : (o.removeUnique q.token).isSome = true := (ho.wf.removeUnique_isSome_iff few).mpr
    ⟨q, ⟨hq, rfl⟩, fun x hx => eq_of_sequenceToken hb hc ho hx.1 hq hx.2⟩
  obtain ⟨⟨x, o'⟩, removed⟩ := Option.isSome_iff_exists.mp found
  obtain ⟨hx, token, -⟩ := ho.wf.removeUnique_mem removed
  obtain rfl := eq_of_sequenceToken hb hc ho hx hq token
  exact ⟨o', removed⟩

/-- In one round a response about the target finds the waiting probe whose token it names, whichever
flow it names. -/
theorem exists_removeNamed (hb : c.Bounds)
    (hc : (FlowPlan.ofConfig c).carrier ≠ .udpPayloadLength) {round : UInt32}
    (ho : o.OfRound c src round) {k : Correlator} (aimed : k.aimedAtTarget r = true)
    {q : PendingProbe} (hq : q ∈ o.waiting) (token : q.token = r.token) :
    ∃ o', k.removeNamed o r = some (q, o') := by
  obtain ⟨o', unique⟩ := exists_removeUnique hb hc ho hq
  rw [token] at unique
  unfold removeNamed
  simp only [aimed, if_true, unique]
  split
  · rename_i flow _
    cases named : o.remove flow r.token with
    | none => exact ⟨o', rfl⟩
    | some y =>
      obtain ⟨y, o''⟩ := y
      obtain ⟨hy, -, hyt⟩ := ho.wf.remove_mem named
      obtain rfl := eq_of_sequenceToken hb hc ho hy hq (hyt.trans token.symm)
      exact ⟨o'', rfl⟩
  · exact ⟨o', rfl⟩

/-- Once the own probe is gone, neither flow and token nor the token alone find anything. -/
theorem removeNamed_of_gone (hc : (FlowPlan.ofConfig c).carrier ≠ .udpPayloadLength)
    (hd : d < 256 / c.flows.toNat) (ho : o.OfRound c src (round + UInt32.ofNat d))
    (hp : (Encoder.ofConfig c (.ofConfig c) src).encode p.flow round p.ttl = some p)
    (hr : r.Answers p) (hw : ¬ o.Waits (p.keyIn round)) :
    (ofConfig c src).removeNamed o r = none :=
  removeNamed_of_fresh ho.wf fun q hq ht =>
    hw ⟨q, hq, key_of_sequenceToken hc hd ho hp hq (ht.trans hr.token)⟩

theorem removePatched_of_carrier (hc : (FlowPlan.ofConfig c).carrier ≠ .udpChecksum) :
    (ofConfig c src).removePatched o r = none := by
  have owners : (ofConfig c src).patchOwners o r = [] := if_pos hc
  rw [removePatched, owners]

/-- A reply that comes less than `256 / flows` rounds late resolves its own probe or nothing. -/
theorem faithful_of_sequence (hb : c.Bounds)
    (hc : (FlowPlan.ofConfig c).carrier ≠ .udpPayloadLength)
    (hk : (FlowPlan.ofConfig c).carrier ≠ .udpChecksum) (hd : d < 256 / c.flows.toNat)
    (ho : o.OfRound c src (round + UInt32.ofNat d))
    (hp : (Encoder.ofConfig c (.ofConfig c) src).encode p.flow round p.ttl = some p)
    (hr : r.Answers p) : (ofConfig c src).Faithful o r (p.keyIn round) := by
  refine faithful_of_claim (claim?_of_waits hb ho hp hr) fun hw => ?_
  simp [claim?, removeNamed_of_gone hc hd ho hp hr hw, removePatched_of_carrier hk]

/-! ## The token is a length -/

/-- The flow is not in the token: the waiting probes with the token of the probe are those of its
round and hop limit. -/
theorem lengthToken_iff (hc : (FlowPlan.ofConfig c).carrier = .udpPayloadLength) (hd : d < 4)
    (ho : o.OfRound c src (round + UInt32.ofNat d))
    (hp : (Encoder.ofConfig c (.ofConfig c) src).encode p.flow round p.ttl = some p)
    (ht : 0 < p.ttl.toNat ∧ p.ttl.toNat ≤ 64) {q : PendingProbe} (hq : q ∈ o.waiting) :
    q.token = p.token ↔ q.round = round ∧ q.ttl = p.ttl := by
  have hq' := ho.probe q hq
  have tokens : q.token = p.token ↔ d = 0 ∧ p.ttl = q.ttl := by
    rw [hq'.token_eq.2, (Encoder.isProbe_of_encode hp).token_eq, eq_comm]
    exact FlowPlan.lengthToken_inj hc hd ht ⟨hq'.ttl_pos, hq'.ttl_le⟩
  have rounds : q.round = round ↔ d = 0 := by
    rw [hq'.round_eq, ← UInt32.toNat_inj, FlowPlan.toNat_add_ofNat]
    have := round.toNat_lt
    omega
  rw [tokens, rounds, eq_comm (a := p.ttl)]

/-- A reply whose own probe is gone resolves the probe of another flow exactly if one such probe,
and no other, waits in the round and at the hop limit of the own one. -/
theorem faithful_iff_of_length (hb : c.Bounds)
    (hc : (FlowPlan.ofConfig c).carrier = .udpPayloadLength) (hd : d < 4)
    (ho : o.OfRound c src (round + UInt32.ofNat d))
    (hp : (Encoder.ofConfig c (.ofConfig c) src).encode p.flow round p.ttl = some p)
    (ht : 0 < p.ttl.toNat ∧ p.ttl.toNat ≤ 64) (hr : r.Quotes p) :
    (ofConfig c src).Faithful o r (p.keyIn round) ↔
      ¬ (¬ o.Waits (p.keyIn round) ∧
        ∃! q, q ∈ o.waiting ∧ q.round = round ∧ q.ttl = p.ttl) := by
  -- Within four rounds a token and a flow give round and hop limit, so that no other probe of the
  -- own flow has the token.
  have byFlow (hw : ¬ o.Waits (p.keyIn round)) : o.remove p.flow p.token = none := by
    refine remove_of_gone ho (fun q hq hf hqt => ?_) hw
    obtain ⟨hround, httl⟩ := (lengthToken_iff hc hd ho hp ht hq).mp hqt
    simp [PendingProbe.key, EncodedProbe.keyIn, hf, hround, httl]
  -- A token is a length here and does not depend on the flow; the probes that share it are those of
  -- the same round and hop limit.
  have rivals : (o.removeUnique p.token).isSome = true ↔
      ∃! q, q ∈ o.waiting ∧ q.round = round ∧ q.ttl = p.ttl := by
    rw [ho.wf.removeUnique_isSome_iff (by have := ho.length; have := hb.flows_le; omega)]
    refine existsUnique_congr fun q => and_congr_right fun hq => ?_
    exact lengthToken_iff hc hd ho hp ht hq
  have named (hw : ¬ o.Waits (p.keyIn round)) :
      (ofConfig c src).removeNamed o r = o.removeUnique p.token := by
    simp [removeNamed, aimedAtTarget_of_quotes hp hr, byFlow hw, hr.token,
      show (ofConfig c src).plan = .ofConfig c from rfl, flowForKey_of_answers hb hp hr.answers]
  constructor
  · rintro faithful ⟨hw, hrival⟩
    obtain ⟨⟨q, o'⟩, hq⟩ := Option.isSome_iff_exists.mp (rivals.mpr hrival)
    have silent := faithful.silent hw q.sentAt
    simp [correlate, claim?_of_removeNamed ((named hw).trans hq)] at silent
  · intro free
    refine faithful_of_claim (claim?_of_waits hb ho hp hr.answers) fun hw => ?_
    have none : o.removeUnique p.token = none := by
      by_contra h
      exact free ⟨hw, rivals.mp (Option.isSome_iff_ne_none.mpr h)⟩
    have patched : (ofConfig c src).removePatched o r = .none :=
      removePatched_of_carrier (by rw [hc]; decide)
    simp [claim?, named hw, none, patched]

/-! ## The token is a checksum -/

/-- Whatever flow the changes of a NAT are undone for, the token that they lead to makes up one sum
with the flow. -/
def LeadsTo (c : Config) (src : Address) (r : Response) (sum : Nat) : Prop :=
  ∃ quoted port seen, r.quoted = some quoted ∧ quoted.srcPort = some port ∧
    quoted.udpChecksum = some seen ∧ seen ≠ 0 ∧ ∀ f : UInt16, f.toNat < c.flows.toNat →
      (sentChecksum seen port ((ofConfig c src).changedSource quoted) (c.keyBase + f)).toNat +
        f.toNat = sum

/-- The flows that are tried for a quote with a checksum. -/
theorem patchOwners_eq (hc : (FlowPlan.ofConfig c).carrier = .udpChecksum) {quoted : QuotedProbe}
    {port seen : UInt16} (hq : r.quoted = some quoted) (hport : quoted.srcPort = some port)
    (hseen : quoted.udpChecksum = some seen) (nonzero : seen ≠ 0) :
    (ofConfig c src).patchOwners o r = ((List.range c.flows.toNat).map .ofNat).filterMap fun f =>
      if o.contains f
        (sentChecksum seen port ((ofConfig c src).changedSource quoted) (c.keyBase + f)) then
        some (f, sentChecksum seen port ((ofConfig c src).changedSource quoted) (c.keyBase + f))
      else none := by
  have hicmp : c.protocol ≠ .icmp := by rw [FlowPlan.protocol_of_checksum hc]; decide
  have sum : quoted.udpChecksum.filter (· ≠ 0) = some seen := by
    simp [hseen, Option.filter, nonzero]
  have carrier : (ofConfig c src).plan.carrier = .udpChecksum := hc
  simp only [patchOwners, carrier, hq, hport, sum, ne_eq, not_true_eq_false, ↓reduceIte]
  show List.filterMap _ (List.map _ _) = _
  rw [List.filterMap_map, List.filterMap_map]
  refine congrArg (List.filterMap · _) (funext fun i => ?_)
  simp only [Function.comp_apply, FlowPlan.srcPort_fieldsOf hicmp, FlowPlan.flow_fieldsOf,
    Option.bind_some]

/-- A flow is found where a waiting probe of it has the token that undoing the changes on the flow
leads to. -/
theorem mem_patchOwners_iff (hc : (FlowPlan.ofConfig c).carrier = .udpChecksum)
    (ho : o.OfRound c src round) {quoted : QuotedProbe} {port seen : UInt16}
    (hq : r.quoted = some quoted) (hport : quoted.srcPort = some port)
    (hseen : quoted.udpChecksum = some seen) (nonzero : seen ≠ 0) {x : UInt16 × UInt16} :
    x ∈ (ofConfig c src).patchOwners o r ↔ ∃ q ∈ o.waiting, x = (q.flow, q.token) ∧ q.token =
      sentChecksum seen port ((ofConfig c src).changedSource quoted) (c.keyBase + q.flow) := by
  rw [patchOwners_eq hc hq hport hseen nonzero, List.mem_filterMap]
  constructor
  · rintro ⟨f, -, hx⟩
    split at hx
    case isFalse => cases hx
    rename_i hcon
    obtain ⟨q, hq, rfl, hqt⟩ := ho.wf.contains_iff.mp hcon
    obtain rfl : (q.flow, q.token) = x := by rw [hqt]; simpa using hx
    exact ⟨q, hq, rfl, hqt⟩
  · rintro ⟨q, hq, rfl, token⟩
    have hqf := (ho.probe q hq).token_eq.1
    refine ⟨q.flow, List.mem_map.mpr ⟨_, List.mem_range.mpr hqf, UInt16.ofNat_toNat⟩, ?_⟩
    have hcon := ho.wf.contains_iff.mpr ⟨q, hq, rfl, rfl⟩
    simp [← token, hcon]

/-- A flow is found where a waiting probe of it makes up the sum that undoing the changes leads
to. -/
theorem mem_patchOwners (hc : (FlowPlan.ofConfig c).carrier = .udpChecksum)
    (ho : o.OfRound c src round) {sum : Nat} (hr : LeadsTo c src r sum) {x : UInt16 × UInt16} :
    x ∈ (ofConfig c src).patchOwners o r ↔ ∃ q ∈ o.waiting, x = (q.flow, q.token) ∧
      q.token.toNat + q.flow.toNat = sum := by
  obtain ⟨quoted, port, seen, hq, hport, hseen, nonzero, exact_⟩ := hr
  rw [mem_patchOwners_iff hc ho hq hport hseen nonzero]
  refine exists_congr fun q => and_congr_right fun hq => and_congr_right fun _ => ?_
  have undone := exact_ q.flow (ho.probe q hq).token_eq.1
  rw [← UInt16.toNat_inj]
  omega

theorem nodup_patchOwners (hb : c.Bounds) (hc : (FlowPlan.ofConfig c).carrier = .udpChecksum)
    {quoted : QuotedProbe} {port seen : UInt16} (hq : r.quoted = some quoted)
    (hport : quoted.srcPort = some port) (hseen : quoted.udpChecksum = some seen)
    (nonzero : seen ≠ 0) : ((ofConfig c src).patchOwners o r).Nodup := by
  have flows := hb.flows_le
  rw [patchOwners_eq hc hq hport hseen nonzero]
  refine List.Nodup.filterMap (fun f g x hf hg => ?_)
    (Outstanding.nodup_map_ofNat_range (by omega))
  have fst {f token : UInt16} (h : x ∈ if o.contains f token then some (f, token) else none) :
      x.1 = f := by
    split at h
    · exact congrArg Prod.fst (Option.some.inj h).symm
    · cases h
  exact (fst hf).symm.trans (fst hg)

/-- In one round no two probes of different flows have the same sum of token and flow. -/
theorem eq_of_token_add_flow (hb : c.Bounds)
    (hc : (FlowPlan.ofConfig c).carrier = .udpChecksum) {round : UInt32}
    (ho : o.OfRound c src round) {q q' : PendingProbe} (hq : q ∈ o.waiting) (hq' : q' ∈ o.waiting)
    (h : q.token.toNat + q.flow.toNat = q'.token.toNat + q'.flow.toNat) : q = q' := by
  have flows := hb.flows_le
  obtain ⟨hf, ht⟩ := (ho.probe q hq).token_eq
  obtain ⟨hf', ht'⟩ := (ho.probe q' hq').token_eq
  have hcl : (FlowPlan.ofConfig c).carrier ≠ .udpPayloadLength := by rw [hc]; decide
  have flow : q.flow = q'.flow := by
    rw [ht, ht', FlowPlan.toNat_sequenceToken hcl, FlowPlan.toNat_sequenceToken hcl] at h
    exact UInt16.toNat_inj.mp (by omega)
  exact ho.wf.eq_of_token hq hq' flow (UInt16.toNat_inj.mp (by rw [flow] at h; omega))

/-- If a waiting probe has the token that undoing the changes leads to, no other flow fits. -/
theorem patchOwners_eq_singleton (hb : c.Bounds)
    (hc : (FlowPlan.ofConfig c).carrier = .udpChecksum) (ho : o.OfRound c src round) {sum : Nat}
    (hr : LeadsTo c src r sum) {q : PendingProbe} (hq : q ∈ o.waiting)
    (hsum : q.token.toNat + q.flow.toNat = sum) :
    (ofConfig c src).patchOwners o r = [(q.flow, q.token)] := by
  obtain ⟨quoted, port, seen, hquoted, hport, hseen, nonzero, -⟩ := id hr
  refine Outstanding.eq_singleton_of_mem_iff
    (nodup_patchOwners hb hc hquoted hport hseen nonzero) fun x => ?_
  rw [mem_patchOwners hc ho hr]
  constructor
  · rintro ⟨q', hq', rfl, hsum'⟩
    rw [eq_of_token_add_flow hb hc ho hq' hq (hsum'.trans hsum.symm)]
  · rintro rfl
    exact ⟨q, hq, rfl, hsum⟩

/-- Where the source number was not changed, undoing its change adds the number of the probe's flow
and takes off that of the other. -/
theorem leadsTo_of_quotes (hb : c.Bounds) (hc : (FlowPlan.ofConfig c).carrier = .udpChecksum)
    (hp : (Encoder.ofConfig c (.ofConfig c) src).encode p.flow round p.ttl = some p)
    (ht : 0 < p.ttl.toNat ∧ p.ttl.toNat ≤ 64) (hr : r.Quotes p) :
    LeadsTo c src r (p.token.toNat + p.flow.toNat) := by
  obtain ⟨ttl, hquoted⟩ := hr.quoted
  have hpe := Encoder.isProbe_of_encode hp
  have hudp : c.protocol = .udp := FlowPlan.protocol_of_checksum hc
  have htoken := hpe.toNat_token (by rw [hc]; decide)
  -- A stored checksum of zero says that there is none, so it has to be excluded first.
  have nonzero : p.token ≠ 0 := by
    rintro h
    rw [h, UInt16.toNat_zero] at htoken
    omega
  have sum : (p.quote ttl).udpChecksum = some p.token := by
    simp [EncodedProbe.quote, EncodedProbe.udpChecksum, hpe.protocol_eq, hudp, hpe.checksum_eq hc]
  have source : (ofConfig c src).changedSource (p.quote ttl) = none := by
    simp [changedSource, ofConfig, EncodedProbe.quote, hpe.src_eq]
  refine ⟨_, _, _, hquoted, hpe.srcPort_eq (by rw [hudp]; decide), sum, nonzero, fun f hf => ?_⟩
  -- No key wraps, and a hop limit from 1 to 64 keeps the sum within one turn.
  have keys := hb.keys
  have flows := hb.flows_le
  have hpf := hpe.flow_lt
  have key {g : UInt16} (hg : g.toNat < c.flows.toNat) := FlowPlan.toNat_keyBase_add hb hg
  have h := Checksum.toNat_undoPatch_octets16 p.token (c.keyBase + f) (c.keyBase + p.flow)
    (by rw [key hf, key hpf]; omega) (by rw [key hf, key hpf]; omega)
  rw [key hf, key hpf] at h
  rw [source, sentChecksum]
  omega

/-- A reply that comes less than `256 / flows` rounds late, and whose own probe is gone, resolves
another probe exactly if one waits whose token and flow have the sum of its own. -/
theorem faithful_iff_of_checksum (hb : c.Bounds)
    (hc : (FlowPlan.ofConfig c).carrier = .udpChecksum) (hd : d < 256 / c.flows.toNat)
    (ho : o.OfRound c src (round + UInt32.ofNat d))
    (hp : (Encoder.ofConfig c (.ofConfig c) src).encode p.flow round p.ttl = some p)
    (ht : 0 < p.ttl.toNat ∧ p.ttl.toNat ≤ 64) (hr : r.Quotes p) :
    (ofConfig c src).Faithful o r (p.keyIn round) ↔
      ¬ (¬ o.Waits (p.keyIn round) ∧ ∃ q ∈ o.waiting,
        q.token.toNat + q.flow.toNat = p.token.toNat + p.flow.toNat) := by
  have hcl : (FlowPlan.ofConfig c).carrier ≠ .udpPayloadLength := by rw [hc]; decide
  have named (hw : ¬ o.Waits (p.keyIn round)) : (ofConfig c src).removeNamed o r = none :=
    removeNamed_of_gone hcl hd ho hp hr.answers hw
  have aimed := aimedAtTarget_of_quotes hp hr
  constructor
  · rintro faithful ⟨hw, q, hq, hsum⟩
    -- No other flow fits, so the claim is not given up as ambiguous.
    have owners := patchOwners_eq_singleton hb hc ho (leadsTo_of_quotes hb hc hp ht hr) hq hsum
    obtain ⟨o', removed⟩ := ho.wf.exists_remove hq
    have silent := faithful.silent hw q.sentAt
    simp [correlate, claim?, named hw, aimed, removePatched, owners, removed] at silent
  · intro free
    refine faithful_of_claim (claim?_of_waits hb ho hp hr.answers) fun hw => ?_
    have owners : (ofConfig c src).patchOwners o r = [] := by
      refine List.eq_nil_iff_forall_not_mem.mpr fun x hx => free ⟨hw, ?_⟩
      obtain ⟨q, hq, -, hsum⟩ := (mem_patchOwners hc ho (leadsTo_of_quotes hb hc hp ht hr)).mp hx
      exact ⟨q, hq, hsum⟩
    simp [claim?, named hw, removePatched, owners]

end Reply

end Correlator

end FlowTrace
