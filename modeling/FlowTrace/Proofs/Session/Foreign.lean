import FlowTrace.Proofs.Response.Direct
import FlowTrace.Proofs.Session.Invariant

/-!
# Echo replies to other programs

A raw socket hears the replies to the pings of every program of the host.

- **Foreign replies** (`ForeignReply`): echo replies whose identifier, in the header and in the
  payload, is that of no flow. They are decoded as responses under such an identifier
  (`decode_foreignReply`).
- **What they resolve** (`correlate_foreign`): the one probe whose token is the sequence number, if
  they come from the target and there is one such probe.
- **Main result** (`leavesAlone_iff_not_waiting`): a foreign reply of the target leaves a session as
  it is, whatever it has done before, exactly if no waiting probe has the sequence number for a
  token.
- **Limits** (`not_leavesAlone_everywhere`): the ping of another program may have the sequence
  number of a probe.
-/

namespace FlowTrace

open Packet

/-- An identifier that no flow of a session of echo requests has. -/
def Config.Strange (c : Config) (identifier : UInt16) : Prop :=
  identifier.toNat < c.identifierBase.toNat ∨
    c.identifierBase.toNat + c.flows.toNat ≤ identifier.toNat

/-- An echo reply under some sequence number to the ping of another program. -/
structure ForeignReply (c : Config) (sequence : UInt16) (message : Bytes) : Prop where
  whole : Icmp.headerSize ≤ message.length
  type : message.HasAt 0 [Icmp.replyType c.target.family]
  valid : c.target.family = .ipv4 → Checksum.verify message = true
  /-- The identifier in the header. -/
  outer : ∀ w, message.HasAt 4 (octets16 w) → c.Strange w
  sequenced : message.HasAt 6 (octets16 sequence)
  /-- The identifier in the payload, if there is room for it. -/
  inner : ∀ w, message.HasAt 8 (octets16 w) → c.Strange w

/-- The ways in which a socket hands an ICMP message over. -/
inductive Arrives (family : Family) (message : Bytes) : Bytes → Framing → Prop where
  | bare : Arrives family message message .icmpMessage
  | behind (header : Ipv4Header) (hf : family = .ipv4) :
    Arrives family message (header.bytes Icmp.protocolV4 ++ message) .ipv4Packet

theorem FlowPlan.flowForKey_strange {c : Config} (hp : c.protocol = .icmp) {w : UInt16}
    (h : c.Strange w) : (ofConfig c).flowForKey w = none := by
  have base : (ofConfig c).keyBase = c.identifierBase := by simp [ofConfig, Config.keyBase, hp]
  have outside : ¬ (c.identifierBase ≤ w ∧ w - c.identifierBase < c.flows) := by
    rintro ⟨above, below⟩
    have diff := UInt16.toNat_sub_of_le _ _ above
    rw [UInt16.le_iff_toNat_le] at above
    rw [UInt16.lt_iff_toNat_lt, diff] at below
    unfold Config.Strange at h
    omega
  rw [flowForKey, base, size_ofConfig, if_neg outside]

namespace Decoder

variable {d : Decoder} {c : Config} {sequence : UInt16} {message data : Bytes} {framing : Framing}

/-- Whichever identifier is taken, it is that of no flow. -/
theorem echoReply_foreign (hp : d.protocol = .icmp) (h : ForeignReply c sequence message)
    (responder : Address) : ∃ w, c.Strange w ∧ d.echoReply message responder =
      .ok (some ⟨responder, .echoReply, w, sequence, none, none⟩) := by
  have whole : 8 ≤ message.length := h.whole
  obtain ⟨outer, first⟩ := Bytes.exists_hasAt_octets16 4 (by omega : 4 + 2 ≤ message.length)
  by_cases hroom : Icmp.headerSize + 4 ≤ message.length
  · rw [Icmp.headerSize] at hroom
    obtain ⟨inner, second⟩ := Bytes.exists_hasAt_octets16 8 (by omega : 8 + 2 ≤ message.length)
    obtain ⟨copy, third⟩ := Bytes.exists_hasAt_octets16 10 (by omega : 10 + 2 ≤ message.length)
    refine ⟨if copy == sequence then inner else outer, ?_, ?_⟩
    · split
      · exact h.inner inner second
      · exact h.outer outer first
    · simp only [echoReply, hp, first.word16At, h.sequenced.word16At, second.word16At,
        third.word16At, Icmp.headerSize, hroom, ne_eq, not_true_eq_false, if_false, if_true, bind,
        Except.bind, pure, Except.pure]
      split <;> rfl
  · refine ⟨outer, h.outer outer first, ?_⟩
    simp only [echoReply, hp, first.word16At, h.sequenced.word16At, hroom, ne_eq, not_true_eq_false,
      if_false, bind, Except.bind, pure, Except.pure, Bool.false_eq_true]

/-- A foreign reply is decoded as a response under an identifier of no flow. -/
theorem decode_foreignReply (hp : d.protocol = .icmp) (h : ForeignReply c sequence message)
    (arrives : Arrives c.target.family message data framing) {responder : Address}
    (hr : responder.family = c.target.family) : ∃ w, c.Strange w ∧
      d.decode data responder framing =
        .ok (some ⟨responder, .echoReply, w, sequence, none, none⟩) := by
  obtain ⟨w, strange, read⟩ := echoReply_foreign hp h responder
  have hshort : ¬ message.length < Icmp.headerSize := Nat.not_lt.mpr h.whole
  obtain ⟨code, second⟩ := Bytes.exists_byteAt 1 (Nat.lt_of_lt_of_le (by decide) h.whole)
  have type := h.type.byteAt
  -- Over IPv4 the checksum is tested; over IPv6 the kernel has done so.
  have v4 (hf : c.target.family = .ipv4) : d.icmpV4 message responder =
      .ok (some ⟨responder, .echoReply, w, sequence, none, none⟩) := by
    rw [hf] at type
    simp only [icmpV4, hshort, h.valid hf, type, second, read, Icmp.replyType, not_true_eq_false,
      or_false, if_false, if_true, bind, Except.bind]
  have v6 (hf : c.target.family = .ipv6) : d.icmpV6 message responder =
      .ok (some ⟨responder, .echoReply, w, sequence, none, none⟩) := by
    rw [hf] at type
    simp only [icmpV6, hshort, type, second, read, Icmp.replyType, if_false, if_true, bind,
      Except.bind]
  refine ⟨w, strange, ?_⟩
  cases arrives with
  | bare =>
    cases responder with
    | v4 o => exact v4 hr.symm
    | v6 o => exact v6 hr.symm
  | behind header hf =>
    rw [header.decode_bytes, if_pos rfl]
    exact v4 hf

end Decoder

/-- What a foreign reply from the target resolves is found by the sequence number alone. -/
theorem Correlator.correlate_foreign {c : Config} (hp : c.protocol = .icmp) (src : Address)
    (o : Outstanding) {w : UInt16} (strange : c.Strange w) (sequence : UInt16) (now : Instant) :
    (ofConfig c src).correlate o ⟨c.target, .echoReply, w, sequence, none, none⟩ now =
      (o.removeUnique sequence).map fun (q, o') => ((ofConfig c src).outcome ⟨q, false, o'⟩
        ⟨c.target, .echoReply, w, sequence, none, none⟩ now, o') := by
  have carrier : (FlowPlan.ofConfig c).carrier ≠ .udpChecksum := by
    rw [FlowPlan.carrier_of_icmp hp]
    nofun
  have aimed : (ofConfig c src).aimedAtTarget
      ⟨c.target, .echoReply, w, sequence, none, none⟩ = true := by
    simp [aimedAtTarget, ofConfig]
  have flow : (ofConfig c src).plan.flowForKey w = none := FlowPlan.flowForKey_strange hp strange
  have patched : (ofConfig c src).removePatched o ⟨c.target, .echoReply, w, sequence, none, none⟩ =
      none := removePatched_of_carrier carrier
  simp only [correlate, claim?, removeNamed, aimed, flow, patched, if_true]
  cases o.removeUnique sequence <;> rfl

namespace Session

/-- What a session receives is taken for no answer: no probe is resolved, the index stays as it is,
and all that changes in the table is the number of unmatched responses. -/
def LeavesAlone (setup : Setup) (now : Instant) (w : Shared) (data : Bytes) (source : Address)
    (framing : Framing) : Prop :=
  ∃ e, Listener.hear setup now w.index data source framing = .ok (e, w.index) ∧
    e.resolved? = none ∧ (w.table.record e).state = { w.table.state with
      counters :=
        { w.table.state.counters with unmatched := w.table.state.counters.unmatched + 1 } }

/-- What a session receives resolves a waiting probe, and no other. -/
def Resolves (setup : Setup) (now : Instant) (w : Shared) (data : Bytes) (source : Address)
    (framing : Framing) (p : PendingProbe) : Prop :=
  ∃ e o', Listener.hear setup now w.index data source framing = .ok (e, o') ∧
    e.resolved? = some p.key ∧ Outstanding.Claims w.index [p] o'

/-- What resolves a probe is not left alone. -/
theorem Resolves.not_leavesAlone {setup : Setup} {now : Instant} {w : Shared} {data : Bytes}
    {source : Address} {framing : Framing} {p : PendingProbe}
    (h : Resolves setup now w data source framing p) :
    ¬ LeavesAlone setup now w data source framing := by
  obtain ⟨e, o', heard, resolved, -⟩ := h
  rintro ⟨e', heard', unresolved, -⟩
  obtain ⟨rfl, -⟩ := Prod.mk.inj (Except.ok.inj (heard.symm.trans heard'))
  rw [unresolved] at resolved
  cases resolved

section Foreign

variable {c : Config} {src : Address} {w : Shared} {cur : UInt32} {sequence : UInt16}
  {message data : Bytes} {framing : Framing}

/-- What is heard of a foreign reply from the target is found by its sequence number. -/
theorem hear_foreignReply (hp : c.protocol = .icmp) (h : ForeignReply c sequence message)
    (arrives : Arrives c.target.family message data framing) (src : Address) (now : Instant)
    (o : Outstanding) :
    ∃ r : Response, Listener.hear (.ofConfig c src) now o data c.target framing =
      .ok (((o.removeUnique sequence).map fun (q, o') =>
        ((Correlator.ofConfig c src).outcome ⟨q, false, o'⟩ r now, o')).getD (.unmatched, o)) := by
  obtain ⟨k, strange, read⟩ := Decoder.decode_foreignReply
    (d := (Setup.ofConfig c src).decoder) hp h arrives rfl
  refine ⟨⟨c.target, .echoReply, k, sequence, none, none⟩, ?_⟩
  rw [← Correlator.correlate_foreign hp src o strange sequence now]
  simp only [Listener.hear, read, bind, Except.bind, pure, Except.pure]
  rfl

/-- In one round a foreign reply from the target resolves the probe with its sequence number. -/
theorem resolves_of_token (hb : c.Bounds) (hp : c.protocol = .icmp)
    (ho : w.index.OfRound c src cur) (h : ForeignReply c sequence message)
    (arrives : Arrives c.target.family message data framing) (now : Instant) {p : PendingProbe}
    (waits : p ∈ w.index.waiting) (token : p.token = sequence) :
    Resolves (.ofConfig c src) now w data c.target framing p := by
  have carrier : (FlowPlan.ofConfig c).carrier ≠ .udpPayloadLength := by
    rw [FlowPlan.carrier_of_icmp hp]
    nofun
  obtain ⟨o', removed⟩ := Correlator.exists_removeUnique hb carrier ho waits
  obtain ⟨-, -, claims⟩ := ho.wf.removeUnique_mem removed
  obtain ⟨r, heard⟩ := hear_foreignReply hp h arrives src now w.index
  rw [← token, removed] at heard
  exact ⟨_, o', heard, Correlator.resolved?_outcome (.ofConfig c src) ⟨p, false, o'⟩ r now, claims⟩

/-- A foreign reply from the target whose sequence number is no waiting token resolves nothing. -/
theorem leavesAlone_of_fresh (hp : c.protocol = .icmp) (wf : w.index.WF)
    (h : ForeignReply c sequence message) (arrives : Arrives c.target.family message data framing)
    (now : Instant) (hfresh : ∀ p ∈ w.index.waiting, p.token ≠ sequence) :
    LeavesAlone (.ofConfig c src) now w data c.target framing := by
  have none : w.index.removeUnique sequence = .none := by
    by_contra found
    obtain ⟨⟨q, o'⟩, removed⟩ := Option.ne_none_iff_exists'.mp found
    obtain ⟨hq, token, -⟩ := wf.removeUnique_mem removed
    exact hfresh q hq token
  obtain ⟨r, heard⟩ := hear_foreignReply hp h arrives src now w.index
  rw [none] at heard
  exact ⟨.unmatched, heard, rfl, rfl⟩

end Foreign

/-- All that waits after some steps of a session is of one round. -/
theorem exists_ofRound {c : Config} (hb : c.Bounds) (src : Address) (listeners : Nat)
    (start : Instant) (actions : List Action) :
    ∃ cur, (worldAfter c src listeners start actions).shared.index.OfRound c src cur := by
  obtain ⟨lost, inv⟩ := (inv_new hb src listeners start).run hb actions
  exact ⟨_, inv.ofRound⟩

/-- Whatever a session has done, a foreign reply from the target leaves it as it is, exactly if its
sequence number is no waiting token. Else the reply resolves the probe with this token. -/
theorem leavesAlone_iff_not_waiting {c : Config} (hc : c.check = .ok ()) (hp : c.protocol = .icmp)
    (src : Address) (listeners : Nat) (start : Instant) (actions : List Action)
    {sequence : UInt16} {message data : Bytes} {framing : Framing}
    (h : ForeignReply c sequence message) (arrives : Arrives c.target.family message data framing)
    (now : Instant) :
    (LeavesAlone (.ofConfig c src) now (worldAfter c src listeners start actions).shared data
        c.target framing ↔
      ∀ p ∈ (worldAfter c src listeners start actions).shared.index.waiting, p.token ≠ sequence) ∧
    ∀ p ∈ (worldAfter c src listeners start actions).shared.index.waiting, p.token = sequence →
      Resolves (.ofConfig c src) now (worldAfter c src listeners start actions).shared data c.target
        framing p := by
  have hb := Config.bounds_of_check hc
  obtain ⟨cur, index⟩ := exists_ofRound hb src listeners start actions
  have resolves {p : PendingProbe} := resolves_of_token hb hp index h arrives now (p := p)
  -- The identifier names no flow, so a claim is by the token alone.
  refine ⟨⟨fun alone p waits token => (resolves waits token).not_leavesAlone alone,
    leavesAlone_of_fresh hp index.wf h arrives now⟩, fun p => resolves⟩

/-- The target answers the ping of a program with identifier 9. -/
def strayReply (sequence : UInt16) : Bytes :=
  let numbers := octets16 9 ++ octets16 sequence
  [0, 0] ++ octets16 (Checksum.checksum ([0, 0] ++ octets16 0 ++ (numbers ++ numbers))) ++
    (numbers ++ numbers)

theorem foreignReply_strayReply (sequence : UInt16) :
    ForeignReply lonelyConfig sequence (strayReply sequence) where
  whole := Nat.le_add_right 8 4
  type := rfl
  valid _ := Checksum.verify_seal rfl (by simp)
  outer w h := by
    have nine : (strayReply sequence).HasAt 4 (octets16 9) := rfl
    obtain rfl := nine.word16_eq h
    exact .inr (by decide)
  sequenced := rfl
  inner w h := by
    have nine : (strayReply sequence).HasAt 8 (octets16 9) := rfl
    obtain rfl := nine.word16_eq h
    exact .inr (by decide)

/-- A session that sends its first probe. -/
def firstProbe : World := worldAfter lonelyConfig (.ofOctets4 10 0 0 100) 0 ⟨0⟩ (turns ⟨0⟩ 6)

/-- The first probe waits with token 256; a reply with sequence number 512 is of no account. -/
theorem leavesAlone_strayReply : lonelyConfig.check = .ok () ∧
    LeavesAlone (.ofConfig lonelyConfig (.ofOctets4 10 0 0 100)) ⟨1⟩ firstProbe.shared
      (strayReply 512) lonelyConfig.target .icmpMessage :=
  ⟨rfl, (leavesAlone_iff_not_waiting rfl rfl (.ofOctets4 10 0 0 100) 0 ⟨0⟩ (turns ⟨0⟩ 6)
    (foreignReply_strayReply 512) .bare ⟨1⟩).1.mpr (by decide)⟩

/-- A reply with sequence number 256 resolves it. -/
theorem not_leavesAlone_everywhere :
    ¬ ∀ (c : Config) (src : Address) (listeners : Nat) (start : Instant) (actions : List Action)
      (sequence : UInt16) (message data : Bytes) (framing : Framing) (now : Instant),
      c.check = .ok () → c.protocol = .icmp → ForeignReply c sequence message →
      Arrives c.target.family message data framing →
      LeavesAlone (.ofConfig c src) now (worldAfter c src listeners start actions).shared data
        c.target framing := by
  intro hall
  have alone := hall lonelyConfig (.ofOctets4 10 0 0 100) 0 ⟨0⟩ (turns ⟨0⟩ 6) 256 _ _ _ ⟨1⟩ rfl rfl
    (foreignReply_strayReply 256) .bare
  have hb : lonelyConfig.Bounds := Config.bounds_of_check rfl
  obtain ⟨cur, index⟩ := exists_ofRound hb (.ofOctets4 10 0 0 100) 0 ⟨0⟩ (turns ⟨0⟩ 6)
  have sent : ∃ p ∈ firstProbe.shared.index.waiting, p.token = 256 := by decide
  obtain ⟨p, waits, token⟩ := sent
  exact (resolves_of_token hb rfl index (foreignReply_strayReply 256) .bare ⟨1⟩ waits
    token).not_leavesAlone alone

end Session

end FlowTrace
