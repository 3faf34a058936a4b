import FlowTrace.Proofs.Session.Invariant

/-!
# What replies to the probes of a session resolve

A probe is sent after some steps of a session, and a reply to it is heard after some more. Nothing
is assumed about the packets that listeners read meanwhile, about the sends that fail, or about the
order of steps.

- **Sequence bytes** (`faithful_of_sequence_carrier`): a reply that is less than `256 / flows`
  rounds late resolves its own probe, once, and nothing else.
- **Checksums** (`faithful_iff_of_checksum_carrier`): the same, but a copy whose own probe is gone
  resolves a probe of another flow if the sums of token and flow agree.
- **Lengths** (`faithful_iff_of_length_carrier`): the same up to four rounds, but a copy whose own
  probe is gone resolves the one probe of another flow that waits in its round at its hop limit.
-/

namespace FlowTrace.Session

section Sent

variable {c : Config} {src : Address} {listeners : Nat} {start : Instant}
  {before after later : List Action} {s : Sweep} {p : EncodedProbe}

/-- The index when a reply to a probe may come: all that waits is of one round. -/
theorem sent_of_run (hb : c.Bounds)
    (hs : (worldAfter c src listeners start before).scheduler.phase = .sending s p)
    (after : List Action) :
    (worldAfter c src listeners start (before ++ after)).shared.index.OfRound c src
      (s.round + UInt32.ofNat (roundsAfter c src listeners start before after)) ∧
    (Encoder.ofConfig c (.ofConfig c) src).encode p.flow s.round p.ttl = some p ∧
    0 < p.ttl.toNat ∧ p.ttl.toNat ≤ 64 := by
  obtain ⟨lost, inv⟩ := (inv_new hb src listeners start).run hb before
  have ok := inv.phase
  change (worldAfter c src listeners start before).scheduler.phase.Ok _ _ _ at ok
  rw [hs] at ok
  obtain ⟨sweep, issued, encoded⟩ := ok
  obtain ⟨lost', inv'⟩ := inv.run hb after
  refine ⟨?_, encoded, issued.ttl_pos, Nat.le_trans issued.ttl_le hb.ttl_le⟩
  have index := inv'.ofRound
  rw [← World.run_append, ← sweep.round_eq] at index
  exact index

/-- Once a probe is gone it stays so. -/
theorem not_waits_later (hb : c.Bounds)
    (hs : (worldAfter c src listeners start before).scheduler.phase = .sending s p)
    (hd : roundsAfter c src listeners start before (after ++ later) < 4294967296)
    (hw : ¬ (worldAfter c src listeners start (before ++ after)).shared.index.Waits
      (p.keyIn s.round)) :
    ¬ (worldAfter c src listeners start (before ++ (after ++ later))).shared.index.Waits
      (p.keyIn s.round) := by
  obtain ⟨lost, inv⟩ := (inv_new hb src listeners start).run hb before
  obtain ⟨lost', inv'⟩ := inv.run hb after
  have past := (inv.past_of_sending hs).run hb inv after
  rw [roundsAfter, World.roundsBegun_append] at hd
  rw [worldAfter, World.run_append] at hw
  rw [worldAfter, World.run_append, World.run_append]
  exact past.not_waits_run hb inv' later (by rw [Nat.zero_add]; exact hd) hw

end Sent

/-- Where the token holds a sequence byte outside the checksum, a reply that comes less than
`256 / flows` rounds late resolves the probe that it answers and no other. Once this probe is
answered or timed out, copies of the reply resolve nothing and leave the index as it is. -/
theorem faithful_of_sequence_carrier {c : Config} (hc : c.check = .ok ())
    (hk : (FlowPlan.ofConfig c).carrier = .icmpSequence ∨
      (FlowPlan.ofConfig c).carrier = .tcpSequence ∨
      (FlowPlan.ofConfig c).carrier = .ipIdentification)
    (src : Address) (listeners : Nat) (start : Instant) (before after later : List Action)
    {s : Sweep} {p : EncodedProbe}
    (hs : (worldAfter c src listeners start before).scheduler.phase = .sending s p)
    (hd : roundsAfter c src listeners start before (after ++ later) < 256 / c.flows.toNat)
    {r : Response} (hr : r.Answers p) :
    (Setup.ofConfig c src).correlator.Faithful
      (worldAfter c src listeners start (before ++ after)).shared.index r (p.keyIn s.round) ∧
    (¬ (worldAfter c src listeners start (before ++ after)).shared.index.Waits
        (p.keyIn s.round) →
      ∀ now, (Setup.ofConfig c src).correlator.correlate
        (worldAfter c src listeners start (before ++ (after ++ later))).shared.index r now =
          none) := by
  have hb := Config.bounds_of_check hc
  have carrier : (FlowPlan.ofConfig c).carrier ≠ .udpPayloadLength ∧
      (FlowPlan.ofConfig c).carrier ≠ .udpChecksum := by
    rcases hk with h | h | h <;> rw [h] <;> decide
  have faithful {as : List Action}
      (hd : roundsAfter c src listeners start before as < 256 / c.flows.toNat) :
      (Setup.ofConfig c src).correlator.Faithful
        (worldAfter c src listeners start (before ++ as)).shared.index r (p.keyIn s.round) := by
    obtain ⟨index, encoded, -⟩ := sent_of_run hb hs as
    exact Correlator.faithful_of_sequence hb carrier.1 carrier.2 hd index encoded hr
  -- At most 256 rounds are far fewer than there are round numbers, so the probe does not wait
  -- again.
  have window : 256 / c.flows.toNat ≤ 256 := Nat.div_le_self ..
  refine ⟨faithful ?_, fun hw => (faithful hd).silent (not_waits_later hb hs (by omega) hw)⟩
  exact Nat.lt_of_le_of_lt (roundsAfter_le_append ..) hd

/-- The address that the sessions below trace. -/
def hostV4 : Address := .ofOctets4 192 0 2 1

/-- The address that they trace from. -/
def localV4 : Address := .ofOctets4 10 0 0 100

/-- A session with two flows of echo requests. -/
def echoConfig : Config := briskConfig hostV4 .icmp .paris 2

/-- Its first probe. -/
def echoProbe : EncodedProbe :=
  ((Setup.ofConfig echoConfig localV4).encoder.encode 0 0 1).get rfl

/-- The echo reply to it. -/
def echoReply : Response := ⟨hostV4, .echoReply, echoProbe.key, echoProbe.token, none, none⟩

/-- The probes of the first round expire; in the second one the reply resolves nothing. -/
theorem faithful_echoReply :
    echoConfig.check = .ok () ∧
    (Setup.ofConfig echoConfig localV4).correlator.correlate
      (worldAfter echoConfig localV4 0 ⟨0⟩ (turns ⟨0⟩ 6 ++ ((turns ⟨0⟩ 14 ++
        expiry ⟨3000000000⟩) ++ turns ⟨3000000000⟩ 8))).shared.index echoReply ⟨3000000001⟩ =
          none := by
  refine ⟨rfl, ?_⟩
  have answers : echoReply.Answers echoProbe := ⟨rfl, rfl, nofun⟩
  have sending : (worldAfter echoConfig localV4 0 ⟨0⟩ (turns ⟨0⟩ 6)).scheduler.phase =
      .sending ⟨0, ⟨0⟩, [2, 1], [1], true⟩ echoProbe := rfl
  exact (faithful_of_sequence_carrier rfl (.inl rfl) localV4 0 ⟨0⟩ (turns ⟨0⟩ 6)
    (turns ⟨0⟩ 14 ++ expiry ⟨3000000000⟩) (turns ⟨3000000000⟩ 8) sending (by decide)
    answers).2 (by decide) ⟨3000000001⟩

/-- Where the token is the UDP checksum, a reply that comes less than `256 / flows` rounds late
resolves nothing but the probe that it answers, unless this probe is gone and a waiting one has the
same sum of token and flow. -/
theorem faithful_iff_of_checksum_carrier {c : Config} (hc : c.check = .ok ())
    (hk : (FlowPlan.ofConfig c).carrier = .udpChecksum)
    (src : Address) (listeners : Nat) (start : Instant) (before after later : List Action)
    {s : Sweep} {p : EncodedProbe}
    (hs : (worldAfter c src listeners start before).scheduler.phase = .sending s p)
    (hd : roundsAfter c src listeners start before (after ++ later) < 256 / c.flows.toNat)
    {r : Response} (hr : r.Quotes p) :
    ((Setup.ofConfig c src).correlator.Faithful
      (worldAfter c src listeners start (before ++ after)).shared.index r (p.keyIn s.round) ↔
      ¬ (¬ (worldAfter c src listeners start (before ++ after)).shared.index.Waits
          (p.keyIn s.round) ∧
        ∃ q ∈ (worldAfter c src listeners start (before ++ after)).shared.index.waiting,
          q.token.toNat + q.flow.toNat = p.token.toNat + p.flow.toNat)) ∧
    (¬ (worldAfter c src listeners start (before ++ after)).shared.index.Waits
        (p.keyIn s.round) →
      ¬ (worldAfter c src listeners start (before ++ (after ++ later))).shared.index.Waits
        (p.keyIn s.round)) := by
  have hb := Config.bounds_of_check hc
  have window : 256 / c.flows.toNat ≤ 256 := Nat.div_le_self ..
  obtain ⟨index, encoded, ttl⟩ := sent_of_run hb hs after
  refine ⟨?_, not_waits_later hb hs (by omega)⟩
  have hshort := Nat.lt_of_le_of_lt (roundsAfter_le_append ..) hd
  exact Correlator.faithful_iff_of_checksum hb hk hshort index encoded ttl hr

/-- A session with two flows whose tokens are UDP checksums. -/
def checksumConfig : Config := briskConfig hostV4 .udp .paris 2

/-- The probe of its second flow in the first round. -/
def checksumProbe : EncodedProbe :=
  ((Setup.ofConfig checksumConfig localV4).encoder.encode 1 0 1).get rfl

/-- The sweep when it is sent. -/
def lastOfTwo : Sweep := ⟨0, ⟨0⟩, [2, 2], [], true⟩

/-- The error of a router that quotes it. -/
def checksumQuote : Response :=
  ⟨.ofOctets4 10 9 9 1, .timeExceeded 0, checksumProbe.key, checksumProbe.token,
    some (checksumProbe.quote 1), none⟩

theorem quotes_checksumQuote : checksumQuote.Quotes checksumProbe := ⟨rfl, rfl, 1, rfl⟩

/-- While the probe waits, the reply resolves it. -/
theorem faithful_checksumQuote :
    checksumConfig.check = .ok () ∧ (Setup.ofConfig checksumConfig localV4).correlator.Faithful
      (worldAfter checksumConfig localV4 0 ⟨0⟩ (turns ⟨0⟩ 13 ++ [])).shared.index checksumQuote
      (checksumProbe.keyIn 0) := by
  refine ⟨rfl, (faithful_iff_of_checksum_carrier rfl rfl localV4 0 ⟨0⟩ (turns ⟨0⟩ 13) [] []
    (s := lastOfTwo) rfl (by decide) quotes_checksumQuote).1.mpr fun mistaken => ?_⟩
  exact mistaken.1 (by decide)

/-- The probes of the first round expire; in the second one the reply resolves the probe of the
first flow. -/
theorem not_faithful_of_checksum_carrier :
    ¬ ∀ (c : Config) (src : Address) (listeners : Nat) (start : Instant)
      (before after : List Action) (s : Sweep) (p : EncodedProbe) (r : Response),
      c.check = .ok () → (FlowPlan.ofConfig c).carrier = .udpChecksum →
      (worldAfter c src listeners start before).scheduler.phase = .sending s p →
      roundsAfter c src listeners start before after < 256 / c.flows.toNat → r.Quotes p →
      (Setup.ofConfig c src).correlator.Faithful
        (worldAfter c src listeners start (before ++ after)).shared.index r
        (p.keyIn s.round) := by
  intro hall
  have faithful := hall checksumConfig localV4 0 ⟨0⟩ (turns ⟨0⟩ 13)
    (turns ⟨0⟩ 7 ++ (expiry ⟨3000000000⟩ ++ turns ⟨3000000000⟩ 8)) lastOfTwo checksumProbe
    checksumQuote rfl rfl rfl (by decide) quotes_checksumQuote
  -- The own probe is gone, so a faithful reply would give no event.
  have silent := congrArg Option.isSome (faithful.silent (by decide) ⟨3000000000⟩)
  cases silent

/-- Where the token is a length, a reply that comes less than four rounds late resolves nothing but
the probe that it answers, unless this probe is gone and exactly one other flow has a probe waiting
in its round at its hop limit. -/
theorem faithful_iff_of_length_carrier {c : Config} (hc : c.check = .ok ())
    (hk : (FlowPlan.ofConfig c).carrier = .udpPayloadLength)
    (src : Address) (listeners : Nat) (start : Instant) (before after later : List Action)
    {s : Sweep} {p : EncodedProbe}
    (hs : (worldAfter c src listeners start before).scheduler.phase = .sending s p)
    (hd : roundsAfter c src listeners start before (after ++ later) < 4)
    {r : Response} (hr : r.Quotes p) :
    ((Setup.ofConfig c src).correlator.Faithful
      (worldAfter c src listeners start (before ++ after)).shared.index r (p.keyIn s.round) ↔
      ¬ (¬ (worldAfter c src listeners start (before ++ after)).shared.index.Waits
          (p.keyIn s.round) ∧
        ∃! q, q ∈ (worldAfter c src listeners start (before ++ after)).shared.index.waiting ∧
          q.round = s.round ∧ q.ttl = p.ttl)) ∧
    (¬ (worldAfter c src listeners start (before ++ after)).shared.index.Waits
        (p.keyIn s.round) →
      ¬ (worldAfter c src listeners start (before ++ (after ++ later))).shared.index.Waits
        (p.keyIn s.round)) := by
  have hb := Config.bounds_of_check hc
  obtain ⟨index, encoded, ttl⟩ := sent_of_run hb hs after
  refine ⟨?_, not_waits_later hb hs (by omega)⟩
  have hshort := Nat.lt_of_le_of_lt (roundsAfter_le_append ..) hd
  exact Correlator.faithful_iff_of_length hb hk hshort index encoded ttl hr

/-- The address that the session below traces. -/
def hostV6 : Address := .ofGroups #v[0x2001, 0xdb8, 0, 0, 0, 0, 0, 1]

/-- The address that it traces from. -/
def localV6 : Address := .ofGroups #v[0x2001, 0xdb8, 0, 0, 0, 0, 1, 0]

/-- A session with two flows whose tokens are lengths. -/
def lengthConfig : Config := briskConfig hostV6 .udp .dublin 2

/-- The probe of its first flow in the first round. -/
def lengthProbe : EncodedProbe :=
  ((Setup.ofConfig lengthConfig localV6).encoder.encode 0 0 1).get rfl

/-- The sweep when it is sent. -/
def firstOfTwo : Sweep := ⟨0, ⟨0⟩, [2, 1], [1], true⟩

/-- The error of a router that quotes it. -/
def lengthQuote : Response :=
  ⟨.ofGroups #v[0x2001, 0xdb8, 0, 0, 0, 0, 2, 0], .timeExceeded 0, lengthProbe.key,
    lengthProbe.token, some (lengthProbe.quote 1), none⟩

theorem quotes_lengthQuote : lengthQuote.Quotes lengthProbe := ⟨rfl, rfl, 1, rfl⟩

/-- While the probe waits, the reply resolves it. -/
theorem faithful_lengthQuote :
    lengthConfig.check = .ok () ∧ (Setup.ofConfig lengthConfig localV6).correlator.Faithful
      (worldAfter lengthConfig localV6 0 ⟨0⟩ (turns ⟨0⟩ 6 ++ turns ⟨1⟩ 7)).shared.index
      lengthQuote (lengthProbe.keyIn 0) := by
  refine ⟨rfl, (faithful_iff_of_length_carrier rfl rfl localV6 0 ⟨0⟩ (turns ⟨0⟩ 6)
    (turns ⟨1⟩ 7) [] (s := firstOfTwo) rfl (by decide) quotes_lengthQuote).1.mpr
    fun mistaken => ?_⟩
  exact mistaken.1 (by decide)

/-- The probe of the first flow expires; then the reply resolves the probe of the second one. -/
theorem not_faithful_of_length_carrier :
    ¬ ∀ (c : Config) (src : Address) (listeners : Nat) (start : Instant)
      (before after : List Action) (s : Sweep) (p : EncodedProbe) (r : Response),
      c.check = .ok () → (FlowPlan.ofConfig c).carrier = .udpPayloadLength →
      (worldAfter c src listeners start before).scheduler.phase = .sending s p →
      roundsAfter c src listeners start before after < 4 → r.Quotes p →
      (Setup.ofConfig c src).correlator.Faithful
        (worldAfter c src listeners start (before ++ after)).shared.index r
        (p.keyIn s.round) := by
  intro hall
  have faithful := hall lengthConfig localV6 0 ⟨0⟩ (turns ⟨0⟩ 6)
    (turns ⟨1⟩ 7 ++ expiry ⟨3000000000⟩) firstOfTwo lengthProbe lengthQuote rfl rfl rfl
    (by decide) quotes_lengthQuote
  have silent := congrArg Option.isSome (faithful.silent (by decide) ⟨3000000000⟩)
  cases silent

end FlowTrace.Session
