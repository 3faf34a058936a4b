import FlowTrace.Proofs.Response.Direct
import FlowTrace.Proofs.Session.Termination
import FlowTrace.Transport

/-!
# Replies that do not fit the buffer

A listener reads packets into a buffer of 1500 bytes. What does not fit is cut off, but the checksum
of an echo reply covers it.

- **Cut replies** (`Decoder.decode_take_replyTo`): an echo reply of which the end is missing is
  decoded just if the missing bytes add up to nothing modulo 65535.
- **Buffers** (`length_buffer`): a listener keeps its buffer for the whole session.
- **Answers** (`CountsAnswer`): a step hears the answer to a waiting probe, the table takes it, and
  the probe has no other outcome after it (`countsAnswer_of_found`).
- **Main result** (`counts_answer_iff_checksum`): the reply of the target to a waiting probe is
  counted if nothing of it is cut off, or nothing that its checksum shows. Else it is discarded, and
  the probe waits on.
- **Limits** (`counts_answer_payloadConfig`, `not_counts_answer_payloadConfig`): a payload of 1472
  bytes fits, and one of 1473 bytes does not.
-/

namespace FlowTrace

open Packet

/-! ## Cut replies -/

namespace Packet.Icmp

variable {type : UInt8} {outer identifier sequence : UInt16} {filling : Bytes} {sum spare : UInt16}

/-- Where the fields are left, only the filling is shorter. -/
theorem take_layout {n : Nat} (fields : 14 ≤ n) :
    (layout type outer identifier sequence filling sum spare).take n =
      layout type outer identifier sequence (filling.take (n - 14)) sum spare := by
  obtain ⟨n, rfl⟩ := Nat.exists_eq_add_of_le' fields
  rfl

/-- The sequence number adds to the total. -/
theorem le_total_layout :
    sequence.toNat ≤ Checksum.total (layout type outer identifier sequence filling sum spare) := by
  have fields : layout type outer identifier sequence filling sum spare =
      ([type, 0] ++ octets16 sum ++ octets16 outer) ++ octets16 sequence ++
        (octets16 identifier ++ octets16 sequence ++ octets16 spare ++ filling) := by
    simp only [layout, List.append_assoc]
  rw [fields, Checksum.total_around (by simp)]
  omega

end Packet.Icmp

/-- An echo reply over IPv4 of which the end may be missing is decoded if the missing bytes do not
show in the checksum. -/
theorem Decoder.decode_take_replyTo {d : Decoder} (hp : d.protocol = .icmp) {request : Bytes}
    {type : UInt8} {outer identifier sequence : UInt16} {filling : Bytes} {sum spare : UInt16}
    (shape : request = Icmp.layout type outer identifier sequence filling sum spare)
    (hshort : request.length < 131072) (positive : 0 < sequence.toNat) (renamed : UInt16)
    (header : Ipv4Header) {n : Nat} (fields : 14 ≤ n) (heven : n % 2 = 0) (responder : Address) :
    d.decode (header.bytes Icmp.protocolV4 ++ (Icmp.replyTo .ipv4 request renamed).take n)
        responder .ipv4Packet =
      .ok (if Checksum.total ((Icmp.replyTo .ipv4 request renamed).drop n) % 65535 = 0 then
        some ⟨responder, .echoReply, identifier, sequence, none, none⟩ else none) := by
  obtain ⟨new, reply⟩ := Icmp.replyTo_layout shape .ipv4 renamed
  have length : (Icmp.replyTo .ipv4 request renamed).length = request.length := by
    rw [reply, shape, Icmp.length_layout, Icmp.length_layout]
  have cut : (Icmp.replyTo .ipv4 request renamed).take n = Icmp.layout Icmp.echoReplyV4 renamed
      identifier sequence (filling.take (n - 14)) new spare := by
    rw [reply, Icmp.take_layout fields]
    rfl
  -- The sequence number is among the bytes that are left, so their total is not zero.
  have hvalid := Checksum.verify_take_iff (length ▸ hshort)
    (Icmp.verify_replyTo shape hshort renamed) heven
    (cut ▸ Nat.lt_of_lt_of_le positive Icmp.le_total_layout)
  rw [header.decode_bytes, if_pos rfl, icmpV4_layout hp cut]
  simp only [hvalid]

namespace EncodedProbe

/-- The packet in which a target answers an echo request over IPv4. -/
def reply (p : EncodedProbe) (header : Ipv4Header) : Bytes :=
  header.bytes Icmp.protocolV4 ++ Icmp.replyTo .ipv4 p.transport p.key

/-- The header of a reply fits the buffer of a listener. -/
theorem reply_around (p : EncodedProbe) (header : Ipv4Header) :
    (p.reply header).take Session.Listener.bufferSize = header.bytes Icmp.protocolV4 ++
        (Icmp.replyTo .ipv4 p.transport p.key).take (1480 - header.options.length) ∧
      (p.reply header).drop Session.Listener.bufferSize =
        (Icmp.replyTo .ipv4 p.transport p.key).drop (1480 - header.options.length) := by
  have hsmall := header.fits
  have hroom : Session.Listener.bufferSize - (header.bytes Icmp.protocolV4).length =
      1480 - header.options.length := by
    rw [header.length_bytes, Session.Listener.bufferSize]
    omega
  have whole : (header.bytes Icmp.protocolV4).length ≤ Session.Listener.bufferSize := by
    rw [header.length_bytes, Session.Listener.bufferSize]
    omega
  refine ⟨?_, ?_⟩
  · rw [reply, List.take_append, List.take_of_length_le whole, hroom]
  · rw [reply, List.drop_append, List.drop_eq_nil_of_le whole, List.nil_append, hroom]

section Lengths

variable {c : Config} {src : Address} {flow : UInt16} {round : UInt32} {ttl : UInt8}
  {p : EncodedProbe} (h : (Encoder.ofConfig c (.ofConfig c) src).encode flow round ttl = some p)
  (hp : c.protocol = .icmp)

include h hp

/-- An echo request that fits in a packet is short enough for its checksum to lose no carry. -/
theorem length_transport_lt (hroom : c.payloadSize + 28 ≤ 65535) : p.transport.length < 131072 := by
  have least : Encoder.leastPayload c ≤ 65507 := Nat.max_le.mpr ⟨by omega, by decide⟩
  have message : Nat.max (Encoder.leastPayload c) Icmp.minPayload ≤ 65507 :=
    Nat.max_le.mpr ⟨least, by decide⟩
  rw [Encoder.length_icmp h hp, Icmp.headerSize]
  omega

/-- What a listener has no room for is the end of the filling. -/
theorem drop_reply (header : Ipv4Header) : (p.reply header).drop Session.Listener.bufferSize =
    (Icmp.filling (Encoder.leastPayload c)).drop (1466 - header.options.length) := by
  obtain ⟨sum, spare, shape⟩ := Encoder.icmp_layout h hp
  obtain ⟨new, reply⟩ := Icmp.replyTo_layout shape .ipv4 p.key
  have hsmall := header.fits
  have fields : 1480 - header.options.length = 1466 - header.options.length + 14 := by omega
  rw [(p.reply_around header).2, reply, fields]
  rfl

/-- A payload of up to 1472 bytes leaves room for the headers. -/
theorem drop_reply_eq_nil (header : Ipv4Header)
    (hroom : c.payloadSize + header.options.length ≤ 1472) :
    (p.reply header).drop Session.Listener.bufferSize = [] := by
  have hsmall := header.fits
  have least : Encoder.leastPayload c ≤ 1472 - header.options.length :=
    Nat.max_le.mpr ⟨by omega, by rw [Udp.minPayload]; omega⟩
  have message : Nat.max (Encoder.leastPayload c) Icmp.minPayload ≤ 1472 - header.options.length :=
    Nat.max_le.mpr ⟨least, by rw [Icmp.minPayload]; omega⟩
  have length := Icmp.length_filling (Encoder.leastPayload c)
  rw [Icmp.headerSize] at length
  rw [drop_reply h hp, List.drop_eq_nil_of_le (by omega)]

end Lengths

end EncodedProbe

namespace Session

/-! ## Buffers -/

namespace Listener

theorem length_fill (buffer data : Bytes) : (fill buffer data).length = buffer.length := by
  simp only [fill, List.length_append, List.length_take, List.length_drop]
  omega

/-- A packet that fits is read back. -/
theorem take_fill {buffer data : Bytes} (hroom : data.length ≤ buffer.length) :
    (fill buffer data).take data.length = data := by
  rw [fill, List.take_of_length_le hroom, List.take_left]

theorem length_buffer_step {setup : Setup} {now : Instant} {read : Read} {l l' : Listener}
    {w w' : Shared} (h : l.step setup now read w = some (l', w')) :
    l'.buffer.length = l.buffer.length := by
  unfold step at h
  split at h
  -- Only a packet writes to the buffer, and it writes in place.
  case h_2 batch hp =>
    have taken := Option.some.inj h
    cases read with
    | packet data length source framing =>
      simp only [take] at taken
      split at taken <;> obtain ⟨rfl, -⟩ := Prod.mk.inj taken
      · exact length_fill l.buffer data
      · rfl
    | _ =>
      obtain ⟨rfl, -⟩ := Prod.mk.inj taken
      rfl
  case h_5 => cases h
  all_goals
    obtain ⟨rfl, -⟩ := Prod.mk.inj (Option.some.inj h)
    rfl

end Listener

/-- Every step leaves the buffers as large as they are. -/
theorem World.length_buffer_step {setup : Setup} {w w' : World} {a : Action}
    (h : w.step? setup a = some w')
    (sized : ∀ l ∈ w.listeners, l.buffer.length = Listener.bufferSize) :
    ∀ l ∈ w'.listeners, l.buffer.length = Listener.bufferSize := by
  cases a with
  | listen i now read =>
    obtain ⟨l, hl, hstep⟩ := Option.bind_eq_some_iff.mp h
    obtain ⟨⟨l', shared⟩, taken, rfl⟩ := Option.map_eq_some_iff.mp hstep
    intro x hx
    rcases List.mem_or_eq_of_mem_set hx with hx | rfl
    · exact sized x hx
    · exact (Listener.length_buffer_step taken).trans (sized l (List.mem_of_getElem? hl))
  | _ =>
    cases transition_of_step? h
    exact sized

/-- All listeners of a session have buffers of one size. -/
theorem length_buffer (c : Config) (src : Address) (listeners : Nat) (start : Instant)
    (as : List Action) : ∀ l ∈ (worldAfter c src listeners start as).listeners,
      l.buffer.length = Listener.bufferSize := by
  refine run_induction (P := fun _ w => ∀ l ∈ w.listeners,
    l.buffer.length = Listener.bufferSize) ?_ ?_ ?_ as
  · intro l hl
    obtain rfl := (List.mem_replicate.mp hl).2
    exact List.length_replicate
  · exact fun as a w _ _ sized => sized
  · exact fun as a w w' _ steps sized => World.length_buffer_step steps sized

/-! ## Answers -/

/-- The event that the answer of the target to a probe is. -/
def targetAnswer (c : Config) (q : PendingProbe) (now : Instant) : Answer where
  flow := q.flow
  ttl := q.ttl
  round := q.round
  responder := c.target
  rtt := now.since q.sentAt
  kind := .echoReply
  nat := none
  mpls := none

section Answers

variable (c : Config) (src : Address) (listeners : Nat) (start : Instant) (as : List Action)
  (a : Action)

/-- In the step `a` after the steps `as` of a session a probe is answered, and the session counts
the answer. -/
structure CountsAnswer (q : PendingProbe) (now : Instant) : Prop where
  /-- The step comes upon the answer, and no later one upon another outcome of the probe, up to the
  wrap of the round number. -/
  found : ∀ more, ∃ later, foundAfter c src listeners start (as ++ a :: more) =
      foundAfter c src listeners start as ++ .answered (targetAnswer c q now) :: later ∧
    (roundsAfter c src listeners start as (a :: more) < 4294967296 →
      ∀ e ∈ later, e.resolved? ≠ some q.key)
  /-- Unless a listener breaks down, the answer stays in hand until it comes into the table. It is
  there when the session has terminated. -/
  counted : ∀ more, ¬ (worldAfter c src listeners start (as ++ a :: more)).HasCrashed →
    .answered (targetAnswer c q now) ∈ appliedAfter c src listeners start (as ++ a :: more) ++
        (worldAfter c src listeners start (as ++ a :: more)).inHand ∧
      ((worldAfter c src listeners start (as ++ a :: more)).shared.table.latest.status =
          .terminated →
        .answered (targetAnswer c q now) ∈ appliedAfter c src listeners start (as ++ a :: more))

/-- In the step `a` after the steps `as` of a session a packet is discarded, and all probes wait
on. -/
structure Discards : Prop where
  found : foundAfter c src listeners start (as ++ [a]) =
    foundAfter c src listeners start as ++ [.decodeDiscarded]
  index : (worldAfter c src listeners start (as ++ [a])).shared.index =
    (worldAfter c src listeners start as).shared.index

variable {c src listeners start as a}

/-- An answer is not discarded. -/
theorem CountsAnswer.not_discards {q : PendingProbe} {now : Instant}
    (h : CountsAnswer c src listeners start as a q now) :
    ¬ Discards c src listeners start as a := by
  intro discards
  obtain ⟨later, found, -⟩ := h.found []
  have hsame := List.append_cancel_left (found.symm.trans discards.found)
  cases hsame

end Answers

section Steps

variable {c : Config} {src : Address} {listeners : Nat} {start : Instant} {as : List Action}

/-- A draining listener hears what is in a packet that fits its buffer. -/
theorem found_of_hear {i : Nat} {l : Listener} {batch : List Event} {now : Instant} {data : Bytes}
    {source : Address} {framing : Framing} {e : Event} {index : Outstanding}
    (hl : (worldAfter c src listeners start as).listeners[i]? = some l)
    (draining : l.phase = .draining batch) (hroom : data.length ≤ Listener.bufferSize)
    (hears : Listener.hear (.ofConfig c src) now
      (worldAfter c src listeners start as).shared.index data source framing = .ok (e, index)) :
    foundAfter c src listeners start
        (as ++ [.listen i now (.packet data data.length source framing)]) =
      foundAfter c src listeners start as ++ [e] ∧
    (worldAfter c src listeners start
      (as ++ [.listen i now (.packet data data.length source framing)])).shared.index = index := by
  have sized := length_buffer c src listeners start as l (List.mem_of_getElem? hl)
  have read : (Listener.fill l.buffer data).take data.length = data :=
    Listener.take_fill (sized ▸ hroom)
  have taken : l.step (.ofConfig c src) now (.packet data data.length source framing)
      (worldAfter c src listeners start as).shared =
        some (⟨Listener.addEvent batch e, Listener.fill l.buffer data, 0⟩,
          { (worldAfter c src listeners start as).shared with index := index }) := by
    simp only [Listener.step, draining, Listener.take, read, hears]
  -- The step is one of this listener: the others keep their phases and their buffers.
  have steps : (worldAfter c src listeners start as).step? (.ofConfig c src)
      (.listen i now (.packet data data.length source framing)) =
        some { worldAfter c src listeners start as with
          listeners := (worldAfter c src listeners start as).listeners.set i
            ⟨Listener.addEvent batch e, Listener.fill l.buffer data, 0⟩
          shared := { (worldAfter c src listeners start as).shared with index := index } } := by
    simp only [World.step?, hl, Option.bind_some, taken, Option.map_some]
  have heard : (worldAfter c src listeners start as).findsIn (.ofConfig c src)
      (.listen i now (.packet data data.length source framing)) = [e] := by
    simp only [World.findsIn, hl, Option.map_some, Option.getD_some, Listener.hears, draining, read,
      hears]
  refine ⟨?_, ?_⟩
  · rw [foundAfter, notesAfter_step _ steps, heard]
    rfl
  · rw [worldAfter, World.run_append]
    change ((worldAfter c src listeners start as).step _ _).shared.index = index
    rw [World.step, steps]
    rfl

/-- A probe that waits is one of the past. -/
theorem Inv.past_of_mem {cur : UInt32} {lost : Load} {w : World} (h : Inv c src cur lost w)
    {q : PendingProbe} (hq : q ∈ w.shared.index.waiting) : Past q.key cur 0 w where
  round_eq := ((UInt32.add_zero _).trans (h.probe q hq).round_eq : _)
  passed _ := h.passed q hq

/-- A step that comes upon the answer to a waiting probe, and takes it out of the index, counts
it. -/
theorem countsAnswer_of_found (hb : c.Bounds) {a : Action} {q : PendingProbe} {now : Instant}
    (hq : q ∈ (worldAfter c src listeners start as).shared.index.waiting)
    (found : foundAfter c src listeners start (as ++ [a]) =
      foundAfter c src listeners start as ++ [.answered (targetAnswer c q now)])
    (gone : ¬ (worldAfter c src listeners start (as ++ [a])).shared.index.Waits q.key) :
    CountsAnswer c src listeners start as a q now := by
  -- Whatever follows, the answer is the first thing found after `as`.
  have after (more : List Action) : foundAfter c src listeners start (as ++ a :: more) =
      foundAfter c src listeners start as ++ .answered (targetAnswer c q now) ::
        World.notes (fun w a _ => w.findsIn (.ofConfig c src) a) (.ofConfig c src)
          (worldAfter c src listeners start (as ++ [a])) more := by
    rw [List.append_cons, foundAfter, notesAfter, World.notes_append]
    change foundAfter c src listeners start (as ++ [a]) ++ _ = _
    rw [found, List.append_assoc]
    rfl
  refine ⟨fun more => ⟨_, after more, fun hd => ?_⟩, fun more intact => ?_⟩
  -- The probe is out of the index, so nothing finds it again before its round number returns.
  · have last : worldAfter c src listeners start (as ++ [a]) =
      (worldAfter c src listeners start as).step (.ofConfig c src) a := World.run_append _ _ as [a]
    obtain ⟨lost, inv, -⟩ := inv_after hb src listeners start as
    obtain ⟨lost', -, inv'⟩ := inv.step hb a
    have past := (inv.past_of_mem hq).step hb inv a
    rw [last] at gone ⊢
    exact past.not_found_run hb inv' more ((Nat.zero_add _).symm ▸ hd) gone
  -- Without a breakdown all that was found is in the table or in hand, and in the end in the table.
  · have kept := (found_after intact).mem_iff.mp
      (after more ▸ List.mem_append_right _ List.mem_cons_self)
    refine ⟨kept, fun terminated => ?_⟩
    have teardown : Teardown (worldAfter c src listeners start (as ++ a :: more)) :=
      teardown_after ..
    have closed := teardown.status.latest.symm.trans terminated
    rw [(teardown.load closed).2, List.append_nil] at kept
    exact kept

end Steps

/-! ## Replies of the target -/

/-- A listener reads a packet of the target from a raw socket, as much of it as fits its buffer. -/
def arrival (c : Config) (i : Nat) (now : Instant) (socket : Nat) (packet : Bytes) : Action :=
  .listen i now (Source.read ⟨socket, .ipv4Packet⟩ Listener.bufferSize
    (.datagram packet (some c.target)))

section Replies

variable {c : Config} {src : Address} {cur : UInt32} {o : Outstanding} {q : PendingProbe}
  {now : Instant} {p : EncodedProbe}
  (h : (Encoder.ofConfig c (.ofConfig c) src).encode q.flow q.round q.ttl = some p)

include h

/-- The response in the reply to a waiting probe claims it. -/
theorem correlate_reply (hb : c.Bounds) (ho : o.OfRound c src cur) (hq : q ∈ o.waiting)
    (hearly : now.nanos ≤ q.deadline.nanos) :
    ∃ o', (Setup.ofConfig c src).correlator.correlate o
        ⟨c.target, .echoReply, p.key, p.token, none, none⟩ now =
          some (.answered (targetAnswer c q now), o') ∧ ¬ o'.Waits q.key := by
  have probe := Encoder.isProbe_of_encode h
  have key : q.key = p.keyIn q.round := by
    simp only [PendingProbe.key, EncodedProbe.keyIn, probe.flow_eq, probe.ttl_eq]
  have answers : Response.Answers ⟨c.target, .echoReply, p.key, p.token, none, none⟩ p :=
    ⟨rfl, rfl, fun _ quoted => by cases quoted⟩
  have hsame : cur = q.round + UInt32.ofNat 0 :=
    (ho.probe q hq).round_eq.symm.trans (UInt32.add_zero _).symm
  have encoded : (Encoder.ofConfig c (.ofConfig c) src).encode p.flow q.round p.ttl = some p := by
    rw [probe.flow_eq, probe.ttl_eq]
    exact h
  obtain ⟨o', claimed, unchanged, gone⟩ :=
    Correlator.claim?_of_mem hb (hsame ▸ ho) encoded answers hq key
  refine ⟨o', ?_, key ▸ gone⟩
  have outcome : (Correlator.ofConfig c src).outcome ⟨q, false, o'⟩
      ⟨c.target, .echoReply, p.key, p.token, none, none⟩ now =
        .answered (targetAnswer c q now) := by
    simp only [Correlator.outcome, Nat.not_lt.mpr hearly, if_false, unchanged]
    rfl
  change ((Correlator.ofConfig c src).claim? o _).map _ = _
  rw [claimed, ← outcome]
  rfl

/-- What is left in the buffer of the reply to a waiting probe is decoded if the missing bytes do
not show in the checksum. -/
theorem decode_take_reply (hp : c.protocol = .icmp) (ho : o.OfRound c src cur)
    (hq : q ∈ o.waiting) (hshort : p.transport.length < 131072) (header : Ipv4Header) :
    (Setup.ofConfig c src).decoder.decode ((p.reply header).take Listener.bufferSize) c.target
        .ipv4Packet =
      .ok (if Checksum.total ((p.reply header).drop Listener.bufferSize) % 65535 = 0 then
        some ⟨c.target, .echoReply, p.key, p.token, none, none⟩ else none) := by
  have positive : 0 < p.token.toNat := by
    have carrier : (FlowPlan.ofConfig c).carrier ≠ .udpPayloadLength := by
      rw [FlowPlan.carrier_of_icmp hp]
      nofun
    have token := (Encoder.isProbe_of_encode h).toNat_token carrier
    have ttl := (ho.probe q hq).ttl_pos
    omega
  obtain ⟨sum, spare, shape⟩ := Encoder.icmp_layout h hp
  have hsmall := header.fits
  have words := header.padded
  rw [(p.reply_around header).1, (p.reply_around header).2]
  exact Decoder.decode_take_replyTo hp shape hshort positive p.key header (by omega) (by omega)
    c.target

/-- What a listener hears in the reply of the target to a waiting probe. -/
theorem hear_take_reply (hb : c.Bounds) (hp : c.protocol = .icmp) (ho : o.OfRound c src cur)
    (hq : q ∈ o.waiting) (hearly : now.nanos ≤ q.deadline.nanos)
    (hshort : p.transport.length < 131072) (header : Ipv4Header) :
    (Checksum.total ((p.reply header).drop Listener.bufferSize) % 65535 = 0 → ∃ o',
      Listener.hear (.ofConfig c src) now o ((p.reply header).take Listener.bufferSize) c.target
          .ipv4Packet = .ok (.answered (targetAnswer c q now), o') ∧ ¬ o'.Waits q.key) ∧
    (Checksum.total ((p.reply header).drop Listener.bufferSize) % 65535 ≠ 0 →
      Listener.hear (.ofConfig c src) now o ((p.reply header).take Listener.bufferSize) c.target
          .ipv4Packet = .ok (.decodeDiscarded, o)) := by
  have decoded := decode_take_reply h hp ho hq hshort header
  refine ⟨fun vanishes => ?_, fun shows => ?_⟩
  · rw [if_pos vanishes] at decoded
    obtain ⟨o', correlated, gone⟩ := correlate_reply h hb ho hq hearly
    refine ⟨o', ?_, gone⟩
    simp only [Listener.hear, decoded, correlated, bind, Except.bind, pure, Except.pure,
      Option.getD_some]
  · rw [if_neg shows] at decoded
    simp only [Listener.hear, decoded, bind, Except.bind, pure, Except.pure]

end Replies

section Arrivals

variable {c : Config} {src : Address} {listeners : Nat} {start : Instant} {as : List Action}
  {i : Nat} {l : Listener} {batch : List Event} {q : PendingProbe} {now : Instant}

/-- A listener reads the reply to a waiting probe, and either counts the answer or discards the
packet. -/
theorem counts_or_discards (hc : c.check = .ok ()) (hp : c.protocol = .icmp)
    (hroom : c.payloadSize + 28 ≤ 65535)
    (hl : (worldAfter c src listeners start as).listeners[i]? = some l)
    (draining : l.phase = .draining batch)
    (hq : q ∈ (worldAfter c src listeners start as).shared.index.waiting)
    (hearly : now.nanos ≤ q.deadline.nanos) (header : Ipv4Header) (socket : Nat) :
    ∃ p, (Encoder.ofConfig c (.ofConfig c) src).encode q.flow q.round q.ttl = some p ∧
      (Checksum.total ((p.reply header).drop Listener.bufferSize) % 65535 = 0 →
        CountsAnswer c src listeners start as (arrival c i now socket (p.reply header)) q now) ∧
      (Checksum.total ((p.reply header).drop Listener.bufferSize) % 65535 ≠ 0 →
        Discards c src listeners start as (arrival c i now socket (p.reply header))) := by
  have hb := Config.bounds_of_check hc
  obtain ⟨lost, inv, -⟩ := inv_after hb src listeners start as
  obtain ⟨p, h, -⟩ := (inv.probe q hq).encoded
  rw [← (inv.probe q hq).round_eq] at h
  obtain ⟨answered, discarded⟩ :=
    hear_take_reply h hb hp inv.ofRound hq hearly (EncodedProbe.length_transport_lt h hp hroom)
      header
  -- The listener is given no more than its buffer holds, and hears all of that.
  have fits : ((p.reply header).take Listener.bufferSize).length ≤ Listener.bufferSize :=
    List.length_take_le ..
  refine ⟨p, h, fun vanishes => ?_, fun shows => ?_⟩
  · obtain ⟨o', heard, gone⟩ := answered vanishes
    obtain ⟨found, index⟩ := found_of_hear hl draining fits heard
    exact countsAnswer_of_found hb hq found (index ▸ gone)
  · obtain ⟨found, index⟩ := found_of_hear hl draining fits (discarded shows)
    exact ⟨found, index⟩

end Arrivals

/-- In a session of echo requests whose largest packets fit in 16 bits, a listener that reads the
reply of the target to a waiting probe before its deadline counts the probe as answered, exactly if
what its buffer of 1500 bytes has no room for adds up to nothing modulo 65535, as it does where
nothing is cut off. Else it discards the reply, and the probe waits on. -/
theorem counts_answer_iff_checksum {c : Config} (hc : c.check = .ok ()) (hp : c.protocol = .icmp)
    (hroom : c.payloadSize + 28 ≤ 65535) (src : Address) (listeners : Nat) (start : Instant)
    (as : List Action) {i : Nat} {l : Listener} {batch : List Event}
    (hl : (worldAfter c src listeners start as).listeners[i]? = some l)
    (draining : l.phase = .draining batch) {q : PendingProbe}
    (hq : q ∈ (worldAfter c src listeners start as).shared.index.waiting) {now : Instant}
    (hearly : now.nanos ≤ q.deadline.nanos) (header : Ipv4Header) (socket : Nat) :
    ∃ p, (Encoder.ofConfig c (.ofConfig c) src).encode q.flow q.round q.ttl = some p ∧
      (CountsAnswer c src listeners start as (arrival c i now socket (p.reply header)) q now ↔
        Checksum.total ((p.reply header).drop Listener.bufferSize) % 65535 = 0) ∧
      (Discards c src listeners start as (arrival c i now socket (p.reply header)) ↔
        Checksum.total ((p.reply header).drop Listener.bufferSize) % 65535 ≠ 0) := by
  obtain ⟨p, h, counts, discards⟩ :=
    counts_or_discards hc hp hroom hl draining hq hearly header socket
  refine ⟨p, h, ⟨fun counted => ?_, counts⟩, fun discarded vanishes => ?_, discards⟩
  · by_contra shows
    exact counted.not_discards (discards shows)
  · exact (counts vanishes).not_discards discarded

/-- A session with one flow of echo requests with a payload of some size. -/
def payloadConfig (size : Nat) : Config :=
  { briskConfig (.ofOctets4 198 51 100 1) .icmp .paris 1 with payloadSize := size }

/-- It sends its first probe, and its listener is about to read. -/
def listening : List Action := turns ⟨0⟩ 6 ++ [.listen 0 ⟨0⟩ .nothing]

/-- The header of a packet of the target, without options. -/
def plainHeader : Ipv4Header :=
  ⟨0, 1500, 0, 0, 64, 0, #v[198, 51, 100, 1], #v[10, 0, 0, 100], [], rfl, Nat.zero_le _⟩

/-- A reply with a payload of 1472 bytes fits. -/
theorem counts_answer_payloadConfig :
    (payloadConfig 1472).check = .ok () ∧ ∃ q p,
      q ∈ (worldAfter (payloadConfig 1472) (.ofOctets4 10 0 0 100) 1 ⟨0⟩
        listening).shared.index.waiting ∧
      (Encoder.ofConfig (payloadConfig 1472) (.ofConfig (payloadConfig 1472))
        (.ofOctets4 10 0 0 100)).encode q.flow q.round q.ttl = some p ∧
      CountsAnswer (payloadConfig 1472) (.ofOctets4 10 0 0 100) 1 ⟨0⟩ listening
        (arrival (payloadConfig 1472) 0 ⟨1⟩ 3 (p.reply plainHeader)) q ⟨1⟩ := by
  have sent : ∃ q ∈ (worldAfter (payloadConfig 1472) (.ofOctets4 10 0 0 100) 1 ⟨0⟩
      listening).shared.index.waiting, 1 ≤ q.deadline.nanos := by decide +kernel
  obtain ⟨q, hq, hearly⟩ := sent
  have reading : (worldAfter (payloadConfig 1472) (.ofOctets4 10 0 0 100) 1 ⟨0⟩
      listening).listeners[0]? = some ⟨.draining [], List.replicate 1500 0, 0⟩ := rfl
  obtain ⟨p, h, counts, -⟩ := counts_answer_iff_checksum (c := payloadConfig 1472) rfl rfl
    (by decide) (.ofOctets4 10 0 0 100) 1 ⟨0⟩ listening reading rfl hq hearly plainHeader 3
  refine ⟨rfl, q, p, hq, h, counts.mpr ?_⟩
  rw [EncodedProbe.drop_reply_eq_nil h rfl plainHeader (by decide)]
  rfl

/-- One byte more is too much: the reply is discarded. -/
theorem not_counts_answer_payloadConfig :
    ¬ ∀ (c : Config) (src : Address) (listeners : Nat) (start : Instant) (as : List Action)
      (i : Nat) (l : Listener) (batch : List Event) (q : PendingProbe) (now : Instant)
      (header : Ipv4Header) (socket : Nat) (p : EncodedProbe),
      c.check = .ok () → c.protocol = .icmp → c.target.family = .ipv4 →
      c.payloadSize + 28 ≤ 65535 →
      (worldAfter c src listeners start as).listeners[i]? = some l → l.phase = .draining batch →
      q ∈ (worldAfter c src listeners start as).shared.index.waiting →
      now.nanos ≤ q.deadline.nanos → header.options = [] →
      (Encoder.ofConfig c (.ofConfig c) src).encode q.flow q.round q.ttl = some p →
      CountsAnswer c src listeners start as (arrival c i now socket (p.reply header)) q now := by
  intro hall
  have sent : ∃ q ∈ (worldAfter (payloadConfig 1473) (.ofOctets4 10 0 0 100) 1 ⟨0⟩
      listening).shared.index.waiting, 1 ≤ q.deadline.nanos := by decide +kernel
  obtain ⟨q, hq, deadline⟩ := sent
  have hearly : Instant.nanos ⟨1⟩ ≤ q.deadline.nanos := deadline
  have reading : (worldAfter (payloadConfig 1473) (.ofOctets4 10 0 0 100) 1 ⟨0⟩
      listening).listeners[0]? = some ⟨.draining [], List.replicate 1500 0, 0⟩ := rfl
  obtain ⟨p, h, -, discards⟩ := counts_or_discards (c := payloadConfig 1473) rfl rfl (by decide)
    reading rfl hq hearly plainHeader 3
  have counted := hall (payloadConfig 1473) (.ofOctets4 10 0 0 100) 1 ⟨0⟩ listening 0 _ [] q ⟨1⟩
    plainHeader 3 p rfl rfl rfl (by decide) reading rfl hq hearly rfl h
  -- The byte that does not fit is the last one of the filling, and not zero.
  have last : Icmp.filling (Encoder.leastPayload (payloadConfig 1473)) =
      filler 1466 ++ [UInt8.ofNat 1466] := by
    change (List.range (1466 + 1)).map UInt8.ofNat = _
    rw [List.range_succ, List.map_append]
    rfl
  have missing : (p.reply plainHeader).drop Listener.bufferSize = [UInt8.ofNat 1466] := by
    rw [EncodedProbe.drop_reply h rfl plainHeader, last]
    exact List.drop_left' (length_filler 1466)
  rw [missing] at discards
  exact counted.not_discards (discards (by decide))

end Session

end FlowTrace
