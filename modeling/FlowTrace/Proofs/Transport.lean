import FlowTrace.Proofs.Probe
import FlowTrace.Proofs.Socket
import FlowTrace.Transport
import Mathlib.Data.List.Forall2

/-!
# Hop limits on shared sockets

Probes of all hop limits share the sockets of a session, and calls on these may fail.

- **Opening** (`Transport.opening_ok`): the sockets of an opened transport are what its path takes
  them for (`SendPath.Open`). Nothing leaves meanwhile (`makes_opening`).
- **One send** (`Sender.Sent`): no call, the hop limit alone, or the packet with its limit. It
  neither opens nor binds a socket (`Sent.open_after`), so earlier sends, complete or not, leave the
  path as it was (`open_hostAfter`).
- **Main result** (`leaves_with_own_limit`): a probe leaves with its own hop limit through the
  socket of its flow, or not at all.
-/

namespace FlowTrace

variable {c : Config}

theorem Address.exists_v4 {a : Address} (h : a.family = .ipv4) : ∃ octets, a = .v4 octets := by
  cases a with
  | v4 octets => exact ⟨octets, rfl⟩
  | v6 octets => cases h

/-- What an element of the second list is related to. -/
theorem exists_of_forall₂ {α β : Type} {R : α → β → Prop} {as : List α} {bs : List β}
    (h : List.Forall₂ R as bs) {i : Nat} {b : β} (found : bs[i]? = some b) :
    ∃ a, as[i]? = some a ∧ R a b := by
  obtain ⟨lt, rfl⟩ := List.getElem?_eq_some_iff.mp found
  exact ⟨_, List.getElem?_eq_getElem (h.length_eq ▸ lt), h.get (h.length_eq ▸ lt) lt⟩

/-- A datagram socket that is bound to the key of a flow. -/
structure FlowSocket (family : Family) (log : SocketLog) (fields : FlowFields) (socket : Nat) :
    Prop where
  origin : ∃ protocol, log.origin? socket = some (.socket family .dgram protocol)
  bound : log.bound? socket = some (.unspecified family, fields.key.toNat)

/-- From one host to the other, the sockets of the first one are not bound. -/
def Host.KeepsBindings (h h' : Host) : Prop :=
  ∃ made, h'.records = made ++ h.records ∧
    ∀ socket < h.socketCount, ∀ r ∈ made, r.call.binds? socket = none

/-- The sockets of a path were opened and bound. -/
def SendPath.Open (c : Config) (log : SocketLog) : SendPath → Prop
  | .raw socket => ∃ protocol, protocol ≠ Transport.rawProtocol ∧
      log.origin? socket = some (.socket c.target.family .raw protocol)
  | .headerIncluded socket => log.origin? socket = some .ownHeader
  | .perFlow sockets _ =>
    List.Forall₂ (FlowSocket c.target.family log) (FlowPlan.ofConfig c).flows sockets

theorem FlowSocket.append {family : Family} {made log : SocketLog} {fields : FlowFields}
    {socket : Nat} (h : FlowSocket family log fields socket)
    (kept : ∀ r ∈ made, r.call.binds? socket = none) :
    FlowSocket family (made ++ log) fields socket where
  origin := h.origin.imp fun _ => SocketLog.origin?_append
  bound := (SocketLog.bound?_append kept).trans h.bound

theorem Host.KeepsBindings.refl (h : Host) : h.KeepsBindings h := ⟨[], rfl, by simp⟩

theorem Host.KeepsBindings.trans {h h₁ h₂ : Host} (first : h.KeepsBindings h₁)
    (second : h₁.KeepsBindings h₂) : h.KeepsBindings h₂ := by
  obtain ⟨made, log, kept⟩ := first
  obtain ⟨more, log', kept'⟩ := second
  refine ⟨more ++ made, by rw [log', log, List.append_assoc], fun socket lt r hr => ?_⟩
  have grown : h.socketCount ≤ h₁.socketCount := by
    rw [socketCount, socketCount, log, List.countP_append]
    exact Nat.le_add_left _ _
  exact (List.mem_append.mp hr).elim (kept' socket (Nat.lt_of_lt_of_le lt grown) r)
    (kept socket lt r)

theorem FlowSocket.keeps {family : Family} {h h' : Host} {fields : FlowFields} {socket : Nat}
    (one : FlowSocket family h.records fields socket) (keeps : h.KeepsBindings h') :
    FlowSocket family h'.records fields socket := by
  obtain ⟨made, log, kept⟩ := keeps
  obtain ⟨protocol, origin⟩ := one.origin
  rw [log]
  exact one.append (kept socket (SocketLog.lt_socketCount origin))

/-- Calls that bind no socket leave an open path open. -/
theorem SendPath.Open.append {path : SendPath} {made log : SocketLog} (h : path.Open c log)
    (kept : ∀ r ∈ made, ∀ socket, r.call.binds? socket = none) : path.Open c (made ++ log) := by
  cases path with
  | raw socket => exact h.imp fun _ => And.imp_right SocketLog.origin?_append
  | headerIncluded socket => exact SocketLog.origin?_append h
  | perFlow sockets payloadOnly =>
    exact List.Forall₂.imp (fun _ socket one => one.append fun r hr => kept r hr socket) h

/-! ## Opening -/

namespace Transport

variable {program : String} {plan : FlowPlan} {family : Family} {h h' : Host}

/-- The call neither binds a socket nor hands over a packet. -/
def Prepares (call : SocketCall) : Prop := call.op ≠ .sendTo ∧ ∀ socket, call.binds? socket = none

theorem makes_source (socket : Nat) (framing : Framing) :
    HostM.Makes Prepares (source socket framing) :=
  (HostM.Makes.perform ⟨nofun, fun _ => rfl⟩).bind fun _ =>
    (HostM.Makes.attempt ⟨nofun, fun _ => rfl⟩).bind fun _ => .ret _

theorem makes_pingSources (sockets : List Nat) : HostM.Makes Prepares (pingSources sockets) :=
  .mapM (fun _ => (HostM.Makes.openSocket ⟨nofun, fun _ => rfl⟩).bind fun _ => makes_source _ _)
    sockets

theorem makes_icmpSources (program : String) (c : Config) (path : SendPath) :
    HostM.Makes Prepares (icmpSources program c path) := by
  refine .get_bind fun host => ?_
  have opens : Prepares (.socket c.target.family .raw (icmpProtocol c.target.isIpv6)) :=
    ⟨nofun, fun _ => rfl⟩
  split
  · exact (HostM.Makes.openSocket opens).bind fun _ => (makes_source _ _).bind fun _ => .ret _
  · refine (HostM.Makes.attempt opens).bind fun _ => ?_
    split
    · exact makes_pingSources _
    · exact .fail _

theorem makes_opened (program what : String) (family : Family) (kind : SocketKind)
    (protocol : Nat) :
    HostM.Makes (·.op ≠ .sendTo) (opened program what family kind protocol) := .openSocket nofun

theorem makes_flowSockets (program : String) (plan : FlowPlan) (family : Family)
    (protocol : Nat) : HostM.Makes (·.op ≠ .sendTo) (flowSockets program plan family protocol) :=
  .mapM (fun _ => (makes_opened _ _ _ _ _).bind fun _ => (HostM.Makes.perform nofun).bind
    fun _ => .ret _) plan.flows

theorem makes_sendPath (program : String) (c : Config) (plan : FlowPlan) :
    HostM.Makes (·.op ≠ .sendTo) (sendPath program c plan) := by
  unfold sendPath
  split
  · exact (makes_opened _ _ _ _ _).bind fun _ => .ret _
  · exact (makes_opened _ _ _ _ _).bind fun _ => ((makes_source _ _).mono fun _ => And.left).bind
      fun _ => (makes_opened _ _ _ _ _).bind fun _ => .ret _
  · dsimp only
    split
    · exact (makes_opened _ _ _ _ _).bind fun _ => .ret _
    · exact (makes_flowSockets _ _ _ _).bind fun _ => .ret _
  · exact (makes_flowSockets _ _ _ _).bind fun _ => .ret _
  · exact .fail _

/-- Nothing is handed over while a transport is opened. -/
theorem makes_opening (program : String) (c : Config) (plan : FlowPlan) :
    HostM.Makes (·.op ≠ .sendTo) (opening program c plan) :=
  (makes_sendPath program c plan).bind fun _ =>
    ((makes_icmpSources program c _).mono fun _ => And.left).bind fun _ => .ret _

theorem opened_ok {what : String} {kind : SocketKind} {protocol socket : Nat}
    (e : (opened program what family kind protocol).run h = (.ok socket, h')) :
    SocketLog.origin? h'.records socket = some (.socket family kind protocol) ∧
      socket = h.socketCount ∧ h' = h.after (.socket family kind protocol) := by
  obtain ⟨fine, rfl, rfl⟩ := HostM.openSocket_ok e
  exact ⟨SocketLog.origin?_after rfl fine, rfl, rfl⟩

/-- The socket of a flow is bound to its key, and older sockets keep their bindings. -/
theorem flowSocket_ok {protocol socket : Nat} {fields : FlowFields}
    (e : (flowSocket program family protocol fields).run h = (.ok socket, h')) :
    FlowSocket family h'.records fields socket ∧ h.KeepsBindings h' := by
  obtain ⟨socket, _, first, e⟩ := HostM.bind_ok e
  obtain ⟨_, _, performed, e⟩ := HostM.bind_ok e
  obtain ⟨rfl, rfl⟩ := HostM.pure_ok e
  obtain ⟨origin, number, rfl⟩ := opened_ok first
  obtain ⟨fine, rfl⟩ := HostM.perform_ok performed
  have bindOnly : (SocketCall.bind socket (.unspecified family) fields.key.toNat).opens = false :=
    rfl
  refine ⟨⟨⟨protocol, (SocketLog.origin?_cons bindOnly).trans origin⟩, ?_⟩, [_, _], rfl,
    fun older lt r hr => ?_⟩
  · simp [SocketLog.bound?, SocketLog.lastOf, fine, SocketCall.binds?]
  · have other : socket ≠ older := by omega
    obtain rfl | rfl : r = _ ∨ r = _ := by simpa using hr
    · simp [SocketCall.binds?, other]
    · rfl

/-- Each flow has its socket. -/
theorem flowSockets_ok {protocol : Nat} {flows : List FlowFields} {sockets : List Nat}
    (e : (flows.mapM (flowSocket program family protocol)).run h = (.ok sockets, h')) :
    List.Forall₂ (FlowSocket family h'.records) flows sockets ∧ h.KeepsBindings h' := by
  induction flows generalizing h sockets with
  | nil =>
    obtain ⟨rfl, rfl⟩ := HostM.pure_ok e
    exact ⟨.nil, .refl _⟩
  | cons fields flows ih =>
    rw [List.mapM_cons] at e
    obtain ⟨socket, _, first, e⟩ := HostM.bind_ok e
    obtain ⟨others, _, rest, e⟩ := HostM.bind_ok e
    obtain ⟨rfl, rfl⟩ := HostM.pure_ok e
    obtain ⟨own, before⟩ := flowSocket_ok first
    obtain ⟨bound, later⟩ := ih rest
    exact ⟨.cons (own.keeps later) bound, before.trans later⟩

theorem sendPath_ok {path : SendPath} {first : List Source}
    (e : (sendPath program c (.ofConfig c)).run h = (.ok (path, first), h')) :
    path.Open c h'.records := by
  unfold sendPath at e
  -- One case for each combination of protocol and privilege; all sockets of a path are opened
  -- before it is returned.
  split at e
  · obtain ⟨socket, _, e₁, e⟩ := HostM.bind_ok e
    obtain ⟨hsame, rfl⟩ := HostM.pure_ok e
    obtain ⟨rfl, -⟩ := Prod.mk.inj hsame
    refine ⟨_, ?_, (opened_ok e₁).1⟩
    cases c.target.isIpv6 <;> decide
  · obtain ⟨receiver, _, -, e⟩ := HostM.bind_ok e
    obtain ⟨replies, _, -, e⟩ := HostM.bind_ok e
    obtain ⟨socket, _, e₁, e⟩ := HostM.bind_ok e
    obtain ⟨hsame, rfl⟩ := HostM.pure_ok e
    obtain ⟨rfl, -⟩ := Prod.mk.inj hsame
    exact ⟨_, by decide, (opened_ok e₁).1⟩
  · dsimp only at e
    split at e
    · obtain ⟨socket, _, e₁, e⟩ := HostM.bind_ok e
      obtain ⟨hsame, rfl⟩ := HostM.pure_ok e
      obtain ⟨rfl, -⟩ := Prod.mk.inj hsame
      exact (opened_ok e₁).1
    · obtain ⟨sockets, _, e₁, e⟩ := HostM.bind_ok e
      obtain ⟨hsame, rfl⟩ := HostM.pure_ok e
      obtain ⟨rfl, -⟩ := Prod.mk.inj hsame
      exact (flowSockets_ok e₁).1
  · obtain ⟨sockets, _, e₁, e⟩ := HostM.bind_ok e
    obtain ⟨hsame, rfl⟩ := HostM.pure_ok e
    obtain ⟨rfl, -⟩ := Prod.mk.inj hsame
    exact (flowSockets_ok e₁).1
  · cases e

/-- The path of an opened transport is open. -/
theorem opening_ok {t : Transport} {opened : Host}
    (e : (opening program c (.ofConfig c)).run h = (.ok t, opened)) :
    t.sender.path.Open c opened.records ∧ t.sender.ipv6 = c.target.isIpv6 := by
  obtain ⟨⟨path, first⟩, h₁, e₁, e⟩ := HostM.bind_ok e
  obtain ⟨sources, h₂, e₂, e⟩ := HostM.bind_ok e
  obtain ⟨rfl, rfl⟩ := HostM.pure_ok e
  obtain ⟨made, log, kept⟩ := makes_icmpSources program c path h₁
  rw [e₂] at log
  refine ⟨?_, rfl⟩
  rw [log]
  exact (sendPath_ok e₁).append fun r hr => (kept r hr).2

end Transport

/-! ## One send -/

/-- How a probe is handed over. -/
structure Way where
  socket : Nat
  /-- The hop limit is set on the socket first. -/
  limited : Bool
  service : UInt16
  data : Bytes

/-- A way through an open path: a probe brings its header along exactly where the socket takes one,
and where each flow has its socket, it goes through that of its flow. -/
structure Way.Fits (c : Config) (log : SocketLog) (s : Sender) (p : EncodedProbe) (w : Way) :
    Prop where
  limited : w.limited = true → log.origin? w.socket ≠ some .ownHeader
  framed : w.limited = false →
    log.origin? w.socket = some .ownHeader ∧ w.data[8]? = some p.ttl
  flow : ∀ sockets payloadOnly, s.path = .perFlow sockets payloadOnly →
    ∃ fields, (FlowPlan.ofConfig c).get? p.flow = some fields ∧
      log.bound? w.socket = some (.unspecified c.target.family, fields.key.toNat)

namespace Sender

variable {s : Sender} {p : EncodedProbe} {w : Way} {h h' : Host} {result : Except IoFailure Unit}

/-- The IPv4 packet of a probe whose header the sender writes. -/
def ownPacket (p : EncodedProbe) : Bytes :=
  Packet.Ipv4.packet p.src p.dst p.ttl (p.ipId.getD 0) Packet.Udp.protocol p.transport

/-- The way for a probe, if there is one. -/
def way? (s : Sender) (p : EncodedProbe) : Option Way :=
  match s.path with
  | .raw socket => some ⟨socket, true, 0, p.transport⟩
  | .headerIncluded socket =>
    if p.src.family = .ipv4 ∧ p.dst.family = .ipv4 then some ⟨socket, false, 0, ownPacket p⟩
    else none
  | .perFlow sockets payloadOnly =>
    sockets[p.flow.toNat]?.map fun socket =>
      ⟨socket, true, p.dstPort, if payloadOnly then p.udpPayload else p.transport⟩

/-- The call that sets the hop limit of a probe. -/
def limitCall (s : Sender) (p : EncodedProbe) (w : Way) : SocketCall :=
  hopLimitCall s.ipv6 w.socket p.ttl

/-- The call that hands a probe over. -/
def handCall (p : EncodedProbe) (w : Way) : SocketCall :=
  .sendTo w.socket p.dst w.service.toNat w.data

theorem prepares_limitCall : Transport.Prepares (s.limitCall p w) := by
  unfold limitCall hopLimitCall
  split <;> exact ⟨nofun, fun _ => rfl⟩

theorem opens_limitCall : (s.limitCall p w).opens = false := by
  unfold limitCall hopLimitCall
  split <;> rfl

/-- All that the send of a probe can come to. -/
inductive Sent (s : Sender) (p : EncodedProbe) (h : Host) : Except IoFailure Unit → Host → Prop
  /-- There is no way for the probe. -/
  | refused (f : IoFailure) (no : s.way? p = none) : Sent s p h (.error f) h
  /-- The hop limit could not be set. -/
  | unlimited (w : Way) (f : IoFailure) (way : s.way? p = some w) (first : w.limited = true)
    (fails : h.failureOf (s.limitCall p w) = some f) :
    Sent s p h (.error f) (h.after (s.limitCall p w))
  /-- The packet is handed over with its limit set. -/
  | limited (w : Way) (way : s.way? p = some w) (first : w.limited = true)
    (fine : h.failureOf (s.limitCall p w) = none) :
    Sent s p h (((h.after (s.limitCall p w)).failureOf (handCall p w)).elim (.ok ()) .error)
      ((h.after (s.limitCall p w)).after (handCall p w))
  /-- The packet is handed over with a header. -/
  | framed (w : Way) (way : s.way? p = some w) (bare : w.limited = false) :
    Sent s p h ((h.failureOf (handCall p w)).elim (.ok ()) .error) (h.after (handCall p w))

theorem run_sendWithLimit (s : Sender) (p : EncodedProbe) (w : Way) (h : Host) :
    (s.sendWithLimit w.socket p w.service w.data).run h =
      match h.failureOf (s.limitCall p w) with
      | some f => (.error f, h.after (s.limitCall p w))
      | none =>
        (((h.after (s.limitCall p w)).failureOf (handCall p w)).elim (.ok ()) .error,
          (h.after (s.limitCall p w)).after (handCall p w)) := by
  rw [sendWithLimit, HostM.run_bind, HostM.run_perform, limitCall]
  cases h.failureOf (hopLimitCall s.ipv6 w.socket p.ttl) with
  | some f => rfl
  | none => exact HostM.run_perform _ _ _

theorem sent_sendWithLimit (way : s.way? p = some w) (first : w.limited = true)
    (e : (s.sendWithLimit w.socket p w.service w.data).run h = (result, h')) :
    Sent s p h result h' := by
  rw [run_sendWithLimit] at e
  cases fails : h.failureOf (s.limitCall p w) with
  | some f =>
    rw [fails] at e
    obtain ⟨rfl, rfl⟩ := Prod.mk.inj e
    exact .unlimited w f way first fails
  | none =>
    rw [fails] at e
    obtain ⟨rfl, rfl⟩ := Prod.mk.inj e
    exact .limited w way first fails

theorem sent (e : (s.send p).run h = (result, h')) : Sent s p h result h' := by
  unfold send at e
  split at e
  · rename_i socket path
    exact sent_sendWithLimit (w := ⟨socket, true, 0, p.transport⟩) (by rw [way?, path]) rfl e
  · rename_i socket path
    split at e
    · rename_i src dst
      rw [HostM.run_perform] at e
      obtain ⟨rfl, rfl⟩ := Prod.mk.inj e
      refine .framed ⟨socket, false, 0, ownPacket p⟩ ?_ rfl
      rw [way?, path]
      exact if_pos ⟨src ▸ rfl, dst ▸ rfl⟩
    · rename_i other
      obtain ⟨rfl, rfl⟩ := Prod.mk.inj e
      refine .refused _ ?_
      rw [way?, path]
      refine if_neg fun both => ?_
      obtain ⟨a, src⟩ := Address.exists_v4 both.1
      obtain ⟨b, dst⟩ := Address.exists_v4 both.2
      exact other a b src dst
  · rename_i sockets payloadOnly path
    split at e
    · obtain ⟨rfl, rfl⟩ := Prod.mk.inj e
      exact .refused _ (by rw [way?, path]; simp [*])
    · rename_i socket found
      exact sent_sendWithLimit
        (w := ⟨socket, true, p.dstPort, if payloadOnly then p.udpPayload else p.transport⟩)
        (by rw [way?, path]; simp [found]) rfl e

/-- The calls of a send, latest first. They bind no socket. -/
theorem Sent.records (sent : Sent s p h result h') :
    ∃ made, h'.records = made ++ h.records ∧ ∀ r ∈ made, ∀ socket, r.call.binds? socket = none := by
  have limit (w : Way) : ∀ socket, (s.limitCall p w).binds? socket = none := prepares_limitCall.2
  have hand (w : Way) (socket : Nat) : (handCall p w).binds? socket = none := rfl
  cases sent with
  | refused f no => exact ⟨[], rfl, by simp⟩
  | unlimited w f way first fails => exact ⟨[_], rfl, by simp [limit]⟩
  | limited w way first fine => exact ⟨[_, _], rfl, by simp [limit, hand]⟩
  | framed w way bare => exact ⟨[_], rfl, by simp [hand]⟩

theorem Sent.open_after (sent : Sent s p h result h') (opened : s.path.Open c h.records) :
    s.path.Open c h'.records := by
  obtain ⟨made, log, kept⟩ := sent.records
  rw [log]
  exact opened.append kept

/-- The host after some probes were sent, however that went. -/
def hostAfter (s : Sender) (h : Host) (probes : List EncodedProbe) : Host :=
  probes.foldl (fun h p => ((s.send p).run h).2) h

theorem open_hostAfter (opened : s.path.Open c h.records) (probes : List EncodedProbe) :
    s.path.Open c (s.hostAfter h probes).records := by
  induction probes generalizing h with
  | nil => exact opened
  | cons p probes ih => exact ih ((sent (s := s) rfl).open_after opened)

/-! ## Ways -/

theorem fits_of_way? {log : SocketLog} (opened : s.path.Open c log) (way : s.way? p = some w) :
    w.Fits c log s p := by
  unfold way? at way
  cases path : s.path with
  | raw socket =>
    rw [path] at opened way
    obtain ⟨protocol, other, origin⟩ := opened
    obtain rfl := Option.some.inj way
    refine ⟨fun _ hsame => other ?_, nofun, fun _ _ e => by rw [path] at e; cases e⟩
    exact (SocketCall.socket.inj (Option.some.inj (origin.symm.trans hsame))).2.2
  | headerIncluded socket =>
    rw [path] at opened way
    dsimp only at way
    split at way
    · obtain rfl := Option.some.inj way
      exact ⟨nofun, fun _ => ⟨opened, rfl⟩, fun _ _ e => by rw [path] at e; cases e⟩
    · cases way
  | perFlow sockets payloadOnly =>
    rw [path] at opened way
    obtain ⟨socket, found, rfl⟩ := Option.map_eq_some_iff.mp way
    obtain ⟨fields, flow, ⟨protocol, origin⟩, bound⟩ := exists_of_forall₂ opened found
    refine ⟨fun _ hsame => ?_, nofun, fun _ _ _ => ⟨fields, flow, bound⟩⟩
    cases (SocketCall.socket.inj (Option.some.inj (origin.symm.trans hsame))).2.1

/-- The hop limit of a probe is that of its socket once it was set. -/
theorem limit?_limitCall (family : s.ipv6 = p.dst.isIpv6) (log : SocketLog) :
    SocketLog.limit? (⟨s.limitCall p w, none⟩ :: log) p.dst.family w.socket =
      some p.ttl.toNat := by
  rw [SocketLog.limit?, SocketLog.lastOf, List.findSome?_cons, limitCall, hopLimitCall, family]
  cases p.dst <;> simp [Address.isIpv6, Address.family, SocketCall.limits?]

/-! ## What leaves -/

/-- What one send of a probe comes to: `made` are its calls after those of `log`, and `left` is the
packet that it handed over, if any. -/
structure Departs (c : Config) (s : Sender) (p : EncodedProbe) (log made : SocketLog)
    (result : Except IoFailure Unit) (left : Option Departure) : Prop where
  departures : SocketLog.departures (made ++ log) = left.toList ++ SocketLog.departures log
  toTarget : ∀ d ∈ left, d.addr = p.dst
  ownLimit : p.dst.family = c.target.family → ∀ d ∈ left, d.hops? = some p.ttl.toNat
  ownSocket : ∀ d ∈ left, ∀ sockets payloadOnly, s.path = .perFlow sockets payloadOnly →
    ∃ fields, (FlowPlan.ofConfig c).get? p.flow = some fields ∧
      d.bound? = some (.unspecified c.target.family, fields.key.toNat)
  ok_iff : result = .ok () ↔ ∃ d ∈ left, d.failure = none
  limitFails : (∃ r ∈ made, r.call.op ≠ .sendTo ∧ r.failure.isSome) → left = none
  noSocket : ∀ sockets payloadOnly, s.path = .perFlow sockets payloadOnly →
    sockets[p.flow.toNat]? = none → made = []
  notIpv4 : ∀ socket, s.path = .headerIncluded socket →
    ¬ (p.src.family = .ipv4 ∧ p.dst.family = .ipv4) → made = []

/-- A way is there only if the flow has a socket, and for headers of ours only between IPv4
addresses. -/
theorem of_way? (way : s.way? p = some w) :
    (∀ sockets payloadOnly, s.path = .perFlow sockets payloadOnly →
      sockets[p.flow.toNat]? ≠ none) ∧
    ∀ socket, s.path = .headerIncluded socket → p.src.family = .ipv4 ∧ p.dst.family = .ipv4 := by
  unfold way? at way
  refine ⟨fun sockets payloadOnly path none => ?_, fun socket path => ?_⟩ <;> rw [path] at way
  · simp [none] at way
  · by_contra other
    simp [other] at way

theorem departs_of_way? {log first : SocketLog} (way : s.way? p = some w)
    (fits : w.Fits c log s p) (limit : ∀ r ∈ first, r.call.op ≠ .sendTo ∧ r.failure = none ∧
      ∀ socket, r.call.binds? socket = none)
    (hops : p.dst.family = c.target.family → ∀ failure,
      (Departure.mk w.socket p.dst w.data failure (first ++ log)).hops? = some p.ttl.toNat)
    (failure : Option IoFailure) :
    Departs c s p log (⟨handCall p w, failure⟩ :: first) (failure.elim (.ok ()) .error)
      (some ⟨w.socket, p.dst, w.data, failure, first ++ log⟩) where
  departures := by
    rw [List.cons_append, SocketLog.departures, handCall,
      SocketLog.departures_append fun r hr => (limit r hr).1]
    rfl
  toTarget d hd := by
    cases hd
    rfl
  ownLimit family d hd := by
    cases hd
    exact hops family failure
  ownSocket d hd sockets payloadOnly path := by
    cases hd
    rw [Departure.bound?, SocketLog.bound?_append fun r hr => (limit r hr).2.2 w.socket]
    exact fits.flow sockets payloadOnly path
  ok_iff := by cases failure <;> simp
  limitFails := by
    rintro ⟨r, hr, other, fails⟩
    obtain rfl | hr := List.mem_cons.mp hr
    · exact absurd rfl other
    · rw [(limit r hr).2.1] at fails
      cases fails
  noSocket sockets payloadOnly path none := absurd none ((of_way? way).1 sockets payloadOnly path)
  notIpv4 socket path other := absurd ((of_way? way).2 socket path) other

/-- A send that ends before a packet is handed over. -/
theorem departs_nothing {log made : SocketLog} (f : IoFailure)
    (quiet : ∀ r ∈ made, r.call.op ≠ .sendTo) (refused : s.way? p = none → made = []) :
    Departs c s p log made (.error f) none where
  departures := SocketLog.departures_append quiet log
  toTarget := nofun
  ownLimit _ := nofun
  ownSocket := nofun
  ok_iff := ⟨nofun, nofun⟩
  limitFails _ := rfl
  noSocket sockets payloadOnly path none := by
    cases way : s.way? p with
    | none => exact refused way
    | some w => exact absurd none ((of_way? way).1 sockets payloadOnly path)
  notIpv4 socket path other := by
    cases way : s.way? p with
    | none => exact refused way
    | some w => exact absurd ((of_way? way).2 socket path) other

/-- A send through an open path. -/
theorem Sent.departs (sent : Sent s p h result h') (opened : s.path.Open c h.records)
    (ipv6 : s.ipv6 = c.target.isIpv6) :
    ∃ made left, h'.records = made ++ h.records ∧ Departs c s p h.records made result left := by
  have limitOf (family : p.dst.family = c.target.family) : s.ipv6 = p.dst.isIpv6 := by
    rw [ipv6, Address.isIpv6, Address.isIpv6, family]
  cases sent with
  | refused f no => exact ⟨[], none, rfl, departs_nothing f (List.forall_mem_nil _) fun _ => rfl⟩
  | unlimited w f way first fails =>
    refine ⟨[⟨s.limitCall p w, some f⟩], none, by rw [Host.records_after, fails]; rfl,
      departs_nothing f ?_ fun no => ?_⟩
    · exact List.forall_mem_singleton.mpr prepares_limitCall.1
    · rw [way] at no
      cases no
  | limited w way first fine =>
    have fits := fits_of_way? opened way
    have log : (h.after (s.limitCall p w)).records = [⟨s.limitCall p w, none⟩] ++ h.records := by
      rw [Host.records_after, fine]
      rfl
    have limit : ∀ r ∈ ([⟨s.limitCall p w, none⟩] : SocketLog), r.call.op ≠ .sendTo ∧
        r.failure = none ∧ ∀ socket, r.call.binds? socket = none :=
      List.forall_mem_singleton.mpr ⟨prepares_limitCall.1, rfl, prepares_limitCall.2⟩
    refine ⟨_, _, ?_, departs_of_way? way fits limit (fun family failure => ?_) _⟩
    · rw [Host.records_after, log]
      rfl
    -- The socket does not send headers of its own, so the limit that was set last holds.
    · have bare : SocketLog.origin? (⟨s.limitCall p w, none⟩ :: h.records) w.socket ≠
          some .ownHeader := by
        rw [SocketLog.origin?_cons opens_limitCall]
        exact fits.limited first
      exact (Departure.hops?_of_limit bare).trans (limit?_limitCall (limitOf family) h.records)
  | framed w way bare =>
    have fits := fits_of_way? opened way
    obtain ⟨origin, header⟩ := fits.framed bare
    refine ⟨_, _, rfl, departs_of_way? way fits (List.forall_mem_nil _)
      (fun _ failure => ?_) _⟩
    exact (Departure.hops?_of_header origin).trans (congrArg (Option.map UInt8.toNat) header)

/-- Whatever probes were sent before and whichever calls failed: a probe leaves through a transport
of the session with its own hop limit, through the socket of its flow, or it does not leave. Nothing
leaves while the transport is opened. -/
theorem leaves_with_own_limit {program : String} {t : Transport} {host opened : Host}
    (opens : (Transport.opening program c (.ofConfig c)).run host = (.ok t, opened)) :
    SocketLog.departures opened.records = SocketLog.departures host.records ∧
    ∀ (before : List EncodedProbe) (p : EncodedProbe) (result : Except IoFailure Unit)
      (after : Host), (t.sender.send p).run (t.sender.hostAfter opened before) = (result, after) →
      ∃ made left, after.records = made ++ (t.sender.hostAfter opened before).records ∧
        Departs c t.sender p (t.sender.hostAfter opened before).records made result left := by
  refine ⟨?_, fun before p result after sends => ?_⟩
  · obtain ⟨made, log, quiet⟩ := Transport.makes_opening program c (.ofConfig c) host
    rw [opens] at log
    rw [log]
    exact SocketLog.departures_append quiet host.records
  · obtain ⟨path, ipv6⟩ := Transport.opening_ok opens
    exact (sent sends).departs (open_hostAfter path before) ipv6

/-- The sender of a session of two flows of UDP probes. -/
def pairSender : Sender := ⟨.perFlow [0, 1] true, false⟩

/-- A host on which the second hop limit cannot be set. -/
def stuckHost : Host := .new [⟨.setTtl, 2, ⟨.other, "stuck"⟩⟩] none

/-- The host with the sockets of the session open. -/
def stuckOpened : Host :=
  ((Transport.opening "flowtrace" Encoder.pairConfig (.ofConfig Encoder.pairConfig)).run
    stuckHost).2

/-- The hop limit of the second probe is not set, and that of the third is. -/
theorem sends_stuckOpened {p q : EncodedProbe} (hp : p.flow = 1) (hq : q.flow = 1) :
    ∃ h f, (pairSender.send q).run (pairSender.hostAfter stuckOpened [p]) = (.error f, h) ∧
      (∃ call, call.op ≠ .sendTo ∧ h.records =
        ⟨call, some f⟩ :: (pairSender.hostAfter stuckOpened [p]).records) ∧
      ((pairSender.send q).run h).1 = .ok () := by
  have run (x : EncodedProbe) (flow : x.flow = 1) (h : Host) := by
    have way := run_sendWithLimit pairSender x ⟨1, true, x.dstPort, x.udpPayload⟩ h
    rwa [show pairSender.sendWithLimit 1 x x.dstPort x.udpPayload = pairSender.send x by
      simp [send, pairSender, flow]] at way
  have first : pairSender.hostAfter stuckOpened [p] = _ := congrArg Prod.snd (run p hp stuckOpened)
  rw [first]
  exact ⟨_, ⟨.other, "stuck"⟩, (run q hq _).trans rfl, ⟨_, prepares_limitCall.1, rfl⟩,
    congrArg Prod.fst ((run q hq _).trans rfl)⟩

/-- The second of two probes cannot be given its limit and does not leave with that of the first;
tried again, it leaves with its own. -/
theorem leaves_with_own_limit_stuckHost :
    ∃ sources p q,
      (Transport.opening "flowtrace" Encoder.pairConfig (.ofConfig Encoder.pairConfig)).run
        stuckHost = (.ok ⟨pairSender, sources⟩, stuckOpened) ∧
      (Encoder.ofConfig Encoder.pairConfig (.ofConfig Encoder.pairConfig)
        (.ofOctets4 10 0 0 1)).encode 1 0 3 = some p ∧
      (Encoder.ofConfig Encoder.pairConfig (.ofConfig Encoder.pairConfig)
        (.ofOctets4 10 0 0 1)).encode 1 0 5 = some q ∧
      SocketLog.departures (pairSender.hostAfter stuckOpened [p, q]).records =
        SocketLog.departures (pairSender.hostAfter stuckOpened [p]).records ∧
      ∃ d, SocketLog.departures (pairSender.hostAfter stuckOpened [p, q, q]).records =
          d :: SocketLog.departures (pairSender.hostAfter stuckOpened [p, q]).records ∧
        d.hops? = some 5 ∧ d.bound? = some (.unspecified .ipv4, 50001) := by
  have opens : (Transport.opening "flowtrace" Encoder.pairConfig (.ofConfig Encoder.pairConfig)).run
      stuckHost = (.ok ⟨pairSender, [⟨2, .ipv4Packet⟩]⟩, stuckOpened) := rfl
  obtain ⟨-, leaves⟩ := leaves_with_own_limit (c := Encoder.pairConfig) opens
  have second : (1 : UInt16).toNat < Encoder.pairConfig.flows.toNat := by decide
  obtain ⟨p, hp⟩ := Encoder.exists_encode Encoder.pairConfig (.ofOctets4 10 0 0 1) second 0 3
  obtain ⟨q, hq⟩ := Encoder.exists_encode Encoder.pairConfig (.ofOctets4 10 0 0 1) second 0 5
  have probe := Encoder.isProbe_of_encode hq
  obtain ⟨h, f, fails, ⟨call, limit, log⟩, again⟩ :=
    sends_stuckOpened (Encoder.isProbe_of_encode hp).flow_eq probe.flow_eq
  have stuck : pairSender.hostAfter stuckOpened [p, q] = h := congrArg Prod.snd fails
  refine ⟨_, p, q, opens, hp, hq, ?_, ?_⟩
  · obtain ⟨made, left, records, departs⟩ := leaves [p] q _ _ fails
    -- The call that fails sets the limit, and so nothing leaves in that attempt.
    have one : [⟨call, some f⟩] = made := List.append_cancel_right (log.symm.trans records)
    have none := departs.limitFails ⟨⟨call, some f⟩, one ▸ List.mem_singleton_self _, limit, rfl⟩
    rw [stuck, records, departs.departures, none]
    rfl
  · obtain ⟨made, left, records, departs⟩ :=
      leaves [p, q] q _ (pairSender.hostAfter stuckOpened [p, q, q]) rfl
    rw [stuck] at records departs
    obtain ⟨d, rfl, -⟩ := departs.ok_iff.mp again
    obtain ⟨fields, flow, bound⟩ := departs.ownSocket d rfl _ _ rfl
    have limit := departs.ownLimit (by rw [probe.dst_eq]) d rfl
    rw [probe.flow_eq] at flow
    obtain rfl := Option.some.inj flow
    rw [probe.ttl_eq] at limit
    refine ⟨d, ?_, limit, bound⟩
    rw [stuck]
    exact (congrArg SocketLog.departures records).trans departs.departures

end Sender

end FlowTrace
