import FlowTrace.Address.Text
import FlowTrace.Hop.Table
import FlowTrace.Json.Reader
import FlowTrace.Json.Value

/-!
# The hop table as JSON

* Hop records, counters, events and snapshots (`Snapshot.toJson`) have a JSON form. Extremes of
  round-trip times are whole microseconds.
* `HopRecord.reread`: what is left of a record that is written and read again. The parts of a
  microsecond are lost, and so is the latest time, so the jitter starts afresh.
-/

namespace FlowTrace

/-- An address is its text. -/
instance : ToJson Address := ⟨fun a => .text a.text⟩

/-- The name of a kind, with its number where it has one. -/
def ResponseKind.toJson : ResponseKind → Json
  | .timeExceeded code => .object [("TimeExceeded", .object [("code", .nat code.toNat)])]
  | .destinationUnreachable code =>
    .object [("DestinationUnreachable", .object [("code", .nat code.toNat)])]
  | .packetTooBig mtu => .object [("PacketTooBig", .object [("mtu", .nat mtu.toNat)])]
  | .echoReply => .text "EchoReply"
  | .tcpReply => .text "TcpReply"
  | .tcpRefused => .text "TcpRefused"

instance : ToJson ResponseKind := ⟨ResponseKind.toJson⟩

instance : ToJson Packet.MplsLabel where
  toJson l :=
    .object
      [("label", toJson l.label), ("exp", toJson l.exp), ("bottom", toJson l.bottom),
        ("ttl", toJson l.ttl)]

/-- The changed field with both values. -/
def FieldChange.toJson (c : FieldChange) : Json :=
  let (sent, seen) : Json × Json :=
    match c with
    | .srcPort a b | .identifier a b | .checksum a b => (.nat a.toNat, .nat b.toNat)
    | .destination a b => (.text a.text, .text b.text)
  .object [("field", .text c.name), ("sent", sent), ("seen", seen)]

instance : ToJson FieldChange := ⟨FieldChange.toJson⟩

/-- The members of statistics; the extremes are whole microseconds. -/
def Rtt.members (s : Rtt) : List (String × Json) :=
  [("count", toJson s.count),
    ("min", toJson (s.min.map (·.micros64))),
    ("max", toJson (s.max.map (·.micros64))),
    ("mean_us", toJson s.mean),
    ("m2", toJson s.m2),
    ("jitter_us", toJson s.jitter)]

instance : ToJson Rtt := ⟨fun s => .object s.members⟩

/-- Statistics with the values derived from them, time spans in whole microseconds. -/
def Rtt.detailsJson (s : Rtt) : Json :=
  .object
    (s.members ++
      [("mean", toJson (s.meanSpan.map (·.micros64))),
        ("variance", toJson s.variance),
        ("stddev", toJson s.deviation.micros64),
        ("jitter", toJson s.jitterSpan.micros64)])

instance : ToJson ResponderStats where
  toJson s :=
    .object
      [("addr", toJson s.addr),
        ("received", toJson s.received),
        ("first_round", toJson s.firstRound),
        ("rtt", toJson s.rtt)]

/-- The members of a record. -/
def HopRecord.members (h : HopRecord) : List (String × Json) :=
  [("ttl", toJson h.ttl),
    ("sent", toJson h.sent),
    ("received", toJson h.received),
    ("timeouts", toJson h.timeouts),
    ("responders", toJson h.responders),
    ("primary", toJson h.primary),
    ("rtt", toJson h.rtt),
    ("nat_detected", toJson h.natDetected),
    ("nat_reason", toJson h.natReason),
    ("mpls", toJson h.mpls),
    ("last_kind", toJson h.lastKind)]

instance : ToJson HopRecord := ⟨fun h => .object h.members⟩

instance : ToJson Counters where
  toJson c :=
    .object
      [("sent", toJson c.sent),
        ("send_failures", toJson c.sendFailures),
        ("answered", toJson c.answered),
        ("timed_out", toJson c.timedOut),
        ("decode_discarded", toJson c.decodeDiscarded),
        ("unmatched", toJson c.unmatched)]

instance : ToJson FlowSnapshot where
  toJson f :=
    .object
      [("flow", toJson f.flow),
        ("target_reached", toJson f.targetReached),
        ("target_ttl", toJson f.targetTtl),
        ("hops", toJson f.hops)]

/-- A snapshot, with the texts of the moments at which the session began and the snapshot was taken.
-/
def Snapshot.toJson (s : Snapshot) (startedAt takenAt : String) : Json :=
  .object
    [("target", .text s.target.text),
      ("status", .text s.status.word),
      ("started_at", .text startedAt),
      ("taken_at", .text takenAt),
      ("round", FlowTrace.toJson s.round),
      ("rounds_completed", FlowTrace.toJson s.roundsCompleted),
      ("flows", FlowTrace.toJson s.flows),
      ("counters", FlowTrace.toJson s.counters)]

/-! ## Short forms -/

/-- A record with the percentage of lost probes. -/
def HopRecord.briefJson (h : HopRecord) : Json :=
  .object (h.members ++ [("loss_pct", toJson h.lossPercent)])

/-- A flow with the number of its hops, and those of them that something is known about. -/
def FlowSnapshot.briefJson (f : FlowSnapshot) : Json :=
  .object
    [("flow", toJson f.flow),
      ("target_reached", toJson f.targetReached),
      ("target_ttl", toJson f.targetTtl),
      ("hop_count", toJson f.hops.length),
      ("hops", toJson ((f.hops.filter (·.isTouched)).map (·.briefJson)))]

/-- A snapshot without moments. -/
def Snapshot.briefJson (s : Snapshot) : Json :=
  .object
    [("target", .text s.target.text),
      ("status", .text s.status.word),
      ("round", FlowTrace.toJson s.round),
      ("rounds_completed", FlowTrace.toJson s.roundsCompleted),
      ("counters", FlowTrace.toJson s.counters),
      ("flows", FlowTrace.toJson (s.flows.map (·.briefJson)))]

/-! ## Events -/

/-- The name of an event. -/
def Event.name : Event → String
  | .sent .. => "sent"
  | .sendFailed .. => "send_failed"
  | .answered _ => "answered"
  | .timedOut .. => "timed_out"
  | .decodeDiscarded => "decode_discarded"
  | .unmatched => "unmatched"

/-- What an event is about. -/
def Event.members : Event → List (String × Json)
  | .sent flow ttl | .sendFailed flow ttl => [("flow", toJson flow), ("ttl", toJson ttl)]
  | .timedOut flow ttl round =>
    [("flow", toJson flow), ("ttl", toJson ttl), ("round", toJson round)]
  | .decodeDiscarded | .unmatched => []
  | .answered a =>
    [("flow", toJson a.flow),
      ("ttl", toJson a.ttl),
      ("round", toJson a.round),
      ("responder", toJson a.responder),
      ("rtt_ns", toJson a.rtt.nanos),
      ("kind", toJson a.kind),
      ("nat", toJson a.nat),
      ("mpls", toJson a.mpls)]

instance : ToJson Event where
  toJson e :=
    .object
      (("event", .text e.name) :: e.members ++ [("resolved_round", toJson e.resolvedRound)])

/-! ## Writing and reading again -/

/-- A double that is written and read again. -/
def rereadFloat (x : Float) : Except Json.Failure Float :=
  Json.Reader.ofText Json.Reader.float (Json.floatText x)

/-- A time span that is written in whole microseconds and read again. -/
def Duration.reread (d : Duration) : Duration := .ofMicros d.micros64

/-- Statistics that are written and read again. -/
def Rtt.reread (s : Rtt) : Except Json.Failure Rtt := do
  let mean ← rereadFloat s.mean
  let m2 ← rereadFloat s.m2
  let jitter ← rereadFloat s.jitter
  return { count := s.count
           min := s.min.map (·.reread)
           max := s.max.map (·.reread)
           mean := mean
           m2 := m2
           jitter := jitter
           last := none }

/-- A record that is written and read again. -/
def HopRecord.reread (h : HopRecord) : Except Json.Failure HopRecord := do
  let rtt ← h.rtt.reread
  let responders ← h.responders.mapM fun s => do return { s with rtt := ← s.rtt.reread }
  return { h with rtt := rtt, responders := responders }

end FlowTrace
