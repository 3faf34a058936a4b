import FlowTrace.Response
import FlowTrace.Hop.Rtt

/-!
# Hop records and events

A `HopRecord` is one cell of the hop table: what was sent with one hop limit on one flow, and who
answered. Responders are kept in the order in which they were first seen and never leave.

An `Event` is one update of the hop table. Answers and timeouts resolve a probe; `resolvedRound`
names its round.
-/

namespace FlowTrace

/-- What one responder sent back. -/
structure ResponderStats where
  addr : Address
  received : Nat
  /-- The round in which it was first seen. -/
  firstRound : UInt32
  rtt : Rtt

/-- The cell of a flow and a hop limit. -/
structure HopRecord where
  ttl : UInt8
  sent : Nat := 0
  received : Nat := 0
  timeouts : Nat := 0
  /-- Distinct responders, first seen first. -/
  responders : List ResponderStats := []
  /-- The responder that answered most often. -/
  primary : Option Address := none
  rtt : Rtt := .empty
  /-- The first evidence of a NAT, once there is one. -/
  natReason : Option FieldChange := none
  natDetected : Bool := false
  /-- The label stack of the latest response that carried one. -/
  mpls : List Packet.MplsLabel := []
  lastKind : Option ResponseKind := none

/-- One more answer of a responder. -/
def ResponderStats.answer (s : ResponderStats) (rtt : Duration) : ResponderStats :=
  { s with received := s.received + 1, rtt := s.rtt.record rtt }

/-- The last of the entries that answered most often. -/
def mostSeen : List ResponderStats → Option ResponderStats
  | [] => none
  | s :: rest =>
    match mostSeen rest with
    | none => some s
    | some best => if best.received < s.received then some s else some best

namespace HopRecord

/-- A hop that nothing has been sent to. -/
def new (ttl : UInt8) : HopRecord := { ttl := ttl }

def recordSent (h : HopRecord) : HopRecord := { h with sent := h.sent + 1 }

def recordTimeout (h : HopRecord) : HopRecord := { h with timeouts := h.timeouts + 1 }

/-- One more answer in the entry of its responder, which is opened at the end if it is new. -/
def answerBy (addr : Address) (rtt : Duration) (round : UInt32) :
    List ResponderStats → List ResponderStats
  | [] => [ResponderStats.answer ⟨addr, 0, round, .empty⟩ rtt]
  | s :: rest =>
    if s.addr = addr then s.answer rtt :: rest else s :: answerBy addr rtt round rest

/-- One more answer. -/
def recordAnswer (h : HopRecord) (addr : Address) (rtt : Duration) (kind : ResponseKind)
    (round : UInt32) : HopRecord :=
  let responders := answerBy addr rtt round h.responders
  { h with
    received := h.received + 1
    rtt := h.rtt.record rtt
    lastKind := some kind
    responders := responders
    primary := (mostSeen responders).map (·.addr) }

/-- Evidence of a NAT; only the first is kept. -/
def markNat (h : HopRecord) (change : FieldChange) : HopRecord :=
  if h.natDetected then h else { h with natDetected := true, natReason := some change }

def setMpls (h : HopRecord) (labels : List Packet.MplsLabel) : HopRecord :=
  { h with mpls := labels }

/-- The addresses of all responders, first seen first. -/
def addresses (h : HopRecord) : List Address := h.responders.map (·.addr)

/-- The entry of a responder. -/
def responder (h : HopRecord) (addr : Address) : Option ResponderStats :=
  h.responders.find? (·.addr == addr)

/-- The percentage of resolved probes that were lost. Probes in flight do not count. -/
def lossPercent (h : HopRecord) : Float :=
  let resolved := h.received + h.timeouts
  if resolved = 0 then 0
  else Decimal.Binary64.ofNat h.timeouts * 100.0 / Decimal.Binary64.ofNat resolved

/-- Something is known about the hop. -/
def isTouched (h : HopRecord) : Bool := 0 < h.sent + h.received + h.timeouts

end HopRecord

/-! ## Events -/

/-- An answer to a probe. -/
structure Answer where
  flow : UInt16
  ttl : UInt8
  round : UInt32
  responder : Address
  rtt : Duration
  kind : ResponseKind
  nat : Option FieldChange
  mpls : Option (List Packet.MplsLabel)
  deriving DecidableEq, Repr

/-- One update of the hop table. -/
inductive Event where
  | sent (flow : UInt16) (ttl : UInt8)
  | sendFailed (flow : UInt16) (ttl : UInt8)
  | answered (answer : Answer)
  /-- No answer by the deadline. -/
  | timedOut (flow : UInt16) (ttl : UInt8) (round : UInt32)
  /-- A packet that is no response. -/
  | decodeDiscarded
  /-- A response to no outstanding probe. -/
  | unmatched
  deriving DecidableEq, Repr

/-- The round of the probe that an event resolves. -/
def Event.resolvedRound : Event → Option UInt32
  | .answered a => some a.round
  | .timedOut _ _ round => some round
  | _ => none

end FlowTrace
