import FlowTrace.Config
import FlowTrace.Hop.Record

/-!
# The hop table

`HopState` holds a record for every flow and hop limit, and counts all events. `HopTable` adds the
two snapshots that readers see: the latest one, and the one of the last complete round. A batch of
events is applied before it is published, so no snapshot shows half of it.
-/

namespace FlowTrace

/-- The life of a session. -/
inductive Status where
  | running
  /-- Nothing is sent any more; late answers are still collected. -/
  | draining
  | terminated
  deriving DecidableEq, Repr

def Status.word : Status → String
  | .running => "running"
  | .draining => "draining"
  | .terminated => "terminated"

def Status.all : List Status := [.running, .draining, .terminated]

/-- How many events of each kind there were. -/
structure Counters where
  sent : Nat := 0
  sendFailures : Nat := 0
  answered : Nat := 0
  timedOut : Nat := 0
  decodeDiscarded : Nat := 0
  unmatched : Nat := 0
  deriving DecidableEq, Repr

/-- The counters with one more event. -/
def Counters.count (c : Counters) : Event → Counters
  | .sent .. => { c with sent := c.sent + 1 }
  | .sendFailed .. => { c with sendFailures := c.sendFailures + 1 }
  | .answered _ => { c with answered := c.answered + 1 }
  | .timedOut .. => { c with timedOut := c.timedOut + 1 }
  | .decodeDiscarded => { c with decodeDiscarded := c.decodeDiscarded + 1 }
  | .unmatched => { c with unmatched := c.unmatched + 1 }

/-- What a snapshot says about one flow. -/
structure FlowSnapshot where
  flow : UInt16
  /-- The least hop limit at which the target answered. -/
  targetTtl : Option UInt8
  /-- The hops up to that limit, or up to the largest one. -/
  hops : List HopRecord

def FlowSnapshot.targetReached (f : FlowSnapshot) : Bool := f.targetTtl.isSome

/-- The record of a hop limit. -/
def FlowSnapshot.hop (f : FlowSnapshot) (ttl : UInt8) : Option HopRecord :=
  if ttl = 0 then none else f.hops[ttl.toNat - 1]?

/-- The whole table at one moment. -/
structure Snapshot where
  target : Address
  status : Status
  /-- The round that is being sent, or was sent last. -/
  round : UInt32
  roundsCompleted : UInt32
  flows : List FlowSnapshot
  counters : Counters

namespace Snapshot

/-- The part of a flow. -/
def flow (s : Snapshot) (flow : UInt16) : Option FlowSnapshot := s.flows[flow.toNat]?

/-- The addresses of all responders in table order; one that answered at several hops repeats. -/
def addresses (s : Snapshot) : List Address :=
  s.flows.flatMap fun f => f.hops.flatMap (·.addresses)

end Snapshot

/-- The row of one flow: a record for each hop limit from one on. -/
structure FlowRow where
  hops : List HopRecord
  targetTtl : Option UInt8 := none

/-- A row without events. -/
def FlowRow.new (maxTtl : UInt8) : FlowRow where
  hops := (List.range maxTtl.toNat).map fun i => .new (UInt8.ofNat (i + 1))

/-- The row with one record changed. Hop limits outside the row change nothing. -/
def FlowRow.modifyHop (r : FlowRow) (ttl : UInt8) (f : HopRecord → HopRecord) : FlowRow :=
  if ttl = 0 then r else { r with hops := r.hops.modify (ttl.toNat - 1) f }

/-- The target answered at a hop limit. The hop limit alone never tells that it was reached, because
paths of equal cost differ in length. -/
def FlowRow.reach (r : FlowRow) (ttl : UInt8) : FlowRow :=
  { r with targetTtl := some (r.targetTtl.elim ttl fun t => if t ≤ ttl then t else ttl) }

/-- The state of a hop table. -/
structure HopState where
  target : Address
  maxTtl : UInt8
  rows : List FlowRow
  counters : Counters := {}
  status : Status := .running
  round : UInt32 := 0
  roundsCompleted : UInt32 := 0

namespace HopState

/-- The state without events. There is always at least one flow and one hop. -/
def new (config : Config) : HopState :=
  let maxTtl := if config.maxTtl = 0 then 1 else config.maxTtl
  let flows := if config.flows = 0 then 1 else config.flows
  { target := config.target
    maxTtl := maxTtl
    rows := List.replicate flows.toNat (.new maxTtl) }

/-- There is a cell for the flow and the hop limit. -/
def HasCell (s : HopState) (flow : UInt16) (ttl : UInt8) : Prop :=
  flow.toNat < s.rows.length ∧ ttl ≠ 0 ∧ ttl ≤ s.maxTtl

instance (s : HopState) (flow : UInt16) (ttl : UInt8) : Decidable (s.HasCell flow ttl) := by
  unfold HasCell; infer_instance

/-- The state with the row of one flow changed. -/
def modifyRow (s : HopState) (flow : UInt16) (f : FlowRow → FlowRow) : HopState :=
  { s with rows := s.rows.modify flow.toNat f }

/-- The state with one cell changed, if there is such a cell. -/
def modifyCell (s : HopState) (flow : UInt16) (ttl : UInt8) (f : HopRecord → HopRecord) :
    HopState :=
  s.modifyRow flow fun row => row.modifyHop ttl f

/-- The record of an answer. -/
def answerHop (a : Answer) (h : HopRecord) : HopRecord :=
  let h := h.recordAnswer a.responder a.rtt a.kind a.round
  let h := a.nat.elim h h.markNat
  a.mpls.elim h h.setMpls

/-- The state after an event. Events for no cell are counted and change nothing else. -/
def apply (s : HopState) (e : Event) : HopState :=
  let s := { s with counters := s.counters.count e }
  match e with
  | .sent flow ttl => s.modifyCell flow ttl HopRecord.recordSent
  | .answered a =>
    let updated := s.modifyCell a.flow a.ttl (answerHop a)
    if s.HasCell a.flow a.ttl ∧ a.responder = s.target then
      updated.modifyRow a.flow fun row => row.reach a.ttl
    else updated
  | .timedOut flow ttl _ => s.modifyCell flow ttl HopRecord.recordTimeout
  | .sendFailed .. | .decodeDiscarded | .unmatched => s

/-- What a snapshot says about a row. -/
def flowSnapshot (s : HopState) (flow : Nat) (row : FlowRow) : FlowSnapshot where
  flow := UInt16.ofNat flow
  targetTtl := row.targetTtl
  hops := row.hops.take (row.targetTtl.getD s.maxTtl).toNat

/-- The snapshot of the state. -/
def snapshot (s : HopState) : Snapshot where
  target := s.target
  status := s.status
  round := s.round
  roundsCompleted := s.roundsCompleted
  flows := s.rows.mapIdx s.flowSnapshot
  counters := s.counters

end HopState

/-- A hop table with what its readers see. -/
structure HopTable where
  state : HopState
  /-- The latest published state. -/
  latest : Snapshot
  /-- The state when the last round was complete. -/
  lastRound : Snapshot

namespace HopTable

/-- The table without events. -/
def new (config : Config) : HopTable :=
  let state := HopState.new config
  ⟨state, state.snapshot, state.snapshot⟩

/-- The table with its state published. -/
def publish (t : HopTable) : HopTable := { t with latest := t.state.snapshot }

/-- The table after a batch of events, published as one. -/
def apply (t : HopTable) (events : List Event) : HopTable :=
  { t with state := events.foldl HopState.apply t.state }.publish

/-- The table after one event. -/
def record (t : HopTable) (e : Event) : HopTable := t.apply [e]

/-- One more send, which stays unpublished. -/
def recordSent (t : HopTable) (flow : UInt16) (ttl : UInt8) : HopTable :=
  { t with state := t.state.apply (.sent flow ttl) }

/-- A round begins. -/
def beginRound (t : HopTable) (round : UInt32) : HopTable :=
  { t with state := { t.state with round := round } }.publish

/-- The published state becomes that of a complete round as well. -/
def keepRound (t : HopTable) : HopTable := { t with lastRound := t.latest }

/-- Every probe of a round is resolved. -/
def completeRound (t : HopTable) (round : UInt32) : HopTable :=
  let completed := max t.state.roundsCompleted (round + 1)
  { t with state := { t.state with roundsCompleted := completed } }.publish.keepRound

/-- The session enters another part of its life. The end counts as a complete round. -/
def setStatus (t : HopTable) (status : Status) : HopTable :=
  let t := { t with state := { t.state with status := status } }.publish
  if status = .terminated then t.keepRound else t

/-- The least hop limit at which the target answered on a flow. -/
def targetTtl (t : HopTable) (flow : UInt16) : Option UInt8 :=
  t.state.rows[flow.toNat]?.bind (·.targetTtl)

end HopTable

end FlowTrace
