import FlowTrace.Session.Setup

/-!
# The scheduler

The scheduler sends rounds of probes. In a round every flow walks through the hop limits from one
on, flow by flow in turns, until it passes the target or the largest hop limit. Sends keep the send
interval and the bound on outstanding probes. The next round starts once every probe is resolved and
the cadence allows it.

`Scheduler.step` is one atomic step; it gives nothing where the scheduler has to wait.
-/

namespace FlowTrace.Session

/-- How far a round has been sent. -/
structure Sweep where
  round : UInt32
  startedAt : Instant
  /-- The next hop limit of each flow. -/
  next : List Nat
  /-- The flows that are still to be visited in this pass. -/
  queue : List UInt16
  /-- A flow of this pass had a hop limit left. -/
  active : Bool

/-- What the scheduler does next. -/
inductive Scheduler.Phase where
  /-- Whether another round starts. -/
  | deciding (round : UInt32)
  /-- Which flow is probed next. -/
  | visiting (s : Sweep)
  /-- Waits until fewer probes are outstanding than allowed. -/
  | waiting (s : Sweep) (flow : UInt16) (ttl : UInt8)
  /-- Waits until the send interval is over. -/
  | pausing (s : Sweep) (flow : UInt16) (ttl : UInt8)
  /-- Whether the session has been stopped meanwhile. -/
  | checking (s : Sweep) (flow : UInt16) (ttl : UInt8)
  /-- Registers the probe, before it is sent, so that no answer can come too early. -/
  | registering (s : Sweep) (flow : UInt16) (ttl : UInt8)
  /-- Hands the probe to the transport. -/
  | sending (s : Sweep) (p : EncodedProbe)
  /-- Counts the send. -/
  | counting (s : Sweep) (p : EncodedProbe)
  /-- Takes back the registration of a probe that was not sent. -/
  | withdrawing (s : Sweep) (p : EncodedProbe)
  /-- Settles a registration that was taken back. -/
  | releasing (s : Sweep) (p : EncodedProbe)
  /-- Counts a failed send. -/
  | failing (s : Sweep) (flow : UInt16) (ttl : UInt8)
  /-- Publishes the sends of a round. -/
  | publishing (s : Sweep) (complete : Bool)
  /-- Waits until every probe of the round is settled. -/
  | resolving (s : Sweep)
  /-- Marks the round as complete. -/
  | completing (s : Sweep)
  /-- Waits until the next round may start. -/
  | resting (round : UInt32) (wake : Instant)
  /-- Ends with the number of rounds. -/
  | finished (rounds : UInt32)

/-- The scheduler. -/
structure Scheduler where
  phase : Scheduler.Phase
  /-- When the next probe may be sent. -/
  due : Instant

namespace Scheduler

/-- Before the first round. -/
def new (now : Instant) : Scheduler := ⟨.deciding 0, now⟩

/-- All flows of a session. -/
def flowNumbers (setup : Setup) : List UInt16 :=
  (List.range setup.encoder.plan.size.toNat).map UInt16.ofNat

/-- The beginning of a round. -/
def beginSweep (setup : Setup) (round : UInt32) (now : Instant) : Sweep :=
  let flows := flowNumbers setup
  { round := round
    startedAt := now
    next := flows.map fun _ => 1
    queue := flows
    active := false }

/-- The largest hop limit that a flow is worth probing with. -/
def limit (setup : Setup) (table : HopTable) (flow : UInt16) : UInt8 :=
  (table.targetTtl flow).getD setup.config.maxTtl

/-- The next flow of a pass, or the next pass, or the end of the round. -/
def visit (setup : Setup) (table : HopTable) (s : Sweep) : Phase :=
  match s.queue with
  | [] =>
    if s.active then .visiting { s with queue := flowNumbers setup, active := false }
    else .publishing s true
  | flow :: queue =>
    let ttl := s.next.getD flow.toNat 1
    if (limit setup table flow).toNat < ttl then .visiting { s with queue := queue }
    else
      .waiting { s with queue := queue, active := true, next := s.next.set flow.toNat (ttl + 1) }
        flow (UInt8.ofNat ttl)

/-- The registration of a probe. -/
def pending (setup : Setup) (p : EncodedProbe) (round : UInt32) (now : Instant) : PendingProbe where
  flow := p.flow
  round := round
  ttl := p.ttl
  token := p.token
  sentAt := now
  deadline := now.after setup.config.timeout
  expected := p.expected

/-- Registers the probe of a flow. A token that is still waiting is not sent again. -/
def register (setup : Setup) (now : Instant) (s : Sweep) (flow : UInt16) (ttl : UInt8)
    (w : Shared) : Phase × Shared :=
  match setup.encoder.encode flow s.round ttl with
  | none => (.visiting s, w)
  | some p =>
    match w.index.insert? (pending setup p s.round now) with
    | none => (.failing s flow ttl, w)
    | some index => (.sending s p, { w with index := index })

/-- What follows the end of a round. -/
def afterRound (setup : Setup) (s : Sweep) : Phase :=
  match setup.config.cadence with
  | .afterResolve => .deciding (s.round + 1)
  | .minInterval gap => .resting (s.round + 1) (s.startedAt.after gap)

/-- The number of rounds has been reached. -/
def isLast (setup : Setup) (round : UInt32) : Bool :=
  setup.config.maxRounds.any fun most => most ≤ round

/-- One atomic step at an instant. `accepted` tells whether the transport takes the probe, if this
step sends one. There is no step while the scheduler waits, and none at its end. -/
def step (setup : Setup) (now : Instant) (accepted : Bool) (d : Scheduler) (w : Shared) :
    Option (Scheduler × Shared) :=
  let enter (phase : Phase) (w : Shared) := some ({ d with phase := phase }, w)
  match d.phase with
  | .deciding round =>
    if w.stop || isLast setup round then enter (.finished round) w
    else enter (.visiting (beginSweep setup round now)) (w.mapTable (·.beginRound round))
  | .visiting s => enter (visit setup w.table s) w
  | .waiting s flow ttl =>
    if w.index.count < setup.config.maxInFlight then enter (.pausing s flow ttl) w
    else if w.stop then enter (.publishing s false) w
    else none
  | .pausing s flow ttl =>
    if setup.config.sendInterval.isZero then enter (.checking s flow ttl) w
    else if w.stop then enter (.publishing s false) w
    else if d.due.nanos ≤ now.nanos then
      some (⟨.checking s flow ttl, now.after setup.config.sendInterval⟩, w)
    else none
  | .checking s flow ttl =>
    if w.stop then enter (.publishing s false) w else enter (.registering s flow ttl) w
  | .registering s flow ttl =>
    let (phase, w) := register setup now s flow ttl w
    enter phase w
  | .sending s p => enter (if accepted then .counting s p else .withdrawing s p) w
  | .counting s p => enter (.visiting s) (w.mapTable (·.recordSent p.flow p.ttl))
  | .withdrawing s p =>
    match w.index.remove p.flow p.token with
    | some (_, index) => enter (.releasing s p) { w with index := index }
    | none => enter (.failing s p.flow p.ttl) w
  | .releasing s p => enter (.failing s p.flow p.ttl) (w.mapIndex (·.settle [s.round]))
  | .failing s flow ttl => enter (.visiting s) (w.mapTable (·.record (.sendFailed flow ttl)))
  | .publishing s complete =>
    enter (if complete then .resolving s else .finished s.round) (w.mapTable (·.publish))
  | .resolving s =>
    if w.index.inRound s.round = 0 then enter (.completing s) w
    else if w.stop then enter (.finished s.round) w
    else none
  | .completing s => enter (afterRound setup s) (w.mapTable (·.completeRound s.round))
  | .resting round wake =>
    if w.stop then enter (.finished round) w
    else if wake.nanos ≤ now.nanos then enter (.deciding round) w
    else none
  | .finished _ => none

/-- The probe that the next step sends. -/
def sending? (d : Scheduler) : Option EncodedProbe :=
  match d.phase with
  | .sending _ p => some p
  | _ => none

/-- The number of rounds, once the scheduler has ended. -/
def rounds? (d : Scheduler) : Option UInt32 :=
  match d.phase with
  | .finished rounds => some rounds
  | _ => none

/-- The instant that the scheduler waits for, if it waits for one. -/
def wake? (d : Scheduler) : Option Instant :=
  match d.phase with
  | .pausing .. => some d.due
  | .resting _ wake => some wake
  | _ => none

end Scheduler

end FlowTrace.Session
