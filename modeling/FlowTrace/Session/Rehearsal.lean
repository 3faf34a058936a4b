import FlowTrace.Session.World

/-!
# Sessions on a network at hand

A rehearsal runs a session one task after the other on a network that is a value (`Network`). The
scheduler runs alone until it has to wait. Then the packets that have arrived are delivered, overdue
probes expire, and stragglers are delivered. If the scheduler still has to wait, the clock moves on
to the next moment at which something happens.

* `Rehearsal.schedule`: the scheduler with its surroundings until it ends.
* `Rehearsal.supervise`: the end of the session after that.
* `Checkpoint`: what is seen each time the scheduler waits; `Rehearsal.history`: the snapshots of
  complete rounds with their instants.
-/

namespace FlowTrace.Session

/-- What becomes of a probe that is handed to the transport. -/
structure SendResult (σ : Type) where
  accepted : Bool
  /-- The session is stopped during the call. -/
  stop : Bool
  network : σ

/-- A network with states in `σ`. -/
structure Network (σ : Type) where
  /-- Hands a probe to the transport. -/
  send : σ → EncodedProbe → SendResult σ
  /-- The packets that have arrived since the last time. -/
  arrivals : σ → List Read × σ
  /-- The packets that arrive only after every probe has expired. -/
  stragglers : σ → List Read × σ

/-- What is seen when the scheduler waits after it has sent something. -/
structure Checkpoint where
  sends : Nat
  counters : Counters
  round : UInt32
  outstanding : Nat
  targetTtls : List (Option UInt8)

/-- A session on its network. -/
structure Rehearsal (σ : Type) where
  world : World
  network : σ
  now : Instant
  /-- The probes handed to the transport so far. -/
  sends : Nat
  /-- Latest first. -/
  checkpoints : List Checkpoint
  /-- The snapshots of complete rounds with their instants, latest first. -/
  history : List (Instant × Snapshot)

namespace Rehearsal

variable {σ : Type}

def new (setup : Setup) (listeners : Nat) (network : σ) : Rehearsal σ :=
  let world := World.new setup listeners ⟨0⟩
  { world := world
    network := network
    now := ⟨0⟩
    sends := 0
    checkpoints := []
    history := [] }

/-- Notes a complete round that has not been seen before. -/
def note (r : Rehearsal σ) : Rehearsal σ :=
  let seen := r.world.shared.table.lastRound
  let isNew :=
    match r.history with
    | [] => true
    | (_, last) :: _ => last.roundsCompleted != seen.roundsCompleted || last.status != seen.status
  if isNew then { r with history := (r.now, seen) :: r.history } else r

/-- One step of the scheduler, if it can take one. -/
def scheduleStep? (setup : Setup) (net : Network σ) (r : Rehearsal σ) : Option (Rehearsal σ) :=
  match r.world.scheduler.sending? with
  | some p =>
    let result := net.send r.network p
    let world := if result.stop then r.world.step setup .stop else r.world
    (world.step? setup (.schedule r.now result.accepted)).map fun world =>
      { r with world := world, network := result.network, sends := r.sends + 1 }
  | none =>
    (r.world.step? setup (.schedule r.now true)).map fun world => { r with world := world }.note

/-- The scheduler alone until it has to wait, for at most `fuel` steps. -/
def scheduleAlone (setup : Setup) (net : Network σ) : (fuel : Nat) → Rehearsal σ → Rehearsal σ
  | 0, r => r
  | fuel + 1, r =>
    match r.scheduleStep? setup net with
    | some r => scheduleAlone setup net fuel r
    | none => r

/-- Steps of a listener up to its next read, or to its next look at the session if nothing is to be
read. -/
def settleListener (setup : Setup) (i : Nat) (now : Instant) (toRead : Bool) :
    (fuel : Nat) → World → World
  | 0, w => w
  | fuel + 1, w =>
    match w.listeners[i]? with
    | none => w
    | some l =>
      if l.isReading ∨ (¬ toRead ∧ l.isIdle) then w
      else
        match w.step? setup (.listen i now .nothing) with
        | some w => settleListener setup i now toRead fuel w
        | none => w

/-- A listener reads some packets and then finds nothing more. -/
def hearAll (setup : Setup) (i : Nat) (now : Instant) (reads : List Read) (w : World) : World :=
  let w := (reads ++ [Read.nothing]).foldl
    (fun w read => (settleListener setup i now true 4 w).step setup (.listen i now read)) w
  settleListener setup i now false 4 w

/-- The sweeper expires what is overdue. -/
def expire (setup : Setup) (now : Instant) (w : World) : World :=
  w.run setup (List.replicate 3 (.sweep now false))

/-- Arrived packets are delivered to the first listener, overdue probes expire, stragglers are
delivered. -/
def attend (setup : Setup) (net : Network σ) (r : Rehearsal σ) : Rehearsal σ :=
  let (reads, network) := net.arrivals r.network
  let world := hearAll setup 0 r.now reads r.world
  let world := expire setup r.now world
  let (late, network) := net.stragglers network
  let world := if late.isEmpty then world else hearAll setup 0 r.now late world
  { r with world := world, network := network }

/-- Notes what is seen, if something has been sent since the last time. -/
def check (setup : Setup) (r : Rehearsal σ) : Rehearsal σ :=
  let seen := (r.checkpoints.head?.map (·.sends)).getD 0
  if seen = r.sends then r
  else
    let table := r.world.shared.table
    let checkpoint : Checkpoint :=
      { sends := r.sends
        counters := table.latest.counters
        round := table.latest.round
        outstanding := r.world.shared.index.count
        targetTtls := (Scheduler.flowNumbers setup).map table.targetTtl }
    { r with checkpoints := checkpoint :: r.checkpoints }

/-- The earlier of two instants. -/
def earlier (a b : Option Instant) : Option Instant :=
  match a, b with
  | some a, some b => some (if a.nanos ≤ b.nanos then a else b)
  | some a, none => some a
  | none, b => b

/-- The clock moves on to an instant, never back. -/
def wait (r : Rehearsal σ) (until_ : Option Instant) : Rehearsal σ :=
  match until_ with
  | none => r
  | some t => { r with now := if r.now.nanos ≤ t.nanos then t else r.now }

/-- The next moment at which something happens while the scheduler waits. -/
def nextEvent (r : Rehearsal σ) : Option Instant :=
  earlier r.world.scheduler.wake? r.world.shared.index.nextDeadline

/-- The scheduler with its surroundings until it ends. Where it can go on without waiting, the clock
stands still. -/
def schedule (setup : Setup) (net : Network σ) (steps : Nat) :
    (fuel : Nat) → Rehearsal σ → Rehearsal σ
  | 0, r => r
  | fuel + 1, r =>
    let r := (r.scheduleAlone setup net steps).attend setup net |>.check setup
    if r.world.scheduler.rounds?.isSome then r
    else
      let r := if (r.scheduleStep? setup net).isSome then r else r.wait r.nextEvent
      schedule setup net steps fuel r

/-- Outstanding probes expire one after the other until the supervisor ends its wait. -/
def drain (setup : Setup) (net : Network σ) : (fuel : Nat) → Rehearsal σ → Rehearsal σ
  | 0, r => r
  | fuel + 1, r =>
    match r.world.supervisor with
    | .draining deadline =>
      let r := r.attend setup net
      let world := r.world.step setup (.supervise r.now)
      match world.supervisor with
      | .draining _ =>
        drain setup net fuel (r.wait (earlier (some deadline) r.world.shared.index.nextDeadline))
      | _ => { r with world := world }
    | _ => r

/-- The instant at which a listener notices the end: its read times out after a tenth of a second.
-/
def readTimeout : Duration := .ofMillis 100

/-- The end of a session whose scheduler has ended. -/
def supervise (setup : Setup) (net : Network σ) (fuel : Nat) (r : Rehearsal σ) : Rehearsal σ :=
  let r := { r with world := r.world.step setup (.supervise r.now) }
  let r := r.drain setup net fuel
  let listeners := (List.range r.world.listeners.length).map fun i => Action.listen i r.now .nothing
  let world := r.world.run setup (Action.sweep r.now true :: listeners)
  let later := r.now.after readTimeout
  let world := world.run setup (List.replicate 5 (.supervise later))
  { r with world := world, now := later }.note

/-- How the session ended. -/
def failure? (r : Rehearsal σ) : Option ListenerError :=
  match r.world.supervisor with
  | .ended failure => failure
  | _ => none

end Rehearsal

end FlowTrace.Session
