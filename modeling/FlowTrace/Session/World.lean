import FlowTrace.Session.Listener
import FlowTrace.Session.Scheduler

/-!
# Sessions as systems of tasks

A session is a scheduler, some listeners, a sweeper that expires overdue probes, and a supervisor
that ends it: it waits for the scheduler, lets outstanding probes drain, shuts the others down and
expires what is left. `World.step?` is one atomic step of one task; a run is any sequence of them,
so a statement about all runs holds for every interleaving.
-/

namespace FlowTrace.Session

/-- What the sweeper does next. -/
inductive Sweeper where
  | sleeping
  /-- Applies the timeouts of expired probes. -/
  | applying (expired : List PendingProbe)
  /-- Settles them. -/
  | settling (rounds : List UInt32)
  | ended
  deriving DecidableEq, Repr

namespace Sweeper

/-- One atomic step. Asleep, it looks for expired probes, or leaves if the session is over. -/
def step (now : Instant) (leave : Bool) (s : Sweeper) (w : Shared) : Option (Sweeper × Shared) :=
  match s with
  | .sleeping =>
    if leave then if w.shutdown then some (.ended, w) else none
    else
      let (expired, index) := w.index.expire now
      if expired.isEmpty then some (.sleeping, w)
      else some (.applying expired, { w with index := index })
  | .applying expired =>
    some (.settling (expired.map (·.round)), w.mapTable (·.apply (expired.map (·.timedOut))))
  | .settling rounds => some (.sleeping, w.mapIndex (·.settle rounds))
  | .ended => none

end Sweeper

/-- What the supervisor does next. -/
inductive Supervisor where
  /-- Waits for the end of the scheduler. -/
  | watching
  /-- Waits until nothing is outstanding, at most up to an instant. -/
  | draining (deadline : Instant)
  /-- Waits for the end of listeners and sweeper. -/
  | joining
  /-- Claims what is left. -/
  | claiming (failure : Option ListenerError)
  | applying (left : List PendingProbe) (failure : Option ListenerError)
  | settling (rounds : List UInt32) (failure : Option ListenerError)
  | closing (failure : Option ListenerError)
  | ended (failure : Option ListenerError)

/-- A session at one moment. -/
structure World where
  shared : Shared
  scheduler : Scheduler
  listeners : List Listener
  sweeper : Sweeper
  supervisor : Supervisor

/-- One step of one task. -/
inductive Action where
  /-- The scheduler; `accepted` tells whether the transport takes a probe that it sends. -/
  | schedule (now : Instant) (accepted : Bool)
  /-- A listener; `read` is what it reads, if it reads. -/
  | listen (i : Nat) (now : Instant) (read : Read)
  /-- The sweeper; `leave` tells which of its choices it takes. -/
  | sweep (now : Instant) (leave : Bool)
  | supervise (now : Instant)
  /-- The user stops the session. -/
  | stop
  deriving DecidableEq, Repr

namespace World

/-- A session before its first step. -/
def new (setup : Setup) (listeners : Nat) (now : Instant) : World where
  shared := .new setup.config
  scheduler := .new now
  listeners := List.replicate listeners .new
  sweeper := .sleeping
  supervisor := .watching

/-- The first failure among listeners that have all ended. -/
def joined? (listeners : List Listener) : Option (Option ListenerError) :=
  (listeners.mapM Listener.result?).map fun results => results.findSome? id

/-- The instant up to which a session drains. A timeout and a grace that make up no span end the
supervisor in a panic; in the model it drains nothing then. -/
def drainEnd (setup : Setup) (now : Instant) : Instant :=
  match setup.config.drainDeadline with
  | .ok d => now.after d
  | .error _ => now

/-- One step of the supervisor. -/
def superviseStep (setup : Setup) (now : Instant) (w : World) : Option World :=
  let enter (next : Supervisor) (shared : Shared) :=
    some { w with supervisor := next, shared := shared }
  let shared := w.shared
  match w.supervisor with
  | .watching =>
    match w.scheduler.rounds? with
    | none => none
    | some _ =>
      enter (.draining (drainEnd setup now))
        { shared with stop := true, table := shared.table.setStatus .draining }
  | .draining deadline =>
    if shared.index.count = 0 ∨ deadline.nanos ≤ now.nanos then
      enter .joining { shared with shutdown := true }
    else none
  | .joining =>
    match w.sweeper, joined? w.listeners with
    | .ended, some failure => enter (.claiming failure) shared
    | _, _ => none
  | .claiming failure =>
    let (left, index) := shared.index.drainAll
    enter (if left.isEmpty then .closing failure else .applying left failure)
      { shared with index := index }
  | .applying left failure =>
    enter (.settling (left.map (·.round)) failure)
      (shared.mapTable (·.apply (left.map (·.timedOut))))
  | .settling rounds failure => enter (.closing failure) (shared.mapIndex (·.settle rounds))
  | .closing failure => enter (.ended failure) (shared.mapTable (·.setStatus .terminated))
  | .ended _ => none

/-- One step of one task, if the task can take it. -/
def step? (setup : Setup) (w : World) : Action → Option World
  | .schedule now accepted =>
    (w.scheduler.step setup now accepted w.shared).map fun (d, shared) =>
      { w with scheduler := d, shared := shared }
  | .listen i now read =>
    w.listeners[i]?.bind fun l =>
      (l.step setup now read w.shared).map fun (l, shared) =>
        { w with listeners := w.listeners.set i l, shared := shared }
  | .sweep now leave =>
    (w.sweeper.step now leave w.shared).map fun (s, shared) =>
      { w with sweeper := s, shared := shared }
  | .supervise now => superviseStep setup now w
  | .stop => some { w with shared := { w.shared with stop := true } }

/-- One step of one task; a task that has to wait does nothing. -/
def step (setup : Setup) (w : World) (a : Action) : World := (w.step? setup a).getD w

/-- A run of a session. -/
def run (setup : Setup) (w : World) (actions : List Action) : World := actions.foldl (step setup) w

end World

end FlowTrace.Session
