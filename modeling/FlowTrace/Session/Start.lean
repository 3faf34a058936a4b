import FlowTrace.Session.Networks

/-!
# From the start of a session to its end

* `prepare`: the configuration is checked, the local address found, and the transport opened.
* `rehearse`: a whole session on a network.
* `Rehearsal.shown`: the rounds that someone sees who looks at the session every tenth of a second.
-/

namespace FlowTrace.Session

/-- A session that is ready to run. -/
structure Ready where
  setup : Setup
  transport : Transport

/-- Everything that has to be in place before a session runs. -/
def prepare (program : String) (config : Config) : HostM SessionError Ready := do
  match config.check with
  | .error e => throw (.config e)
  | .ok _ =>
    let source ← detectSource config.target
    let transport ← Transport.opening program config (FlowPlan.ofConfig config)
    return ⟨.ofConfig config source, transport⟩

/-- The most steps that a rehearsal takes between two waits, and the most waits. -/
def rehearsalFuel : Nat := 100000000

variable {σ : Type}

/-- A session before its first step. -/
def atStart (setup : Setup) (listeners : Nat) (network : σ) (stopFirst : Bool) : Rehearsal σ :=
  let r := Rehearsal.new setup listeners network
  if stopFirst then { r with world := r.world.step setup .stop } else r

/-- A whole session on a network, from its first probe to its end. `stopFirst` tells whether it is
stopped before it sends anything. -/
def rehearse (setup : Setup) (listeners : Nat) (net : Network σ) (network : σ) (stopFirst : Bool) :
    Rehearsal σ :=
  let r := atStart setup listeners network stopFirst
  (r.schedule setup net rehearsalFuel rehearsalFuel).supervise setup net rehearsalFuel

/-- The final snapshot of a session, unless a listener failed. -/
def Rehearsal.outcome (r : Rehearsal σ) : Except SessionError Snapshot :=
  match r.failure? with
  | some e => .error (.listener e)
  | none => .ok r.world.shared.table.latest

/-- The time between two looks at a session. -/
def lookGap : Duration := .ofMillis 100

/-- The first look at or after an instant. -/
def lookAfter (t : Instant) : Nat := (t.nanos + lookGap.nanos - 1) / lookGap.nanos

/-- Of snapshots in order of time, those that a look finds, with the instant of the look, where they
show more complete rounds than the ones before. -/
def shownFrom (completed : UInt32) : List (Instant × Snapshot) → List (Instant × Snapshot)
  | [] => []
  | (t, s) :: rest =>
    let look := lookAfter t
    let replaced := (rest.head?.map fun (t, _) => lookAfter t == look).getD false
    if replaced || s.roundsCompleted ≤ completed then shownFrom completed rest
    else (⟨look * lookGap.nanos⟩, s) :: shownFrom s.roundsCompleted rest

/-- The rounds that are seen in the course of a session. -/
def Rehearsal.shown (r : Rehearsal σ) : List (Instant × Snapshot) := shownFrom 0 r.history.reverse

end FlowTrace.Session
