import FlowTrace.Session.Listener

/-!
# A listener on its own

`Listening.run` lets a listener read from a list. In front of each read somebody looks at the
published counters (`Sight`), so the bounds of its batches show. Behind the list the session is
over.
-/

namespace FlowTrace.Session

/-- Published counters that differ from those seen before. -/
structure Sight where
  /-- The number of reads before the look. -/
  reads : Nat
  counters : Counters

/-- A listener with what it will read. -/
structure Listening where
  listener : Listener
  shared : Shared
  ahead : List Read
  /-- The number of reads so far. -/
  reads : Nat
  /-- The counters that were seen last. -/
  seen : Counters
  /-- Latest first. -/
  sights : List Sight

namespace Listening

def start (shared : Shared) (ahead : List Read) : Listening :=
  ⟨.new, shared, ahead, 0, shared.table.latest.counters, []⟩

/-- A look at the counters. -/
def look (l : Listening) : Listening :=
  let counters := l.shared.table.latest.counters
  if counters = l.seen then l
  else { l with seen := counters, sights := ⟨l.reads, counters⟩ :: l.sights }

/-- The next read. Behind the last one the session is over and nothing comes. -/
def pull (l : Listening) : Read × Listening :=
  match l.ahead with
  | read :: ahead => (read, { l with ahead := ahead, reads := l.reads + 1 })
  | [] => (.nothing, { l with reads := l.reads + 1, shared := { l.shared with shutdown := true } })

/-- One step of the listener. -/
def next (setup : Setup) (now : Instant) (l : Listening) : Option Listening :=
  let (read, l) := if l.listener.isReading then l.look.pull else (.nothing, l)
  (l.listener.step setup now read l.shared).map fun (listener, shared) =>
    { l with listener := listener, shared := shared }

/-- The listener until it ends, for at most `fuel` steps. -/
def runFor (setup : Setup) (now : Instant) : (fuel : Nat) → Listening → Listening
  | 0, l => l
  | fuel + 1, l =>
    match l.next setup now with
    | some l => runFor setup now fuel l
    | none => l

/-- The listener until it ends. Between two reads it takes at most four steps. -/
def run (setup : Setup) (now : Instant) (l : Listening) : Listening :=
  l.runFor setup now (5 * l.ahead.length + 20)

/-- How the listener failed, if it did. -/
def failure? (l : Listening) : Option ListenerError := l.listener.result?.join

end Listening

end FlowTrace.Session
