import FlowTrace.Session.Setup

/-!
# Listeners

A listener drains one packet source. It decodes what it reads, claims the probes that are answered,
and collects the events in a batch. A batch is applied to the hop table first and settled then, so
that no round is complete ahead of its own answers. Fifty read errors in a row end a listener.

`Listener.step` is one atomic step.
-/

namespace FlowTrace.Session

/-- What one read of a packet source gives. -/
inductive Read where
  /-- A packet; `length` is what the source says about its length. -/
  | packet (data : Bytes) (length : Nat) (source : Address) (framing : Framing)
  /-- Nothing came in time. -/
  | nothing
  | failed (text : String)
  /-- The source broke down, perhaps with a message. -/
  | crashed (text : Option String)
  deriving DecidableEq, Repr

/-- Why a listener ended early. -/
inductive ListenerError where
  | readErrors (count : Nat) (last : String)
  | crashed (text : Option String)
  deriving DecidableEq, Repr

def ListenerError.message : ListenerError → String
  | .readErrors count last => s!"{count} consecutive errors (last: {last})"
  | .crashed text => "panicked: " ++ text.getD "unknown panic"

/-- What a listener does next. -/
inductive Listener.Phase where
  /-- Whether the session is over. -/
  | idle
  /-- Reads packets into a batch. -/
  | draining (batch : List Event)
  /-- Applies the batch. -/
  | applying (batch : List Event) (failure : Option ListenerError)
  /-- Settles the probes that the batch resolved. -/
  | settling (rounds : List UInt32) (failure : Option ListenerError)
  | ended (failure : Option ListenerError)

/-- A listener. -/
structure Listener where
  phase : Listener.Phase
  /-- The buffer that packets are read into. -/
  buffer : Bytes
  /-- The read errors since the last good read. -/
  errors : Nat

namespace Listener

/-- The room for a packet. -/
def bufferSize : Nat := 1500

/-- The most events of a batch. -/
def batchSize : Nat := 100

/-- The read errors in a row that end a listener. -/
def maxErrors : Nat := 50

def new : Listener := ⟨.idle, List.replicate bufferSize 0, 0⟩

/-- The buffer with a packet written over its beginning. -/
def fill (buffer data : Bytes) : Bytes :=
  data.take buffer.length ++ buffer.drop data.length

/-- What follows a batch: it is applied unless it is empty. -/
def closeBatch (batch : List Event) (failure : Option ListenerError) : Phase :=
  match batch with
  | [] =>
    match failure with
    | none => .idle
    | some e => .ended (some e)
  | _ => .applying batch failure

/-- What follows one more event: a full batch is applied. -/
def addEvent (batch : List Event) (e : Event) : Phase :=
  let batch := batch ++ [e]
  if batch.length < batchSize then .draining batch else .applying batch none

/-- The event that a received packet is, and the outstanding probes after it. -/
def hear (setup : Setup) (now : Instant) (index : Outstanding) (data : Bytes) (source : Address)
    (framing : Framing) : Except Fault (Event × Outstanding) := do
  match ← setup.decoder.decode data source framing with
  | none => return (.decodeDiscarded, index)
  | some response => return (setup.correlator.correlate index response now).getD (.unmatched, index)

/-- Takes one read into the batch. -/
def take (setup : Setup) (now : Instant) (read : Read) (l : Listener) (batch : List Event)
    (w : Shared) : Listener × Shared :=
  match read with
  | .packet data length source framing =>
    let buffer := fill l.buffer data
    let received := buffer.take length
    match hear setup now w.index received source framing with
    | .ok (event, index) => (⟨addEvent batch event, buffer, 0⟩, { w with index := index })
    | .error fault => ({ l with phase := .ended (some (.crashed (some fault.message))) }, w)
  | .nothing => ({ l with phase := closeBatch batch none, errors := 0 }, w)
  | .failed text =>
    let errors := l.errors + 1
    let failure := if maxErrors ≤ errors then some (.readErrors errors text) else none
    ({ l with phase := closeBatch batch failure, errors := errors }, w)
  | .crashed text => ({ l with phase := .ended (some (.crashed text)) }, w)

/-- One atomic step. `read` is what the source gives, if this step reads. There is no step after the
end. -/
def step (setup : Setup) (now : Instant) (read : Read) (l : Listener) (w : Shared) :
    Option (Listener × Shared) :=
  match l.phase with
  | .idle => some ({ l with phase := if w.shutdown then .ended none else .draining [] }, w)
  | .draining batch => some (take setup now read l batch w)
  | .applying batch failure =>
    some ({ l with phase := .settling (resolvedRounds batch) failure },
      w.mapTable (·.apply batch))
  | .settling rounds failure =>
    some ({ l with phase := closeBatch [] failure }, w.mapIndex (·.settle rounds))
  | .ended _ => none

/-- The next step reads from the source. -/
def isReading (l : Listener) : Bool :=
  match l.phase with
  | .draining _ => true
  | _ => false

/-- The listener waits for its next look at the session. -/
def isIdle (l : Listener) : Bool :=
  match l.phase with
  | .idle => true
  | _ => false

/-- How the listener ended, once it has. -/
def result? (l : Listener) : Option (Option ListenerError) :=
  match l.phase with
  | .ended failure => some failure
  | _ => none

end Listener

end FlowTrace.Session
