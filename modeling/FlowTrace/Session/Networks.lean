import FlowTrace.Session.Rehearsal
import FlowTrace.Transport

/-!
# Networks for rehearsals

* `Script`: rules that say which packets a probe brings about. Some sends may fail, and the session
  may be stopped during a send.
* `Wire`: the sending side of an opened transport, with packets that the n-th datagram brings about.
-/

namespace FlowTrace.Session

/-! ## Scripts -/

/-- Names a probe. -/
structure ProbeName where
  flow : UInt16
  ttl : UInt8
  token : UInt16
  deriving DecidableEq, Repr

def ProbeName.ofProbe (p : EncodedProbe) : ProbeName := ⟨p.flow, p.ttl, p.token⟩

/-- A packet that a probe brings about. -/
structure ScriptedReply where
  probe : ProbeName
  /-- It comes only after the probe has expired. -/
  late : Bool
  read : Read

/-- How a scripted network behaves. -/
structure Script where
  replies : List ScriptedReply
  /-- Probes whose sending fails. -/
  refused : List ProbeName
  /-- The session is stopped during the send of this number. -/
  stopAfter : Option Nat
  /-- What follows the packets that wait. -/
  tail : List Read

/-- A scripted network at one moment. -/
structure ScriptState where
  queue : List Read
  late : List Read
  /-- The probes handed over so far, latest first, and whether each was taken. -/
  sends : List (ProbeName × Bool)

namespace Script

/-- Before the first probe, with some packets waiting. -/
def start (seed : List Read) : ScriptState := ⟨seed, [], []⟩

/-- A probe is handed over. -/
def send (script : Script) (s : ScriptState) (p : EncodedProbe) : SendResult ScriptState :=
  let name := ProbeName.ofProbe p
  let accepted := !script.refused.contains name
  let answers := if accepted then script.replies.filter (·.probe == name) else []
  { accepted := accepted
    stop := script.stopAfter == some (s.sends.length + 1)
    network :=
      { queue := s.queue ++ (answers.filter (!·.late)).map (·.read)
        late := s.late ++ (answers.filter (·.late)).map (·.read)
        sends := (name, accepted) :: s.sends } }

def network (script : Script) : Network ScriptState where
  send := script.send
  arrivals s := (s.queue ++ script.tail, { s with queue := [] })
  stragglers s := (s.late, { s with late := [] })

end Script

/-! ## Sockets -/

/-- A packet that the n-th datagram brings about, counted from one. -/
structure WireReply where
  nth : Nat
  data : Bytes
  origin : Address

/-- The sockets of a session at one moment, with the packets that can be read. -/
structure Wire where
  host : Host
  readable : List WireReply

namespace Wire

/-- A probe is sent through its socket. -/
def send (sender : Sender) (replies : List WireReply) (w : Wire) (p : EncodedProbe) :
    SendResult Wire :=
  let (result, host) := (sender.send p).run w.host
  let count := host.callCount .sendTo
  let caused :=
    if w.host.callCount .sendTo < count then replies.filter (·.nth == count) else []
  { accepted := result.isOk
    stop := false
    network := ⟨host, w.readable ++ caused⟩ }

/-- What a source reads of a waiting packet. -/
def readOf (source : Source) (r : WireReply) : Read :=
  source.read Listener.bufferSize (.datagram r.data (some r.origin))

/-- The network behind a transport. Its first source hears everything. -/
def network (transport : Transport) (replies : List WireReply) : Network Wire where
  send := send transport.sender replies
  arrivals w :=
    ((transport.sources.head?.map fun source => w.readable.map (readOf source)).getD [],
      { w with readable := [] })
  stragglers w := ([], w)

end Wire

end FlowTrace.Session
