import FlowTrace.Address.Text
import FlowTrace.Time

/-!
# Socket calls

A host is asked for sockets by calls (`SocketCall`). `Host` keeps the calls made so far and knows
which of them fail; `Host.perform` makes one more. So what a program asks for, in which order, is a
value.
-/

namespace FlowTrace

/-- The kinds of failures that are told apart. -/
inductive IoKind where
  | permissionDenied
  | addrInUse
  | addrNotAvailable
  | wouldBlock
  | timedOut
  | interrupted
  | invalidInput
  | other
  deriving DecidableEq, Repr

namespace IoKind

def word : IoKind → String
  | .permissionDenied => "permission_denied"
  | .addrInUse => "addr_in_use"
  | .addrNotAvailable => "addr_not_available"
  | .wouldBlock => "would_block"
  | .timedOut => "timed_out"
  | .interrupted => "interrupted"
  | .invalidInput => "invalid_input"
  | .other => "other"

def all : List IoKind :=
  [.permissionDenied, .addrInUse, .addrNotAvailable, .wouldBlock, .timedOut, .interrupted,
    .invalidInput, .other]

end IoKind

/-- A failed call. -/
structure IoFailure where
  kind : IoKind
  text : String
  deriving DecidableEq, Repr

/-- What a socket is for. -/
inductive SocketKind where
  | raw
  | dgram
  deriving DecidableEq, Repr

def SocketKind.word : SocketKind → String
  | .raw => "raw"
  | .dgram => "dgram"

/-- The name of a call. -/
inductive SocketOp where
  | socket
  | bind
  | connect
  | localAddr
  | tryClone
  | setTtl
  | setUnicastHops
  | setReadTimeout
  | setRecvBufferSize
  | sendTo
  deriving DecidableEq, Repr

def SocketOp.word : SocketOp → String
  | .socket => "socket"
  | .bind => "bind"
  | .connect => "connect"
  | .localAddr => "local_addr"
  | .tryClone => "try_clone"
  | .setTtl => "set_ttl"
  | .setUnicastHops => "set_unicast_hops_v6"
  | .setReadTimeout => "set_read_timeout"
  | .setRecvBufferSize => "set_recv_buffer_size"
  | .sendTo => "send_to"

def SocketOp.all : List SocketOp :=
  [.socket, .bind, .connect, .localAddr, .tryClone, .setTtl, .setUnicastHops, .setReadTimeout,
    .setRecvBufferSize, .sendTo]

/-- A call with its arguments. Sockets are numbered in the order in which they came to be. -/
inductive SocketCall where
  | socket (family : Family) (kind : SocketKind) (protocol : Nat)
  | bind (id : Nat) (addr : Address) (service : Nat)
  | connect (id : Nat) (addr : Address) (service : Nat)
  | localAddr (id : Nat)
  | tryClone (id : Nat)
  | setTtl (id : Nat) (hops : Nat)
  | setUnicastHops (id : Nat) (hops : Nat)
  | setReadTimeout (id : Nat) (span : Duration)
  | setRecvBufferSize (id : Nat) (size : Nat)
  | sendTo (id : Nat) (addr : Address) (service : Nat) (data : Bytes)
  deriving DecidableEq, Repr

namespace SocketCall

def op : SocketCall → SocketOp
  | .socket .. => .socket
  | .bind .. => .bind
  | .connect .. => .connect
  | .localAddr .. => .localAddr
  | .tryClone .. => .tryClone
  | .setTtl .. => .setTtl
  | .setUnicastHops .. => .setUnicastHops
  | .setReadTimeout .. => .setReadTimeout
  | .setRecvBufferSize .. => .setRecvBufferSize
  | .sendTo .. => .sendTo

def familyWord : Family → String
  | .ipv4 => "ipv4"
  | .ipv6 => "ipv6"

/-- The arguments of a call. -/
def arguments : SocketCall → List String
  | .socket family kind protocol => [familyWord family, kind.word, toString protocol]
  | .bind id addr service => [toString id, addr.textWithPort service]
  | .connect id addr service => [toString id, addr.textWithPort service]
  | .localAddr id => [toString id]
  | .tryClone id => [toString id]
  | .setTtl id hops => [toString id, toString hops]
  | .setUnicastHops id hops => [toString id, toString hops]
  | .setReadTimeout id span => [toString id, toString (span.nanos / 1000000)]
  | .setRecvBufferSize id size => [toString id, toString size]
  | .sendTo id addr service data => [toString id, addr.textWithPort service, data.hex]

/-- A call on one line. -/
def text (c : SocketCall) : String := " ".intercalate (c.op.word :: c.arguments)

/-- The call makes a new socket. -/
def opens : SocketCall → Bool
  | .socket .. | .tryClone _ => true
  | _ => false

end SocketCall

/-- A call that was made, and how it failed if it did. -/
structure SocketRecord where
  call : SocketCall
  failure : Option IoFailure
  deriving DecidableEq, Repr

/-- The record on one line. -/
def SocketRecord.text (r : SocketRecord) : String :=
  r.call.text ++ r.failure.elim "" fun f => " ! " ++ f.text

/-- Which calls fail: the `nth` of its name, from one on. -/
structure PlannedFailure where
  op : SocketOp
  nth : Nat
  failure : IoFailure
  deriving DecidableEq, Repr

/-- A host that sockets are asked of. -/
structure Host where
  /-- What will fail. -/
  planned : List PlannedFailure
  /-- The local address of connected sockets; none if it is not an IP address. -/
  localAddress : Option Address
  /-- The calls so far, latest first. -/
  records : List SocketRecord
  deriving DecidableEq, Repr

namespace Host

def new (planned : List PlannedFailure) (localAddress : Option Address) : Host :=
  ⟨planned, localAddress, []⟩

/-- The number of calls of a name so far. -/
def callCount (h : Host) (op : SocketOp) : Nat := h.records.countP (·.call.op == op)

/-- The number of sockets that came to be so far, which is the number of the next one. -/
def socketCount (h : Host) : Nat :=
  h.records.countP fun r => r.call.opens && r.failure.isNone

/-- How a call fails, if it does. -/
def failureOf (h : Host) (call : SocketCall) : Option IoFailure :=
  (h.planned.find? fun p => p.op == call.op && p.nth == h.callCount call.op + 1).map (·.failure)

/-- The calls so far as lines, first call first. -/
def log (h : Host) : List String := h.records.reverse.map SocketRecord.text

end Host

/-- Work on a host that ends early with an error in `ε`. -/
abbrev HostM (ε : Type) := ExceptT ε (StateM Host)

namespace HostM

/-- Makes a call whose failure does not matter. -/
def attempt (call : SocketCall) : HostM ε Unit :=
  modify fun host => { host with records := ⟨call, host.failureOf call⟩ :: host.records }

/-- Makes a call; the failure is passed on in the words of the caller. -/
def perform (call : SocketCall) (wording : IoFailure → ε) : HostM ε Unit := do
  let failure := (← get).failureOf call
  attempt call
  match failure with
  | some f => throw (wording f)
  | none => pure ()

/-- Makes a call that gives a new socket. -/
def openSocket (call : SocketCall) (wording : IoFailure → ε) : HostM ε Nat := do
  let id := (← get).socketCount
  perform call wording
  return id

end HostM

end FlowTrace
