import FlowTrace.Packet.Layout
import FlowTrace.Probe
import FlowTrace.Session.Error

/-!
# The transport of a session

A transport is a sender and one or more packet sources, opened on a host.

* `Transport.opening`: the sockets of a session.
* `Sender.send`: one probe. Where the kernel writes the IP header, the hop limit is set on the
  socket first; else the probe goes out behind a header of ours.
* `Source.read`: what a receiving socket hands over.
* `detectSource`: the local address towards a target.
-/

namespace FlowTrace

/-- How probes leave. -/
inductive SendPath where
  /-- Through one raw socket; the kernel writes the IP header. -/
  | raw (socket : Nat)
  /-- Through one raw socket with an IPv4 header of ours, whose identification carries the token. -/
  | headerIncluded (socket : Nat)
  /-- Through one datagram socket per flow, bound to the key of the flow. -/
  | perFlow (sockets : List Nat) (payloadOnly : Bool)
  deriving DecidableEq, Repr

/-- Sends probes. -/
structure Sender where
  path : SendPath
  ipv6 : Bool
  deriving DecidableEq, Repr

/-- A receiving socket. -/
structure Source where
  socket : Nat
  framing : Framing
  deriving DecidableEq, Repr

/-- The opened sockets of a session. -/
structure Transport where
  sender : Sender
  sources : List Source
  deriving DecidableEq, Repr

/-! ## Sending -/

namespace Sender

/-- The call that sets the hop limit of a socket. -/
def hopLimitCall (ipv6 : Bool) (socket : Nat) (ttl : UInt8) : SocketCall :=
  if ipv6 then .setUnicastHops socket ttl.toNat else .setTtl socket ttl.toNat

/-- Sends a probe through a socket whose hop limit is set first. -/
def sendWithLimit (s : Sender) (socket : Nat) (p : EncodedProbe) (service : UInt16) (data : Bytes) :
    HostM IoFailure Unit := do
  HostM.perform (hopLimitCall s.ipv6 socket p.ttl) id
  HostM.perform (.sendTo socket p.dst service.toNat data) id

/-- Sends a probe. -/
def send (s : Sender) (p : EncodedProbe) : HostM IoFailure Unit :=
  match s.path with
  | .raw socket => s.sendWithLimit socket p 0 p.transport
  | .headerIncluded socket =>
    match p.src, p.dst with
    | .v4 _, .v4 _ =>
      let packet :=
        Packet.Ipv4.packet p.src p.dst p.ttl (p.ipId.getD 0) Packet.Udp.protocol p.transport
      HostM.perform (.sendTo socket p.dst 0 packet) id
    | _, _ => throw ⟨.invalidInput, "header-included send requires IPv4"⟩
  | .perFlow sockets payloadOnly =>
    match sockets[p.flow.toNat]? with
    | none => throw ⟨.invalidInput, s!"no socket for flow {p.flow.toNat}"⟩
    | some socket =>
      s.sendWithLimit socket p p.dstPort (if payloadOnly then p.udpPayload else p.transport)

end Sender

/-! ## Receiving -/

/-- What waits at a receiving socket. -/
inductive Incoming where
  /-- A datagram; its origin may not be an IP address. -/
  | datagram (data : Bytes) (origin : Option Address)
  | nothing
  | failed (failure : IoFailure)
  deriving DecidableEq, Repr

/-- What a source hands over, given room for `room` bytes. A read that times out gives nothing, and
so does a datagram from nowhere. -/
def Source.read (s : Source) (room : Nat) : Incoming → Session.Read
  | .datagram data (some origin) =>
    let kept := data.take room
    .packet kept kept.length origin s.framing
  | .datagram _ none => .nothing
  | .nothing => .nothing
  | .failed f =>
    if f.kind = .wouldBlock ∨ f.kind = .timedOut then .nothing else .failed f.text

/-! ## Opening -/

namespace Transport

/-- The time after which a read gives up, so that a listener notices the end. -/
def readTimeout : Duration := .ofMillis 100

def receiveBuffer : Nat := 1048576

/-- The number of the protocol whose header the sender writes itself. -/
def rawProtocol : Nat := 255

def icmpProtocol (ipv6 : Bool) : Nat :=
  (if ipv6 then Packet.Icmp.protocolV6 else Packet.Icmp.protocolV4).toNat

/-- A socket, or the failure to open it in words. -/
def opened (program what : String) (family : Family) (kind : SocketKind) (protocol : Nat) :
    HostM SessionError Nat :=
  HostM.openSocket (.socket family kind protocol) (SessionError.opening program what)

/-- A receiving socket with its options set. That the buffer cannot be enlarged does not matter. -/
def source (socket : Nat) (framing : Framing) : HostM SessionError Source := do
  HostM.perform (.setReadTimeout socket readTimeout) (.transport "receive socket options")
  HostM.attempt (.setRecvBufferSize socket receiveBuffer)
  return ⟨socket, framing⟩

/-- A datagram socket for a flow, bound to its key. -/
def flowSocket (program : String) (family : Family) (protocol : Nat) (fields : FlowFields) :
    HostM SessionError Nat := do
  let socket ← opened program "datagram probe socket" family .dgram protocol
  HostM.perform (.bind socket (.unspecified family) fields.key.toNat)
    (.transport "bind flow socket")
  return socket

/-- The datagram sockets of all flows. -/
def flowSockets (program : String) (plan : FlowPlan) (family : Family) (protocol : Nat) :
    HostM SessionError (List Nat) :=
  plan.flows.mapM (flowSocket program family protocol)

/-- The sending path of a session, and the sources that come with it. -/
def sendPath (program : String) (config : Config) (plan : FlowPlan) :
    HostM SessionError (SendPath × List Source) := do
  let ipv6 := config.target.isIpv6
  let family := config.target.family
  match config.privilege, config.protocol with
  | .privileged, .icmp =>
    let socket ← opened program "raw ICMP send socket" family .raw (icmpProtocol ipv6)
    return (.raw socket, [])
  | .privileged, .tcp =>
    let protocol := Packet.Tcp.protocol.toNat
    let receiver ← opened program "raw TCP receive socket" family .raw protocol
    let replies ← source receiver (if ipv6 then .tcpSegment else .ipv4Packet)
    let socket ← opened program "raw TCP send socket" family .raw protocol
    return (.raw socket, [replies])
  | privilege, .udp =>
    if privilege = .privileged ∧ config.multipath = .dublin ∧ ¬ ipv6 then
      let socket ← opened program "header-included raw socket" .ipv4 .raw rawProtocol
      return (.headerIncluded socket, [])
    else
      let sockets ← flowSockets program plan family Packet.Udp.protocol.toNat
      return (.perFlow sockets true, [])
  | .unprivileged, .icmp =>
    let sockets ← flowSockets program plan family (icmpProtocol ipv6)
    return (.perFlow sockets false, [])
  | .unprivileged, .tcp => throw .needsRawSockets

/-- Sources on the datagram sockets that echo requests leave through. They hear the target only. -/
def pingSources (sockets : List Nat) : HostM SessionError (List Source) :=
  sockets.mapM fun socket => do
    let clone ← HostM.openSocket (.tryClone socket) (.transport "ping socket clone")
    source clone .icmpMessage

/-- The sources of ICMP errors. Errors from routers on the way arrive on raw sockets only; echo
requests can do without. -/
def icmpSources (program : String) (config : Config) (path : SendPath) :
    HostM SessionError (List Source) := do
  let ipv6 := config.target.isIpv6
  let call := SocketCall.socket config.target.family .raw (icmpProtocol ipv6)
  let host ← get
  match host.failureOf call with
  | none =>
    let socket ← HostM.openSocket call (SessionError.opening program "raw ICMP receive socket")
    return [← source socket (if ipv6 then .icmpMessage else .ipv4Packet)]
  | some failure =>
    HostM.attempt call
    match path with
    | .perFlow sockets false => pingSources sockets
    | _ => throw (SessionError.opening program "raw ICMP receive socket" failure)

/-- The transport of a session. `program` is the path that advice names. -/
def opening (program : String) (config : Config) (plan : FlowPlan) :
    HostM SessionError Transport := do
  let (path, first) ← sendPath program config plan
  let sources ← icmpSources program config path
  return ⟨⟨path, config.target.isIpv6⟩, first ++ sources⟩

end Transport

/-- The local address towards a target. Connecting a datagram socket sends nothing; it only chooses
the route. -/
def detectSource (target : Address) : HostM SessionError Address := do
  let socket ← HostM.openSocket (.socket target.family .dgram Packet.Udp.protocol.toNat)
    (.transport "route probe socket")
  HostM.perform (.connect socket target 80) (.transport "route lookup")
  HostM.perform (.localAddr socket) (.transport "route lookup")
  match (← get).localAddress with
  | some address => return address
  | none => throw (.transport "route lookup" ⟨.addrNotAvailable, "no local address"⟩)

end FlowTrace
