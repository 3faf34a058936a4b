import FlowTrace.Address
import FlowTrace.Address.Text
import FlowTrace.Time

/-!
# Session configuration

`Config` is fixed once a session starts. `Config.check` finds the first setting that no session can
run with, and `ConfigError.message` words it.
-/

namespace FlowTrace

/-- What a probe is made of. -/
inductive Protocol where
  | icmp
  | udp
  | tcp
  deriving DecidableEq, Repr

/-- How probes of one flow are kept on one path. -/
inductive Multipath where
  /-- Hashed fields are fixed per flow; the token hides in the transport checksum. -/
  | paris
  /-- Hashed fields are fixed per flow; the token is in the IP header or the length. -/
  | dublin
  deriving DecidableEq, Repr

/-- The sockets a session may open. -/
inductive Privilege where
  /-- Raw sockets. -/
  | privileged
  /-- Datagram sockets only. -/
  | unprivileged
  deriving DecidableEq, Repr

/-- When the next round may start. -/
inductive Cadence where
  /-- As soon as every probe of the round before is resolved. -/
  | afterResolve
  /-- Not before this long after the start of the round before. -/
  | minInterval (gap : Duration)
  deriving DecidableEq, Repr

namespace Protocol

def word : Protocol → String
  | .icmp => "icmp"
  | .udp => "udp"
  | .tcp => "tcp"

def title : Protocol → String
  | .icmp => "Icmp"
  | .udp => "Udp"
  | .tcp => "Tcp"

def all : List Protocol := [.icmp, .udp, .tcp]

/-- The destination service that probes aim at by default. -/
def defaultPort : Protocol → UInt16
  | .icmp => 0
  | .udp => 33434
  | .tcp => 80

end Protocol

namespace Multipath

def word : Multipath → String
  | .paris => "paris"
  | .dublin => "dublin"

def title : Multipath → String
  | .paris => "Paris"
  | .dublin => "Dublin"

def all : List Multipath := [.paris, .dublin]

end Multipath

namespace Privilege

def word : Privilege → String
  | .privileged => "privileged"
  | .unprivileged => "unprivileged"

def title : Privilege → String
  | .privileged => "Privileged"
  | .unprivileged => "Unprivileged"

def all : List Privilege := [.privileged, .unprivileged]

end Privilege

/-- The settings of one session. -/
structure Config where
  target : Address
  protocol : Protocol
  multipath : Multipath
  /-- How many flows are traced side by side. -/
  flows : UInt16
  /-- The largest hop limit. -/
  maxTtl : UInt8
  /-- The least gap between two sends. -/
  sendInterval : Duration
  /-- How long an answer is waited for. -/
  timeout : Duration
  /-- How much longer listeners collect late answers. -/
  drainGrace : Duration
  /-- The most probes that may be outstanding. -/
  maxInFlight : Nat
  cadence : Cadence
  /-- The number of rounds, unlimited if absent. -/
  maxRounds : Option UInt32
  srcPortBase : UInt16
  dstPort : UInt16
  identifierBase : UInt16
  privilege : Privilege
  /-- The least number of payload bytes. -/
  payloadSize : Nat
  deriving DecidableEq, Repr

/-- Why a configuration is refused. -/
inductive ConfigError where
  | flowCount (got : UInt16)
  | maxTtl (got : UInt8)
  | zeroTimeout
  | zeroRoundInterval
  | zeroInFlight
  /-- The keys of the flows do not fit in 16 bits. -/
  | keyRange (base : UInt16) (stop : Nat)
  | invalidTarget (target : Address)
  | unsupported (protocol : Protocol) (multipath : Multipath) (privilege : Privilege)
    (family : Family)
  | unknownProtocol (word : String)
  | unknownMultipath (word : String)
  deriving DecidableEq, Repr

namespace Config

/-- The most flows of a session. -/
def maxFlows : UInt16 := 16

/-- The largest hop limit of a session. -/
def maxSafeTtl : UInt8 := 64

/-- The settings that are not chosen otherwise. -/
def standard (target : Address) (protocol : Protocol) (identifierBase : UInt16) : Config where
  target := target
  protocol := protocol
  multipath := .paris
  flows := 1
  maxTtl := 30
  sendInterval := .ofMillis 10
  timeout := .ofMillis 3000
  drainGrace := .ofMillis 500
  maxInFlight := 64
  cadence := .minInterval (.ofMillis 1000)
  maxRounds := none
  srcPortBase := 50000
  dstPort := protocol.defaultPort
  identifierBase := identifierBase
  privilege := .privileged
  payloadSize := 32

/-- The first key of the flows: an identifier for ICMP, else a source number. -/
def keyBase (c : Config) : UInt16 :=
  match c.protocol with
  | .icmp => c.identifierBase
  | _ => c.srcPortBase

/-- The number after the last key, which may not fit in 16 bits. -/
def keyStop (c : Config) : Nat := c.keyBase.toNat + c.flows.toNat

/-- The keys of all flows fit in 16 bits, and no source number is zero. -/
def KeysFit (c : Config) : Prop := (c.protocol = .icmp ∨ c.srcPortBase ≠ 0) ∧ c.keyStop ≤ 65536

instance (c : Config) : Decidable c.KeysFit := by unfold KeysFit; infer_instance

/-- The target is one host. -/
def TargetIsUnicast (c : Config) : Prop :=
  ¬ (c.target.isUnspecified ∨ c.target.isMulticast ∨ c.target.isBroadcast)

instance (c : Config) : Decidable c.TargetIsUnicast := by unfold TargetIsUnicast; infer_instance

/-- The sockets at hand can send such probes. Without raw sockets there are no TCP segments and no
IPv4 headers of our own. -/
def isSupported (c : Config) : Bool :=
  match c.privilege, c.protocol, c.multipath, c.target with
  | .unprivileged, .tcp, _, _ => false
  | .unprivileged, .udp, .dublin, .v4 _ => false
  | _, _, _, _ => true

/-- The first reason to refuse the configuration. -/
def check (c : Config) : Except ConfigError Unit := do
  if c.flows = 0 ∨ maxFlows < c.flows then throw (.flowCount c.flows)
  if c.maxTtl = 0 ∨ maxSafeTtl < c.maxTtl then throw (.maxTtl c.maxTtl)
  if c.timeout.isZero then throw .zeroTimeout
  if c.cadence = .minInterval .zero then throw .zeroRoundInterval
  if c.maxInFlight = 0 then throw .zeroInFlight
  if ¬ c.KeysFit then throw (.keyRange c.keyBase c.keyStop)
  if ¬ c.TargetIsUnicast then throw (.invalidTarget c.target)
  if ¬ c.isSupported then
    throw (.unsupported c.protocol c.multipath c.privilege c.target.family)

/-- How long listeners collect late answers once the last round is over. -/
def drainDeadline (c : Config) : Except Fault Duration := c.timeout.add c.drainGrace

end Config

/-- The wording of a refusal. -/
def ConfigError.message : ConfigError → String
  | .flowCount got =>
    s!"flow count must be between 1 and {Config.maxFlows.toNat}, got {got.toNat}"
  | .maxTtl got =>
    s!"max hop-limit must be between 1 and {Config.maxSafeTtl.toNat}, got {got.toNat}"
  | .zeroTimeout => "timeout must be greater than zero"
  | .zeroRoundInterval => "round interval must be greater than zero"
  | .zeroInFlight => "max in-flight probes must be at least 1"
  | .keyRange base stop => s!"source ports {base.toNat}..{stop} overflow the port range"
  | .invalidTarget target => s!"target {target.text} is not a routable unicast address"
  | .unsupported protocol multipath privilege family =>
    s!"{multipath.title} {protocol.title} probing over {family.name} is not supported in "
      ++ s!"{privilege.title} mode"
  | .unknownProtocol word => s!"unknown protocol: {word}"
  | .unknownMultipath word => s!"unknown multipath algorithm: {word}"

/-- ASCII capitals become small; nothing else changes. -/
def asciiLower (s : String) : String := s.map Char.toLower

/-- The protocol with the given name, in any case. -/
def Protocol.ofText (s : String) : Except ConfigError Protocol :=
  match Protocol.all.find? (·.word == asciiLower s) with
  | some p => .ok p
  | none => .error (.unknownProtocol s)

/-- The algorithm with the given name, in any case. -/
def Multipath.ofText (s : String) : Except ConfigError Multipath :=
  match Multipath.all.find? (·.word == asciiLower s) with
  | some m => .ok m
  | none => .error (.unknownMultipath s)

end FlowTrace
