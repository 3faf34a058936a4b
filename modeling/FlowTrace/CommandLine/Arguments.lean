import FlowTrace.Config
import FlowTrace.Decimal.Text

/-!
# Arguments

`Arguments` is what a command line asks for. `Arguments.check` refuses combinations that no
configuration can express, and `Arguments.toConfig` makes the configuration for a target.
-/

namespace FlowTrace.CommandLine

/-- What a command line asks for. -/
structure Arguments where
  /-- The target as it was given: an address or a name. -/
  host : String
  protocol : String := "icmp"
  multipath : String := "paris"
  flows : UInt16 := 1
  maxTtl : UInt8 := 30
  /-- Seconds between the starts of two rounds; zero for none. -/
  interval : Float := 1.0
  /-- Milliseconds between two sends. -/
  sendInterval : UInt64 := 10
  /-- Seconds to wait for an answer. -/
  timeout : Float := 3.0
  maxInFlight : UInt64 := 64
  /-- The number of rounds; zero for no end. -/
  rounds : UInt32 := 0
  /-- The destination service, if it is not the usual one. -/
  dstPort : Option UInt16 := none
  srcPort : UInt16 := 50000
  unprivileged : Bool := false
  ipv4 : Bool := false
  ipv6 : Bool := false
  noDns : Bool := false
  noAsn : Bool := false
  json : Bool := false
  logLevel : String := "warn"

/-- Why arguments do not fit together. -/
inductive ArgumentsError where
  | bothFamilies
  | interval
  | timeout
  /-- A document is written at the end, so there has to be one. -/
  | endless
  deriving DecidableEq, Repr

def ArgumentsError.message : ArgumentsError → String
  | .bothFamilies => "Cannot specify both -4 and -6"
  | .interval => "Interval must be zero or positive"
  | .timeout => "Timeout must be positive"
  | .endless => "--json requires -c to be set"

namespace Arguments

/-- The first thing wrong with the arguments. -/
def check (a : Arguments) : Except ArgumentsError Unit := do
  if a.ipv4 && a.ipv6 then throw .bothFamilies
  if !a.interval.isFinite || a.interval < 0 then throw .interval
  if !a.timeout.isFinite || a.timeout ≤ 0 then throw .timeout
  if a.json && a.rounds == 0 then throw .endless

/-- When the next round may start. -/
def cadence (a : Arguments) : Except Fault Cadence :=
  if a.interval == 0 then .ok .afterResolve
  else (Duration.ofSeconds a.interval).map .minInterval

/-- The configuration for a target. It faults where no time span holds the seconds given. -/
def toConfig (a : Arguments) (target : Address) (identifierBase : UInt16) :
    Except Fault (Except ConfigError Config) :=
  match Protocol.ofText a.protocol, Multipath.ofText a.multipath with
  | .error e, _ => .ok (.error e)
  | _, .error e => .ok (.error e)
  | .ok protocol, .ok multipath => do
    let timeout ← Duration.ofSeconds a.timeout
    let cadence ← a.cadence
    let config :=
      { Config.standard target protocol identifierBase with
        multipath := multipath
        flows := a.flows
        maxTtl := a.maxTtl
        sendInterval := .ofMillis a.sendInterval.toNat
        timeout := timeout
        maxInFlight := a.maxInFlight.toNat
        cadence := cadence
        maxRounds := if a.rounds = 0 then none else some a.rounds
        srcPortBase := a.srcPort
        dstPort := a.dstPort.getD protocol.defaultPort
        privilege := if a.unprivileged then .unprivileged else .privileged }
    return config.check.map fun _ => config

end Arguments

end FlowTrace.CommandLine
