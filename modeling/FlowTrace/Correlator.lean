import FlowTrace.Checksum
import FlowTrace.Outstanding
import FlowTrace.Response

/-!
# Matching responses to probes

`Correlator.correlate` resolves the outstanding probe that a response answers. It looks for the flow
and token of the response; if that fails and the response is aimed at the target, for the token
alone; and if that fails too and the token is a UDP checksum, for the one flow on which undoing the
changes of a NAT gives a waiting token. A match after the deadline resolves the probe as timed out.
-/

namespace FlowTrace

/-- Matches the responses of one session. -/
structure Correlator where
  plan : FlowPlan
  target : Address
  /-- The local address, to undo changes of the source address. -/
  source : Option Address
  deriving DecidableEq, Repr

namespace Correlator

/-- The response is about a packet to the target: it quotes one, or comes from there. -/
def aimedAtTarget (c : Correlator) (r : Response) : Bool :=
  match r.quoted with
  | some quoted => quoted.dst == c.target
  | none => r.responder == c.target

/-- The address that was changed and what it became, both of one family. -/
def changedSource (c : Correlator) (quoted : QuotedProbe) : Option (Bytes × Bytes) :=
  match c.source with
  | some source =>
    if source ≠ quoted.src ∧ source.family = quoted.src.family then
      some (source.octets, quoted.src.octets)
    else none
  | none => none

/-- The checksum that a probe of a flow was sent with, given the one that a quote shows. -/
def sentChecksum (seen seenPort : UInt16) (source : Option (Bytes × Bytes)) (sentPort : UInt16) :
    UInt16 :=
  let token := Checksum.undoPatch seen (octets16 sentPort) (octets16 seenPort)
  match source with
  | some (old, new) => Checksum.undoPatch token old new
  | none => token

/-- The flows and waiting tokens that undoing the changes of a NAT leads to. -/
def patchOwners (c : Correlator) (o : Outstanding) (r : Response) : List (UInt16 × UInt16) :=
  if c.plan.carrier ≠ .udpChecksum then []
  else
    match r.quoted with
    | none => []
    | some quoted =>
      match quoted.srcPort, quoted.udpChecksum.filter (· ≠ 0) with
      | some seenPort, some seen =>
        c.plan.flows.filterMap fun fields =>
          fields.srcPort.bind fun sentPort =>
            let token := sentChecksum seen seenPort (c.changedSource quoted) sentPort
            if o.contains fields.flow token then some (fields.flow, token) else none
      | _, _ => []

/-- Claims the probe whose checksum a NAT patched, if exactly one flow fits. -/
def removePatched (c : Correlator) (o : Outstanding) (r : Response) :
    Option (PendingProbe × Outstanding) :=
  match c.patchOwners o r with
  | [(flow, token)] => o.remove flow token
  | _ => none

/-- Claims the probe named by flow and token, or by the token alone. -/
def removeNamed (c : Correlator) (o : Outstanding) (r : Response) :
    Option (PendingProbe × Outstanding) :=
  let byToken := if c.aimedAtTarget r then o.removeUnique r.token else none
  match c.plan.flowForKey r.flowKey with
  | some flow => (o.remove flow r.token).or byToken
  | none => byToken

/-- A claimed probe. -/
structure Claim where
  probe : PendingProbe
  /-- The probe was found by undoing the changes of a NAT. -/
  patched : Bool
  rest : Outstanding

/-- Claims the probe that a response answers. -/
def claim? (c : Correlator) (o : Outstanding) (r : Response) : Option Claim :=
  match c.removeNamed o r with
  | some (probe, rest) => some ⟨probe, false, rest⟩
  | none =>
    if c.aimedAtTarget r then (c.removePatched o r).map fun (probe, rest) => ⟨probe, true, rest⟩
    else none

/-- The evidence of a NAT in a response to a probe. -/
def fieldChange (c : Correlator) (claim : Claim) (r : Response) : Option FieldChange :=
  r.quoted.bind fun quoted =>
    (FieldChange.find c.target claim.probe.expected quoted).or
      (if claim.patched then
        some (.checksum claim.probe.token (quoted.udpChecksum.getD 0))
      else none)

/-- The event that a response to a claimed probe is. -/
def outcome (c : Correlator) (claim : Claim) (r : Response) (receivedAt : Instant) : Event :=
  let p := claim.probe
  if p.deadline.nanos < receivedAt.nanos then p.timedOut
  else .answered
    { flow := p.flow
      ttl := p.ttl
      round := p.round
      responder := r.responder
      rtt := receivedAt.since p.sentAt
      kind := r.kind
      nat := c.fieldChange claim r
      mpls := r.mplsLabels }

/-- Resolves the probe that a response answers, if it is still outstanding. It stays counted until
it is settled. -/
def correlate (c : Correlator) (o : Outstanding) (r : Response) (receivedAt : Instant) :
    Option (Event × Outstanding) :=
  (c.claim? o r).map fun claim => (c.outcome claim r receivedAt, claim.rest)

end Correlator

end FlowTrace
