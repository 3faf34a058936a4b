import FlowTrace.Hop.Record
import FlowTrace.Probe

/-!
# Outstanding probes

`Outstanding` holds the probes that wait for an answer, in one shard per flow, keyed by token. A
claim (`remove`, `removeUnique`, `expire`, `drainAll`) takes probes out of their shards but leaves
them counted; `settle` stops counting them, once their outcome is in the hop table. So a round never
looks resolved before its answers can be seen.
-/

namespace FlowTrace

/-- A probe that waits for an answer. -/
structure PendingProbe where
  flow : UInt16
  round : UInt32
  ttl : UInt8
  token : UInt16
  sentAt : Instant
  deadline : Instant
  expected : ExpectedFields
  deriving DecidableEq, Repr

/-- The probe got no answer in time. -/
def PendingProbe.timedOut (p : PendingProbe) : Event := .timedOut p.flow p.ttl p.round

/-- The waiting probes of one flow. No two of them have the same token. -/
abbrev Shard := List PendingProbe

namespace Shard

/-- The probe with a token. -/
def find (s : Shard) (token : UInt16) : Option PendingProbe := List.find? (·.token == token) s

def contains (s : Shard) (token : UInt16) : Bool := List.any s (·.token == token)

/-- The shard without the probe with a token. -/
def erase (s : Shard) (token : UInt16) : Shard := List.filter (·.token != token) s

end Shard

/-- The waiting probes of all flows, and how many probes of each round are not settled. -/
structure Outstanding where
  shards : List Shard
  /-- Unsettled probes per round; rounds without any are absent. -/
  perRound : List (UInt32 × Nat)
  /-- Unsettled probes of all rounds. -/
  count : Nat
  deriving DecidableEq, Repr

namespace Outstanding

/-- Nothing outstanding. There is always a shard. -/
def new (flows : UInt16) : Outstanding where
  shards := List.replicate (if flows = 0 then 1 else flows.toNat) []
  perRound := []
  count := 0

/-- The shard of a flow. -/
def shard? (o : Outstanding) (flow : UInt16) : Option Shard := o.shards[flow.toNat]?

/-- The number of unsettled probes of a round. -/
def inRound (o : Outstanding) (round : UInt32) : Nat := (o.perRound.lookup round).getD 0

/-- The counts with one more probe of a round. -/
def increment (round : UInt32) : List (UInt32 × Nat) → List (UInt32 × Nat)
  | [] => [(round, 1)]
  | (r, n) :: rest => if r = round then (r, n + 1) :: rest else (r, n) :: increment round rest

/-- The counts with one probe of a round less, if the round is among them. -/
def decrement? (round : UInt32) : List (UInt32 × Nat) → Option (List (UInt32 × Nat))
  | [] => none
  | (r, n) :: rest =>
    if r = round then some (if n ≤ 1 then rest else (r, n - 1) :: rest)
    else (decrement? round rest).map ((r, n) :: ·)

/-- A token is waiting on a flow. -/
def contains (o : Outstanding) (flow token : UInt16) : Bool :=
  (o.shard? flow).any (·.contains token)

/-- Registers a probe, unless its flow has no shard or its token is waiting there already. -/
def insert? (o : Outstanding) (p : PendingProbe) : Option Outstanding :=
  match o.shard? p.flow with
  | none => none
  | some shard =>
    if shard.contains p.token then none
    else some
      { shards := o.shards.modify p.flow.toNat (· ++ [p])
        perRound := increment p.round o.perRound
        count := o.count + 1 }

/-- Claims the probe with a token on a flow. -/
def remove (o : Outstanding) (flow token : UInt16) : Option (PendingProbe × Outstanding) :=
  match (o.shard? flow).bind (·.find token) with
  | none => none
  | some p => some (p, { o with shards := o.shards.modify flow.toNat (·.erase token) })

/-- The flows on which a token is waiting. -/
def owners (o : Outstanding) (token : UInt16) : List UInt16 :=
  ((List.range o.shards.length).map UInt16.ofNat).filter (o.contains · token)

/-- Claims the probe with a token if it is waiting on exactly one flow. -/
def removeUnique (o : Outstanding) (token : UInt16) : Option (PendingProbe × Outstanding) :=
  match o.owners token with
  | [flow] => o.remove flow token
  | _ => none

/-- Claims every probe whose deadline has come. -/
def expire (o : Outstanding) (now : Instant) : List PendingProbe × Outstanding :=
  let due (p : PendingProbe) : Bool := p.deadline.nanos ≤ now.nanos
  (o.shards.flatMap (List.filter due), { o with shards := o.shards.map (List.filter (!due ·)) })

/-- Claims every probe. -/
def drainAll (o : Outstanding) : List PendingProbe × Outstanding :=
  (o.shards.flatten, { o with shards := o.shards.map fun _ => [] })

/-- Stops counting one claimed probe of a round. -/
def settleOne (o : Outstanding) (round : UInt32) : Outstanding :=
  match decrement? round o.perRound with
  | none => o
  | some perRound => { o with perRound := perRound, count := o.count - 1 }

/-- Stops counting claimed probes, one for each round given. -/
def settle (o : Outstanding) (rounds : List UInt32) : Outstanding := rounds.foldl settleOne o

/-- The probes in all shards. -/
def waiting (o : Outstanding) : List PendingProbe := o.shards.flatten

/-- The earliest deadline of a waiting probe. -/
def nextDeadline (o : Outstanding) : Option Instant :=
  o.waiting.foldl
    (fun best p =>
      match best with
      | none => some p.deadline
      | some d => if p.deadline.nanos < d.nanos then some p.deadline else some d)
    none

end Outstanding

end FlowTrace
