import FlowTrace.Address.Text
import FlowTrace.Calendar
import FlowTrace.Config.Json
import FlowTrace.Decimal.Text
import FlowTrace.Hop.Json
import FlowTrace.Label
import FlowTrace.Text.Sink

/-!
# Reports

For people, a hop is shown under the responder that answered most often; others are counted in the
notes.

* `Report.text`: the final report, one table per flow.
* `Report.roundText`: what is shown as each round is complete.
* `exportJson`: the whole result of a trace as a document: the configuration, the final snapshot and
  the labels of all responders in order of their addresses.
-/

namespace FlowTrace.Report

/-! ## Cells -/

/-- A number of milliseconds with some places. -/
def millis (places : Nat) (d : Duration) : String := Decimal.fixed places (d.seconds * 1000.0)

/-- A time span in a table, or a dash. -/
def spanCell (d : Option Duration) : String := d.elim "-" fun d => millis 1 d ++ "ms"

/-- A responder as name, address and autonomous system. -/
def addressCell (label : Label) (addr : Address) : String :=
  let host := label.hostname.elim addr.text fun name => s!"{name} ({addr.text})"
  label.origin.elim host fun origin => s!"[AS{origin.number.toNat}] {host}"

/-- The responder of a hop; stars if there was no answer. -/
def hostCell (labels : LabelCache) (h : HopRecord) : String :=
  match h.primary with
  | some addr => addressCell (labels.get addr) addr
  | none => if h.received = 0 then "* * *" else "???"

def mplsNote (l : Packet.MplsLabel) : String :=
  s!"MPLS L={l.label.toNat} E={l.exp.toNat} S={l.bottom.toNat} T={l.ttl.toNat}"

/-- What else is known about a hop: further responders, a NAT, labels. -/
def notes (h : HopRecord) : String :=
  let others := h.addresses.filter (some · != h.primary)
  let paths := if others.isEmpty then [] else [s!"+{others.length} paths"]
  let nat := if h.natDetected then ["NAT"] else []
  ", ".intercalate (paths ++ nat ++ h.mpls.map mplsNote)

/-! ## Tables -/

/-- One line of a table. -/
def row (hop host loss sent avg least most deviation jitter notes : String) : String :=
  Text.right 3 hop ++ "  " ++ Text.left 40 host ++ " " ++ Text.right 6 loss ++ " "
    ++ Text.right 6 sent ++ " " ++ Text.right 8 avg ++ " " ++ Text.right 8 least ++ " "
    ++ Text.right 8 most ++ " " ++ Text.right 8 deviation ++ " " ++ Text.right 8 jitter ++ "  "
    ++ notes ++ "\n"

def headRow : String :=
  row "#" "Host" "Loss%" "Sent" "Avg" "Min" "Max" "StdDev" "Jitter" "Notes"

def rule : String := String.ofList (List.replicate 120 '-') ++ "\n"

/-- The line of a hop. Deviation and jitter need two answers. -/
def hopRow (labels : LabelCache) (h : HopRecord) : String :=
  let spread (d : Duration) : String := spanCell (if 1 < h.rtt.count then some d else none)
  row (toString h.ttl.toNat) (hostCell labels h)
    (Text.right 5 (Decimal.fixed 1 h.lossPercent) ++ "%") (toString h.sent)
    (spanCell h.rtt.meanSpan) (spanCell h.rtt.min) (spanCell h.rtt.max) (spread h.rtt.deviation)
    (spread h.rtt.jitterSpan) (notes h)

def flowTitle (f : FlowSnapshot) : String :=
  let fate := f.targetTtl.elim "target not reached" fun ttl => s!"target reached at hop {ttl.toNat}"
  s!"Flow {f.flow.toNat} ({fate})\n"

/-- The table of a flow: all hops that something was sent to. -/
def flowTable (labels : LabelCache) (f : FlowSnapshot) : String :=
  "\n" ++ flowTitle f ++ headRow ++ rule
    ++ String.join ((f.hops.filter (·.sent != 0)).map (hopRow labels))

/-! ## The final report -/

def heading (config : Config) (s : Snapshot) (startedAt : Timestamp) : String :=
  s!"hoptrace report for {s.target.text}\n" ++ s!"Started: {startedAt.plain}\n"
    ++ s!"Protocol: {config.protocol.title}  Algorithm: {config.multipath.title}  "
    ++ s!"Flows: {config.flows.toNat}  Rounds: {s.roundsCompleted.toNat}\n"

def totals (c : Counters) : String :=
  s!"\nProbes: {c.sent} sent, {c.answered} answered, {c.timedOut} timed out, "
    ++ s!"{c.sendFailures} send failures, {c.unmatched} unmatched, "
    ++ s!"{c.decodeDiscarded} undecodable\n"

/-- The whole report. -/
def text (config : Config) (s : Snapshot) (labels : LabelCache) (startedAt : Timestamp) : String :=
  heading config s startedAt ++ String.join (s.flows.map (flowTable labels)) ++ totals s.counters

/-! ## Rounds -/

/-- The line of a hop after a round. A hop that was not probed has none. -/
def roundRow (labels : LabelCache) (h : HopRecord) : String :=
  let hop := "TTL " ++ Text.right 2 (toString h.ttl.toNat) ++ "  "
  match h.primary with
  | none => if 0 < h.sent then hop ++ "*\n" else ""
  | some addr =>
    let name := (labels.get addr).hostname.getD ""
    hop ++ Text.left 15 addr.text ++ "  " ++ Text.left 20 name ++ "  "
      ++ Text.right 6 (millis 2 (h.rtt.meanSpan.getD .zero)) ++ "ms  "
      ++ Text.right 5 (Decimal.fixed 1 h.lossPercent) ++ "% loss\n"

/-- What is shown after a round. Flows are named if there is more than one. -/
def roundText (s : Snapshot) (labels : LabelCache) : String :=
  let flowText (f : FlowSnapshot) : String :=
    let title := if 1 < s.flows.length then s!"[flow {f.flow.toNat}]\n" else ""
    title ++ String.join (f.hops.map (roundRow labels))
  s!"Round {s.roundsCompleted.toNat}\n" ++ String.join (s.flows.map flowText) ++ "---\n"

end FlowTrace.Report

namespace FlowTrace

/-! ## Export -/

instance : ToJson OriginAs where
  toJson o :=
    .object [("number", toJson o.number), ("name", toJson o.name), ("prefix", toJson o.network)]

/-- A label as its name, with what is known. -/
def Label.toJson : Label → Json
  | .pending => .text "pending"
  | .unresolved => .text "unresolved"
  | .resolved hostname origin =>
    .object
      [("resolved",
        .object [("hostname", FlowTrace.toJson hostname), ("asn", FlowTrace.toJson origin)])]

instance : ToJson Label := ⟨Label.toJson⟩

/-- The labels of some addresses, each once, in order. -/
def LabelCache.toJson (c : LabelCache) (addrs : List Address) : Json :=
  let distinct := addrs.eraseDups.mergeSort Address.le
  .object (distinct.map fun a => (a.text, (c.get a).toJson))

/-- The result of a trace. -/
def exportJson (config : Config) (s : Snapshot) (labels : LabelCache)
    (startedAt takenAt : Timestamp) : Json :=
  .object
    [("config", config.toJson),
      ("snapshot", s.toJson startedAt.precise takenAt.precise),
      ("labels", labels.toJson s.addresses)]

end FlowTrace
