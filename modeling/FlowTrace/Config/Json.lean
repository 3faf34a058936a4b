import FlowTrace.Config
import FlowTrace.Json.Reader
import FlowTrace.Json.Value

/-!
# Configurations as JSON

`Config.toJson` writes the settings in order, time spans as seconds. `Config.ofJson` reads an object
with these members, or an array of their values in order. Other members are passed over; a second
value for a setting is refused, and so is a missing one, except for the number of rounds.
-/

namespace FlowTrace

open Json (Reader Failure)

/-- A time span as seconds. -/
def Duration.toJson (d : Duration) : Json := .float d.seconds

/-- A cadence as its name, or its name with the gap. -/
def Cadence.toJson : Cadence → Json
  | .afterResolve => .text "after_resolve"
  | .minInterval gap => .object [("min_interval", gap.toJson)]

/-- All settings in order. -/
def Config.toJson (c : Config) : Json :=
  .object
    [("target", .text c.target.text),
      ("protocol", .text c.protocol.word),
      ("algorithm", .text c.multipath.word),
      ("flows", FlowTrace.toJson c.flows),
      ("max_ttl", FlowTrace.toJson c.maxTtl),
      ("send_interval", c.sendInterval.toJson),
      ("timeout", c.timeout.toJson),
      ("drain_grace", c.drainGrace.toJson),
      ("max_in_flight", .nat c.maxInFlight),
      ("round_cadence", c.cadence.toJson),
      ("max_rounds", FlowTrace.toJson c.maxRounds),
      ("src_port_base", FlowTrace.toJson c.srcPortBase),
      ("dst_port", FlowTrace.toJson c.dstPort),
      ("identifier_base", FlowTrace.toJson c.identifierBase),
      ("privilege", .text c.privilege.word),
      ("payload_size", .nat c.payloadSize)]

instance : ToJson Config := ⟨Config.toJson⟩

namespace Config

/-- Settings that have been read so far. -/
structure Draft where
  target : Option Address := none
  protocol : Option Protocol := none
  multipath : Option Multipath := none
  flows : Option UInt16 := none
  maxTtl : Option UInt8 := none
  sendInterval : Option Duration := none
  timeout : Option Duration := none
  drainGrace : Option Duration := none
  maxInFlight : Option Nat := none
  cadence : Option Cadence := none
  maxRounds : Option (Option UInt32) := none
  srcPortBase : Option UInt16 := none
  dstPort : Option UInt16 := none
  identifierBase : Option UInt16 := none
  privilege : Option Privilege := none
  payloadSize : Option Nat := none

/-- The configuration, if no setting is missing. -/
def Draft.complete? (d : Draft) : Option Config := do
  return {
    target := ← d.target
    protocol := ← d.protocol
    multipath := ← d.multipath
    flows := ← d.flows
    maxTtl := ← d.maxTtl
    sendInterval := ← d.sendInterval
    timeout := ← d.timeout
    drainGrace := ← d.drainGrace
    maxInFlight := ← d.maxInFlight
    cadence := ← d.cadence
    maxRounds := d.maxRounds.getD none
    srcPortBase := ← d.srcPortBase
    dstPort := ← d.dstPort
    identifierBase := ← d.identifierBase
    privilege := ← d.privilege
    payloadSize := ← d.payloadSize }

/-! ## The values of settings -/

def word8 : Reader UInt8 := fun s => do
  let (n, s) ← Reader.whole 256 s
  return (UInt8.ofNat n, s)

def word16 : Reader UInt16 := fun s => do
  let (n, s) ← Reader.whole 65536 s
  return (UInt16.ofNat n, s)

def word32 : Reader UInt32 := fun s => do
  let (n, s) ← Reader.whole 4294967296 s
  return (UInt32.ofNat n, s)

def size : Reader Nat := Reader.whole 18446744073709551616

/-- Seconds as a time span. Seconds that no span holds are a fault. -/
def span : Reader Duration := fun s => do
  let (x, s) ← Reader.float s
  match Duration.ofSeconds x with
  | .ok d => return (d, s)
  | .error f => throw (.fault f)

def address : Reader Address := fun s => do
  let (text, s) ← Reader.string s
  match Address.ofText? text with
  | some a => return (a, s)
  | none => throw .malformed

/-- The value with the given name. -/
def named (values : List α) (name : α → String) (text : String) : Except Failure α :=
  match values.find? (name · == text) with
  | some a => .ok a
  | none => .error .malformed

/-- A choice by name: a string, or an object with the name as its only key and what comes with it.
-/
def choice (plain : String → Except Failure α) (tagged : String → Reader α) : Reader α :=
    fun s => do
  match Reader.skipBlanks s with
  | '\x7b' :: s =>
    let (name, s) ← Reader.string s
    let s ← Reader.sign ':' s
    let (value, s) ← tagged name s
    let s ← Reader.sign '\x7d' s
    return (value, s)
  | s =>
    let (name, s) ← Reader.string s
    let value ← plain name
    return (value, s)

/-- A choice among values that come with nothing: `null` takes the place of what comes with a name.
-/
def oneOf (values : List α) (name : α → String) : Reader α :=
  choice (named values name) fun tag s => do
    let value ← named values name tag
    let (_, s) ← Reader.null s
    return (value, s)

def cadenceValue : Reader Cadence :=
  choice
    (fun name => if name = "after_resolve" then .ok .afterResolve else .error .malformed)
    fun name s =>
      if name = "after_resolve" then do
        let (_, s) ← Reader.null s
        return (.afterResolve, s)
      else if name = "min_interval" then do
        let (gap, s) ← span s
        return (.minInterval gap, s)
      else throw .malformed

/-! ## Settings -/

/-- Reads a value for a setting that has none yet. -/
def once (present : Option α) (value : Reader α) (put : α → Draft) : Reader Draft := fun s => do
  if present.isSome then throw .malformed
  let (a, s) ← value s
  return (put a, s)

/-- The readers of all settings in order, each with its key. -/
def settings (d : Draft) : List (String × Reader Draft) :=
  [("target", once d.target address fun v => { d with target := some v }),
    ("protocol", once d.protocol (oneOf Protocol.all Protocol.word) fun v =>
      { d with protocol := some v }),
    ("algorithm", once d.multipath (oneOf Multipath.all Multipath.word) fun v =>
      { d with multipath := some v }),
    ("flows", once d.flows word16 fun v => { d with flows := some v }),
    ("max_ttl", once d.maxTtl word8 fun v => { d with maxTtl := some v }),
    ("send_interval", once d.sendInterval span fun v => { d with sendInterval := some v }),
    ("timeout", once d.timeout span fun v => { d with timeout := some v }),
    ("drain_grace", once d.drainGrace span fun v => { d with drainGrace := some v }),
    ("max_in_flight", once d.maxInFlight size fun v => { d with maxInFlight := some v }),
    ("round_cadence", once d.cadence cadenceValue fun v => { d with cadence := some v }),
    ("max_rounds",
      once d.maxRounds (Reader.nullable word32) fun v => { d with maxRounds := some v }),
    ("src_port_base", once d.srcPortBase word16 fun v => { d with srcPortBase := some v }),
    ("dst_port", once d.dstPort word16 fun v => { d with dstPort := some v }),
    ("identifier_base", once d.identifierBase word16 fun v => { d with identifierBase := some v }),
    ("privilege", once d.privilege (oneOf Privilege.all Privilege.word) fun v =>
      { d with privilege := some v }),
    ("payload_size", once d.payloadSize size fun v => { d with payloadSize := some v })]

/-- The member of an object: a setting, or something else that is passed over. -/
def member (d : Draft) (key : String) : Reader Draft :=
  match (settings d).find? (·.1 == key) with
  | some (_, reader) => reader
  | none => fun s => do
    let (_, s) ← Reader.ignored s
    return (d, s)

/-- The number of settings. -/
def settingCount : Nat := 16

/-- The values of the settings from an index on, and the closing bracket. -/
def valuesFrom : (left : Nat) → Draft → Reader Draft
  | 0, d, s => do
    let s ← Reader.sign ']' s
    return (d, s)
  | left + 1, d, s => do
    let index := settingCount - (left + 1)
    match (settings d)[index]? with
    | none => throw .malformed
    | some (_, reader) =>
      let (d, s) ← Reader.item (index == 0) reader s
      valuesFrom left d s

/-- A configuration, as an object or as an array. -/
def reader : Reader Config := fun s => do
  let s := Reader.skipBlanks s
  let (draft, s) ←
    match s with
    | '[' :: rest => valuesFrom settingCount {} rest
    | _ => Reader.members member {} s
  match draft.complete? with
  | some c => return (c, s)
  | none => throw .malformed

/-- The configuration that a text holds. -/
def ofJson (text : String) : Except Failure Config := Reader.ofText reader text

end Config

end FlowTrace
