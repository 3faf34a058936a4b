import FlowTrace.Correlator
import FlowTrace.Hop.Table

/-!
# What the tasks of a session share

`Setup` is fixed for the whole session. `Shared` changes: the outstanding probes, the hop table and
the two signals that end a session. Every task acts on `Shared` in atomic steps.
-/

namespace FlowTrace.Session

/-- What is fixed once a session starts. -/
structure Setup where
  config : Config
  encoder : Encoder
  decoder : Decoder
  correlator : Correlator

/-- The setup of a configuration; `source` is the local address. -/
def Setup.ofConfig (config : Config) (source : Address) : Setup :=
  let plan := FlowPlan.ofConfig config
  { config := config
    encoder := .ofConfig config plan source
    decoder := .ofConfig config plan.carrier
    correlator := ⟨plan, config.target, some source⟩ }

/-- What the tasks of a session change. -/
structure Shared where
  index : Outstanding
  table : HopTable
  /-- Nothing more is to be sent. -/
  stop : Bool := false
  /-- Listeners and sweeper are to end. -/
  shutdown : Bool := false

namespace Shared

/-- Nothing sent, nothing received. -/
def new (config : Config) : Shared where
  index := .new config.flows
  table := .new config

def mapTable (w : Shared) (f : HopTable → HopTable) : Shared := { w with table := f w.table }

def mapIndex (w : Shared) (f : Outstanding → Outstanding) : Shared := { w with index := f w.index }

end Shared

/-- The rounds of the probes that a batch of events resolves. -/
def resolvedRounds (events : List Event) : List UInt32 := events.filterMap Event.resolvedRound

end FlowTrace.Session
