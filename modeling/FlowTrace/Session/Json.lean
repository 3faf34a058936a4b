import FlowTrace.Hop.Json
import FlowTrace.Session.Listening
import FlowTrace.Session.Networks

/-!
# The course of a session as JSON

What is seen of a session while it runs: checkpoints, sights, and the probes handed to a network.
-/

namespace FlowTrace.Session

instance : ToJson Checkpoint where
  toJson c :=
    .object
      [("sends", toJson c.sends),
        ("counters", toJson c.counters),
        ("round", toJson c.round),
        ("outstanding", toJson c.outstanding),
        ("target_ttl", toJson c.targetTtls)]

instance : ToJson Sight where
  toJson s := .object [("before_read", toJson s.reads), ("counters", toJson s.counters)]

/-- Flow, hop limit and token of each probe, and whether it was taken. -/
def ScriptState.sendsJson (s : ScriptState) : Json :=
  let send (x : ProbeName × Bool) : Json :=
    .array [toJson x.1.flow, toJson x.1.ttl, toJson x.1.token, toJson x.2]
  toJson (s.sends.reverse.map send)

end FlowTrace.Session
