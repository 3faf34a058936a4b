import FlowTrace.Config
import FlowTrace.Session.Listener
import FlowTrace.Socket

/-!
# Why a session does not start or does not end well

Lost probes, packets that are no responses and labels that cannot be found are part of a session and
never appear here.
-/

namespace FlowTrace

/-- A failure of a whole session. -/
inductive SessionError where
  | config (e : ConfigError)
  /-- A socket that needs more rights, with advice for the host program at a path. -/
  | insufficientPrivilege (what : String) (failure : IoFailure) (program : String)
  /-- TCP probes cannot be sent without raw sockets. -/
  | needsRawSockets
  | transport (what : String) (failure : IoFailure)
  | listener (e : Session.ListenerError)
  deriving DecidableEq, Repr

namespace SessionError

/-- What to do about a lack of rights. -/
def advice (program : String) : String :=
  "Fix options:\n"
    ++ "• Run with sudo\n"
    ++ "• Add capability: sudo setcap cap_net_raw+ep " ++ program ++ "\n"
    ++ "• ICMP only: --unprivileged with net.ipv4.ping_group_range covering your group"

def message : SessionError → String
  | .config e => "invalid configuration: " ++ e.message
  | .insufficientPrivilege what failure program =>
    s!"cannot open {what}: {failure.text}\n\n" ++ advice program
  | .needsRawSockets => "TCP probing needs raw sockets"
  | .transport what failure => s!"failed to open {what}: {failure.text}"
  | .listener e => "listener stopped: " ++ e.message

/-- The message and the messages of what lies behind it. -/
def chain (e : SessionError) : List String :=
  match e with
  | .config c => [e.message, c.message]
  | .transport _ failure => [e.message, failure.text]
  | _ => [e.message]

/-- The failure to open a socket: a lack of rights comes with advice. -/
def opening (program what : String) (failure : IoFailure) : SessionError :=
  if failure.kind = .permissionDenied then .insufficientPrivilege what failure program
  else .transport what failure

end SessionError

end FlowTrace
