import FlowTrace.Program

/-!
# The command

The program with the arguments of its caller. It runs on a host that gives no sockets and knows no
names: it checks its arguments and settings, and then tells that no session can start.
-/

namespace FlowTrace

/-- A host on which the first socket fails to open. -/
def Host.withoutSockets : Host :=
  Host.new [⟨.socket, 1, ⟨.other, "sockets are not available"⟩⟩] none

/-- Surroundings in which nothing answers. -/
def Program.Surroundings.isolated : Program.Surroundings where
  program := "hoptrace"
  identifierBase := 12288
  startedAt := ⟨0⟩
  host := .withoutSockets
  replies := []
  names := ⟨fun _ => none, fun _ => none⟩
  hosts := fun name => .error s!"no address is known for {name}"

end FlowTrace

def main (args : List String) : IO UInt32 := do
  let outcome := FlowTrace.Program.run .isolated args
  IO.print outcome.output.render
  IO.eprint outcome.errors
  return UInt32.ofNat outcome.code
