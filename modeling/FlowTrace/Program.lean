import FlowTrace.CommandLine.Reading
import FlowTrace.Label.Lookup
import FlowTrace.Report
import FlowTrace.Session.Start
import FlowTrace.Target

/-!
# The program

`Program.run` is a whole run: it reads the command line, finds the target, opens the sockets,
traces, looks up labels beside the trace, and ends in a report or a document. What the program finds
around it is a value (`Surroundings`), and so is what it leaves behind (`Outcome`).
-/

namespace FlowTrace.Program

/-- What the program finds around it. -/
structure Surroundings where
  /-- The path of the program, for advice. -/
  program : String
  /-- The first identifier of echo requests. -/
  identifierBase : UInt16
  startedAt : Timestamp
  host : Host
  /-- The packets that the datagrams of the program bring about. -/
  replies : List Session.WireReply
  names : Label.NameService
  /-- The addresses of a host name. -/
  hosts : String → Except String (List Address)

/-- What a program writes. -/
inductive Output where
  | text (s : String)
  /-- One document on a line of its own. -/
  | document (j : Json)

def Output.render : Output → String
  | .text s => s
  | .document j => j.pretty ++ "\n"

/-- What a program leaves behind. -/
structure Outcome where
  code : Nat
  output : Output
  errors : String

/-! ## Failures -/

/-- A text whose further lines are indented. -/
def indented (first further text : String) : String :=
  first ++ (further.intercalate (text.splitOn "\n"))

/-- One cause on its own. -/
def soleCause (cause : String) : String := "\n" ++ indented "    " "\n    " cause

/-- The causes with their numbers. -/
def numberedCauses : (n : Nat) → List String → String
  | _, [] => ""
  | n, cause :: rest =>
    "\n" ++ indented (Text.right 5 (toString n) ++ ": ") "\n       " cause
      ++ numberedCauses (n + 1) rest

/-- What went wrong and why, the nearest cause first. -/
def failureText (what : String) (causes : List String) : String :=
  let why :=
    match causes with
    | [] => ""
    | [cause] => "\n\nCaused by:" ++ soleCause cause
    | _ => "\n\nCaused by:" ++ numberedCauses 0 causes
  "Error: " ++ what ++ why ++ "\n"

def succeed (output : Output) : Outcome := ⟨0, output, ""⟩

def fail (written what : String) (causes : List String) : Outcome :=
  ⟨1, .text written, failureText what causes⟩

/-- The end of a program that cannot go on. -/
def crash (f : Fault) : Outcome := ⟨101, .text "", f.message ++ "\n"⟩

/-- The end of a program whose session does not start. A lack of rights is told without ceremony. -/
def notStarted (e : SessionError) : Outcome :=
  match e with
  | .insufficientPrivilege .. => ⟨1, .text "", e.message ++ "\n"⟩
  | _ => fail "" "Failed to start trace" e.chain

/-! ## Usage -/

def versionText : String := "hoptrace 0.1.0\n"

def optionLine (o : CommandLine.Switch) : String :=
  let letter := o.letter.elim "    " fun c => "-" ++ c.toString ++ ", "
  "  " ++ letter ++ "--" ++ o.long ++ (if o.isFlag then "" else " <VALUE>") ++ "\n"

def usageText : String :=
  "Usage: hoptrace [OPTIONS] <TARGET>\n\nOptions:\n"
    ++ String.join (CommandLine.Switch.all.map optionLine)

/-- The end of a program without arguments to go by. -/
def stopped : CommandLine.Stop → Outcome
  | .help => succeed (.text usageText)
  | .version => succeed (.text versionText)
  | .usage e => ⟨2, .text "", "error: " ++ e.message ++ "\n\n" ++ usageText⟩

/-! ## Labels beside a trace -/

/-- The nanoseconds between two goes of looking addresses up. -/
def lookupGap : Duration := .ofMillis 500

/-- The latest snapshot of a complete round at an instant, given all of them, latest first. -/
def seenAt (history : List (Instant × Snapshot)) (t : Instant) : List Address :=
  match history.find? fun (at_, _) => at_.nanos ≤ t.nanos with
  | some (_, s) => s.addresses
  | none => []

/-- The labels after some goes, from the first one at the start of the trace on. -/
def labelsAfter (resolve : Address → Label) (history : List (Instant × Snapshot)) (goes : Nat) :
    LabelCache :=
  let shown := (List.range goes).map fun i => seenAt history ⟨i * lookupGap.nanos⟩
  (LabelCache.empty.work (fun a => pure (resolve a)) shown : Id LabelCache)

/-- The labels at an instant. -/
def labelsAt (resolve : Address → Label) (history : List (Instant × Snapshot)) (t : Instant) :
    LabelCache :=
  labelsAfter resolve history (t.nanos / lookupGap.nanos + 1)

/-- What is looked up about addresses. -/
def interest (a : CommandLine.Arguments) : Label.Interest := ⟨!a.noDns, !a.noAsn⟩

/-- The labels at an instant, if any are wanted. -/
def wantedLabels (around : Surroundings) (a : CommandLine.Arguments)
    (history : List (Instant × Snapshot)) (t : Instant) : LabelCache :=
  if a.noDns && a.noAsn then .empty
  else labelsAt (around.names.lookup (interest a)) history t

/-- The labels of the report: it waits a while for those that are missing. -/
def finalLabels (around : Surroundings) (a : CommandLine.Arguments)
    (history : List (Instant × Snapshot)) (ended : Instant) (s : Snapshot) : LabelCache :=
  let cacheAt (millis : Nat) := wantedLabels around a history (ended.after (.ofMillis millis))
  cacheAt (LabelCache.wait cacheAt s.addresses)

/-! ## A run -/

/-- What is written while a session runs: each round that is seen, unless a document follows. -/
def progressText (json : Bool) (labelsAt : Instant → LabelCache)
    (shown : List (Instant × Snapshot)) : String :=
  if json then ""
  else String.join (shown.map fun (t, s) => Report.roundText s (labelsAt t))

/-- The session of a configuration, from opening the sockets to the last line. -/
def trace (around : Surroundings) (a : CommandLine.Arguments) (config : Config) : Outcome :=
  match (Session.prepare around.program config).run around.host with
  | (.error e, _) => notStarted e
  | (.ok ready, host) =>
    let net := Session.Wire.network ready.transport around.replies
    let r := Session.rehearse ready.setup ready.transport.sources.length net ⟨host, []⟩ false
    let progress := progressText a.json (wantedLabels around a r.history) r.shown
    match r.outcome with
    | .error e => fail progress "Trace failed" e.chain
    | .ok s =>
      let labels := finalLabels around a r.history r.now s
      if a.json then
        let takenAt := around.startedAt.later r.now.nanos
        succeed (.document (exportJson config s labels around.startedAt takenAt))
      else succeed (.text (progress ++ Report.text config s labels around.startedAt))

/-- The run with arguments that fit together. -/
def runWith (around : Surroundings) (a : CommandLine.Arguments) : Outcome :=
  match Target.resolve around.hosts ⟨a.ipv4, a.ipv6⟩ a.host with
  | .error e => fail "" ("Failed to resolve target: " ++ a.host) [e.message]
  | .ok target =>
    match a.toConfig target around.identifierBase with
    | .error f => crash f
    | .ok (.error e) => fail "" "Invalid options" [e.message]
    | .ok (.ok config) => trace around a config

/-- A whole run. -/
def run (around : Surroundings) (words : List String) : Outcome :=
  match CommandLine.readArguments words with
  | .error stop => stopped stop
  | .ok a =>
    match a.check with
    | .error e => fail "" e.message []
    | .ok _ => runWith around a

end FlowTrace.Program
