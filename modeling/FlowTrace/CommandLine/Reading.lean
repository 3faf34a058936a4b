import FlowTrace.CommandLine.Arguments

/-!
# Reading a command line

Options have a long name, some a letter as well. A value stands in the same word, behind a letter or
an equals sign, or in the next word, unless that looks like an option. Letters may be joined in one
word. After `--` no word is an option. The one other word names the host.

An option is taken in when the next one comes or the line ends. So the first thing wrong from left
to right is reported; only an unknown word goes before the option in front of it.

* `readArguments`: the arguments, or why there are none (`Stop`).
-/

namespace FlowTrace.CommandLine

/-- The options. -/
inductive Switch where
  | protocol
  | multipath
  | flows
  | maxTtl
  | interval
  | sendInterval
  | timeout
  | maxInFlight
  | rounds
  | dstPort
  | srcPort
  | unprivileged
  | ipv4
  | ipv6
  | noDns
  | noAsn
  | json
  | logLevel
  | help
  | version
  deriving DecidableEq, Repr

namespace Switch

def all : List Switch :=
  [.protocol, .multipath, .flows, .maxTtl, .interval, .sendInterval, .timeout, .maxInFlight,
    .rounds, .dstPort, .srcPort, .unprivileged, .ipv4, .ipv6, .noDns, .noAsn, .json, .logLevel,
    .help, .version]

/-- The name behind two dashes. -/
def long : Switch → String
  | .protocol => "protocol"
  | .multipath => "algorithm"
  | .flows => "flows"
  | .maxTtl => "max-ttl"
  | .interval => "interval"
  | .sendInterval => "send-interval"
  | .timeout => "timeout"
  | .maxInFlight => "max-in-flight"
  | .rounds => "rounds"
  | .dstPort => "port"
  | .srcPort => "src-port"
  | .unprivileged => "unprivileged"
  | .ipv4 => "ipv4"
  | .ipv6 => "ipv6"
  | .noDns => "no-dns"
  | .noAsn => "no-asn"
  | .json => "json"
  | .logLevel => "log-level"
  | .help => "help"
  | .version => "version"

/-- The letter behind one dash. -/
def letter : Switch → Option Char
  | .protocol => some 'p'
  | .multipath => some 'a'
  | .maxTtl => some 'm'
  | .interval => some 'i'
  | .rounds => some 'c'
  | .ipv4 => some '4'
  | .ipv6 => some '6'
  | .help => some 'h'
  | .version => some 'V'
  | _ => none

/-- The option stands alone; all others need a value. -/
def isFlag : Switch → Bool
  | .unprivileged | .ipv4 | .ipv6 | .noDns | .noAsn | .json | .help | .version => true
  | _ => false

def ofLong? (name : List Char) : Option Switch := all.find? (·.long == String.ofList name)

def ofLetter? (c : Char) : Option Switch := all.find? (·.letter == some c)

end Switch

/-- Why a command line is refused. -/
inductive UsageError where
  /-- A word that is no option and has no place. -/
  | unknown (word : String)
  | missingValue (option : Switch)
  /-- A value that is no number of the right kind. -/
  | badValue (option : Switch) (value : String)
  | repeated (option : Switch)
  /-- A value for an option that takes none. -/
  | needlessValue (option : Switch) (value : String)
  | missingHost
  deriving DecidableEq, Repr

/-- Why there are no arguments. -/
inductive Stop where
  | help
  | version
  | usage (e : UsageError)
  deriving DecidableEq, Repr

def UsageError.message : UsageError → String
  | .unknown word => s!"unexpected argument '{word}' found"
  | .missingValue option => s!"a value is required for '--{option.long}' but none was supplied"
  | .badValue option value => s!"invalid value '{value}' for '--{option.long}'"
  | .repeated option => s!"the argument '--{option.long}' cannot be used multiple times"
  | .needlessValue option value => s!"unexpected value '{value}' for '--{option.long}' found"
  | .missingHost => "the following required arguments were not provided: <TARGET>"

/-! ## Values -/

/-- Decimal digits, at least one. -/
def digits? (s : List Char) : Option Nat :=
  if s.isEmpty ∨ ¬ s.all (·.isDigit) then none else some (Decimal.digitsValue s)

/-- A whole number below a bound, with any sign that leaves it one. -/
def signedBelow? (bound : Nat) (text : String) : Option Nat := do
  let (negative, s) := Decimal.signed text.toList
  let n ← digits? s
  if n < bound ∧ ¬ (negative ∧ n ≠ 0) then some n else none

/-- A whole number of 64 bits, perhaps with a plus. -/
def word64? (text : String) : Option UInt64 := do
  let n ← digits? (match text.toList with
    | '+' :: s => s
    | s => s)
  if n < UInt64.size then some (UInt64.ofNat n) else none

/-- The arguments with the value of an option taken in; none if it is no such value. -/
def Arguments.set? (a : Arguments) (option : Switch) (value : String) : Option Arguments :=
  match option with
  | .protocol => some { a with protocol := value }
  | .multipath => some { a with multipath := value }
  | .flows => (signedBelow? 65536 value).map fun n => { a with flows := UInt16.ofNat n }
  | .maxTtl => (signedBelow? 256 value).map fun n => { a with maxTtl := UInt8.ofNat n }
  | .interval => (Decimal.ofText? value).map fun x => { a with interval := x }
  | .sendInterval => (word64? value).map fun n => { a with sendInterval := n }
  | .timeout => (Decimal.ofText? value).map fun x => { a with timeout := x }
  | .maxInFlight => (word64? value).map fun n => { a with maxInFlight := n }
  | .rounds => (signedBelow? 4294967296 value).map fun n => { a with rounds := UInt32.ofNat n }
  | .dstPort => (signedBelow? 65536 value).map fun n => { a with dstPort := some (UInt16.ofNat n) }
  | .srcPort => (signedBelow? 65536 value).map fun n => { a with srcPort := UInt16.ofNat n }
  | .logLevel => some { a with logLevel := value }
  | .unprivileged => some { a with unprivileged := true }
  | .ipv4 => some { a with ipv4 := true }
  | .ipv6 => some { a with ipv6 := true }
  | .noDns => some { a with noDns := true }
  | .noAsn => some { a with noAsn := true }
  | .json => some { a with json := true }
  | .help | .version => some a

/-! ## Words -/

/-- An option that is not taken in yet. -/
structure Waiting where
  option : Switch
  value : Option String

/-- What has been read so far. -/
structure Progress where
  /-- The arguments; the host is filled in at the end. -/
  args : Arguments
  host : Option String
  /-- The options that have been taken in. -/
  seen : List Switch
  waiting : Option Waiting
  /-- No further word is an option. -/
  plain : Bool

namespace Progress

def start : Progress := ⟨{ host := "" }, none, [], none, false⟩

/-- Takes in an option with its value. -/
def take (p : Progress) (option : Switch) (value : String) : Except Stop Progress :=
  if option ∈ p.seen then .error (.usage (.repeated option))
  else
    match p.args.set? option value with
    | some args => .ok { p with args := args, seen := option :: p.seen }
    | none => .error (.usage (.badValue option value))

/-- Takes in the option that waits. -/
def settle (p : Progress) : Except Stop Progress :=
  match p.waiting with
  | none => .ok p
  | some ⟨option, none⟩ => .error (.usage (.missingValue option))
  | some ⟨option, some value⟩ => { p with waiting := none }.take option value

/-- An option without a value in its word. -/
def option (p : Progress) (o : Switch) : Except Stop Progress := do
  let p ← p.settle
  match o with
  | .help => throw .help
  | .version => throw .version
  | _ => if o.isFlag then p.take o "" else return { p with waiting := some ⟨o, none⟩ }

/-- An option with a value in its word. -/
def optionWith (p : Progress) (o : Switch) (value : String) : Except Stop Progress := do
  let p ← p.settle
  p.take o value

/-- A word without dashes in front. -/
def name (p : Progress) (word : String) : Except Stop Progress :=
  if p.host.isSome then .error (.usage (.unknown word))
  else do
    let p ← p.settle
    return { p with host := some word }

/-- The text behind an equals sign, if there is one in front. -/
def afterEquals : List Char → List Char
  | '=' :: s => s
  | s => s

/-- The letters of a word. A letter that takes a value takes what is left of the word. -/
def letters (p : Progress) : List Char → Except Stop Progress
  | [] => .ok p
  | c :: rest =>
    match Switch.ofLetter? c with
    | none => .error (.usage (.unknown ("-" ++ c.toString)))
    | some o =>
      if o.isFlag then do letters (← p.option o) rest
      else if rest.isEmpty then p.option o
      else p.optionWith o (String.ofList (afterEquals rest))

/-- A long name, perhaps with a value behind an equals sign. -/
def long (p : Progress) (s : List Char) : Except Stop Progress :=
  let title := s.takeWhile (· != '=')
  match Switch.ofLong? title, s.drop title.length with
  | none, _ => .error (.usage (.unknown ("--" ++ String.ofList title)))
  | some o, [] => p.option o
  | some o, _ :: value =>
    if o.isFlag then .error (.usage (.needlessValue o (String.ofList value)))
    else p.optionWith o (String.ofList value)

/-- A word that is no option: the value of the option that waits for one, or a name. -/
def word (p : Progress) (text : String) : Except Stop Progress :=
  match p.waiting with
  | some ⟨o, none⟩ => .ok { p with waiting := some ⟨o, some text⟩ }
  | _ => p.name text

/-- The next word of a command line. -/
def next (p : Progress) (text : String) : Except Stop Progress :=
  if p.plain then p.name text
  else
    match text.toList with
    | ['-', '-'] => .ok { p with plain := true }
    | '-' :: '-' :: s => p.long s
    | ['-'] => p.word text
    | '-' :: s => p.letters s
    | _ => p.word text

end Progress

/-- The arguments of a command line. -/
def readArguments (words : List String) : Except Stop Arguments := do
  let p ← words.foldlM Progress.next .start
  let p ← p.settle
  match p.host with
  | some host => return { p.args with host := host }
  | none => throw (.usage .missingHost)

end FlowTrace.CommandLine
