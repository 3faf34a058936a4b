import FlowTrace.Address.Text
import FlowTrace.Label
import FlowTrace.Text.Blank

/-!
# Looking addresses up

Host names come from reverse lookups. The origin of an address comes from TXT records of a public
service: one names the number and network of the autonomous system, another its name. All parts
that come from elsewhere, except for the network, lose their control characters.

* `originQuery`: the name to ask about the origin of an address.
* `parseOrigin`, `parseName`: the answers.
* `NameService.lookup`: the label of an address, with the questions asked.
-/

namespace FlowTrace.Label

/-- A question to a name service. -/
inductive Question where
  /-- The names of an address. -/
  | ptr (addr : Address)
  /-- The TXT records of a name. -/
  | txt (name : String)
  deriving DecidableEq, Repr

/-- A name service. Each answer is a list of records, or fails. -/
structure NameService where
  names : Address → Option (List String)
  /-- A record is a list of byte strings. -/
  records : String → Option (List (List Bytes))

/-- What is asked about an address. -/
structure Interest where
  reverse : Bool
  origin : Bool
  deriving DecidableEq, Repr

/-! ## Questions -/

/-- The low and the high half of a byte in hexadecimal. -/
def nibbles (b : UInt8) : List String := [hexText (b.toNat % 16), hexText (b.toNat / 16)]

/-- The octets of an IPv4 address, or the nibbles of an IPv6 address, last first, below the zone of
the service. -/
def originQuery (a : Address) : String :=
  match a with
  | .v4 o =>
    ".".intercalate (o.toList.reverse.map fun b => toString b.toNat) ++ ".origin.asn.cymru.com"
  | .v6 o => ".".intercalate (o.toList.reverse.flatMap nibbles) ++ ".origin6.asn.cymru.com"

/-- The usual short name of an autonomous system. -/
def asText (number : UInt32) : String := s!"AS{number.toNat}"

def nameQuery (number : UInt32) : String := asText number ++ ".asn.cymru.com"

/-! ## Answers -/

/-- A text without the letters AS in front, however often they stand there. -/
def dropAs : List Char → List Char
  | 'A' :: 'S' :: rest => dropAs rest
  | s => s

/-- A whole number of 32 bits in decimal, perhaps with a plus. -/
def number32? (s : List Char) : Option UInt32 :=
  let digits :=
    match s with
    | '+' :: rest => rest
    | _ => s
  if digits.isEmpty ∨ ¬ digits.all (·.isDigit) then none
  else
    let value := digits.foldl (fun n c => n * 10 + (c.toNat - 48)) 0
    if value < 4294967296 then some (UInt32.ofNat value) else none

/-- The columns of a record. -/
def columns (s : String) : List (List Char) := (Text.parts '|' s.toList).map Text.trim

/-- Number and network in a record. Of several numbers the first counts. -/
def parseOrigin (s : String) : Option (UInt32 × Option String) := do
  let cells := columns s
  let first ← cells.head?
  let number ← number32? (← Text.firstWord? (dropAs first))
  let network := cells[1]?.filter (!·.isEmpty)
  some (number, network.map String.ofList)

/-- The name in a record: its fifth column. -/
def parseName (s : String) : Option String :=
  (columns s)[4]?.map fun cell => Text.withoutControls (String.ofList cell)

/-- The parts of a record that are text, joined, without quotes around them. -/
def recordText (parts : List Bytes) : String :=
  let joined := parts.filterMap fun part => String.fromUTF8? ⟨part.toArray⟩
  String.ofList (Text.trimBoth (· == '"') (String.join joined).toList)

/-- A name as it is shown: without the dots at its end. -/
def shownName (name : String) : String :=
  Text.withoutControls (String.ofList (Text.trimEnd (· == '.') name.toList))

namespace NameService

/-- The first TXT record of a name. -/
def firstText (s : NameService) (name : String) : Option String :=
  (s.records name).bind fun records => records.head?.map recordText

/-- The host name of an address. -/
def hostname (s : NameService) (a : Address) : Option String :=
  (s.names a).bind fun names => names.head?.map shownName

/-- The origin of an address. A system without a name goes by its number. -/
def origin (s : NameService) (a : Address) : Option OriginAs := do
  let (number, network) ← (s.firstText (originQuery a)).bind parseOrigin
  let name := (s.firstText (nameQuery number)).bind parseName
  some ⟨number, name.getD (asText number), network⟩

/-- The label of an address. -/
def lookup (s : NameService) (interest : Interest) (a : Address) : Label :=
  let hostname := if interest.reverse then s.hostname a else none
  let origin := if interest.origin then s.origin a else none
  if hostname.isNone && origin.isNone then .unresolved else .resolved hostname origin

/-- The questions asked for the label of an address, in order. -/
def questions (s : NameService) (interest : Interest) (a : Address) : List Question :=
  let reverse := if interest.reverse then [.ptr a] else []
  let origin :=
    if interest.origin then
      let query := originQuery a
      .txt query ::
        (match (s.firstText query).bind parseOrigin with
        | some (number, _) => [.txt (nameQuery number)]
        | none => [])
    else []
  reverse ++ origin

end NameService

def Question.text : Question → String
  | .ptr addr => "ptr " ++ addr.text
  | .txt name => "txt " ++ name

end FlowTrace.Label
