import FlowTrace.Address

/-!
# Addresses as text

IPv4 addresses are written as four numbers with dots. IPv6 addresses are written in eight groups of
lower-case hexadecimal digits without leading zeros; the longest run of two or more zero groups,
the first of equal ones, becomes `::`. An address that embeds an IPv4 address after `::ffff:` ends
in dots.

`ofText?` reads both forms and nothing else: no surrounding blanks, no zone, no leading zero in
an IPv4 number, at most four digits in a group.
-/

namespace FlowTrace

/-- The digits of a number in lower-case hexadecimal. -/
def hexText (n : Nat) : String := String.ofList (Nat.toDigits 16 n)

namespace Address

/-- Octets with dots. -/
def dotted (octets : Bytes) : String := ".".intercalate (octets.map fun b => toString b.toNat)

/-- The words of an even number of bytes. -/
def groupsOf : Bytes → List Nat
  | hi :: lo :: rest => (word16 hi lo).toNat :: groupsOf rest
  | _ => []

/-- The start and length of the longest run of zeros, the first of equal ones. -/
def longestZeroRun (groups : List Nat) : Nat × Nat :=
  let runs := (List.range groups.length).map fun i =>
    (i, ((groups.drop i).takeWhile (· == 0)).length)
  runs.foldl (fun best run => if best.2 < run.2 then run else best) (0, 0)

/-- Groups with colons. -/
def colons (groups : List Nat) : String := ":".intercalate (groups.map hexText)

/-- The text of eight groups. -/
def groupsText (groups : List Nat) : String :=
  let (start, length) := longestZeroRun groups
  if length < 2 then colons groups
  else colons (groups.take start) ++ "::" ++ colons (groups.drop (start + length))

/-- The text of an address. -/
def text : Address → String
  | .v4 o => dotted o.toList
  | .v6 o =>
    let groups := groupsOf o.toList
    if groups.take 6 = [0, 0, 0, 0, 0, 65535] then "::ffff:" ++ dotted (o.toList.drop 12)
    else groupsText groups

/-- A socket address: IPv6 addresses stand in brackets. -/
def textWithPort (a : Address) (service : Nat) : String :=
  match a with
  | .v4 _ => a.text ++ ":" ++ toString service
  | .v6 _ => "[" ++ a.text ++ "]:" ++ toString service

/-! ## Reading -/

/-- The value of a digit in a base up to 16. -/
def digitValue (base : Nat) (c : Char) : Option Nat :=
  let v :=
    if '0' ≤ c ∧ c ≤ '9' then c.toNat - 48
    else if 'a' ≤ c ∧ c ≤ 'f' then c.toNat - 87
    else if 'A' ≤ c ∧ c ≤ 'F' then c.toNat - 55
    else 16
  if v < base then some v else none

/-- A number of one to `width` digits at the start of a text, with the rest. A longer run of digits
is refused, and so is a leading zero unless it is allowed. -/
def number? (base width : Nat) (leadingZero : Bool) (s : List Char) : Option (Nat × List Char) :=
  let digits := s.takeWhile fun c => (digitValue base c).isSome
  if digits.isEmpty ∨ width < digits.length then none
  else if !leadingZero ∧ digits.head? = some '0' ∧ 1 < digits.length then none
  else
    let value := digits.foldl (fun n c => n * base + (digitValue base c).getD 0) 0
    some (value, s.drop digits.length)

/-- One number of an IPv4 address. -/
def octet? (s : List Char) : Option (UInt8 × List Char) := do
  let (n, rest) ← number? 10 3 false s
  if n < 256 then some (UInt8.ofNat n, rest) else none

/-- The given character at the start of a text. -/
def expect? (c : Char) : List Char → Option (List Char)
  | [] => none
  | d :: rest => if c = d then some rest else none

/-- Four numbers with dots at the start of a text. -/
def dotted? (s : List Char) : Option ((UInt8 × UInt8 × UInt8 × UInt8) × List Char) := do
  let (a, s) ← octet? s
  let (b, s) ← octet? (← expect? '.' s)
  let (c, s) ← octet? (← expect? '.' s)
  let (d, s) ← octet? (← expect? '.' s)
  some ((a, b, c, d), s)

/-- What comes between two groups: nothing before the first, a colon before the others. -/
def separated? (first : Bool) (s : List Char) : Option (List Char) :=
  if first then some s else expect? ':' s

/-- Up to `limit` groups at the start of a text, and whether they end in an embedded IPv4 address.
It takes the place of two groups. -/
def groups? : (limit : Nat) → (first : Bool) → List Char → List UInt16 × Bool × List Char
  | 0, _, s => ([], false, s)
  | limit + 1, first, s =>
    match (if 0 < limit then (separated? first s).bind dotted? else none) with
    | some ((a, b, c, d), rest) => ([word16 a b, word16 c d], true, rest)
    | none =>
      match (separated? first s).bind (number? 16 4 true) with
      | none => ([], false, s)
      | some (g, rest) =>
        let (more, embedded, rest) := groups? limit false rest
        (UInt16.ofNat g :: more, embedded, rest)

/-- The address with the given groups, if they are eight. -/
def ofGroupList? (groups : List UInt16) : Option Address :=
  if h : groups.length = 8 then some (ofGroups ⟨groups.toArray, by simpa using h⟩) else none

/-- An IPv6 address at the start of a text. -/
def v6? (s : List Char) : Option (Address × List Char) := do
  let (front, embedded, rest) := groups? 8 true s
  if front.length = 8 then
    let a ← ofGroupList? front
    some (a, rest)
  else if embedded then none
  else
    let rest ← expect? ':' rest
    let rest ← expect? ':' rest
    let (back, _, rest) := groups? (7 - front.length) true rest
    let a ← ofGroupList? (front ++ List.replicate (8 - front.length - back.length) 0 ++ back)
    some (a, rest)

/-- An address at the start of a text. -/
def anyFamily? (s : List Char) : Option (Address × List Char) :=
  match dotted? s with
  | some ((a, b, c, d), rest) => some (ofOctets4 a b c d, rest)
  | none => v6? s

/-- The address that a whole text names. -/
def ofText? (s : String) : Option Address :=
  match anyFamily? s.toList with
  | some (a, []) => some a
  | _ => none

/-- The address in a socket address: in front of the last colon, IPv6 addresses in brackets. -/
def ofSocketText? (s : String) : Option Address :=
  let shown := ((s.toList.reverse.dropWhile (· != ':')).drop 1).reverse
  match shown with
  | '[' :: inner => ofText? (String.ofList (inner.takeWhile (· != ']')))
  | _ => ofText? (String.ofList shown)

end Address

end FlowTrace
