import FlowTrace.Address.Text

/-!
# Finding the target

A target is given as an address, or as the name of a host. An IPv6 address may stand in brackets,
with a zone. A number, or up to four with dots, is an IPv4 address as well; the last of fewer than
four fills the remaining octets. All other names are looked up.

* `Target.resolve`: the address of a target.
-/

namespace FlowTrace.Target

/-- Why there is no address. -/
inductive TargetError where
  | noAddress
  | wrongFamily (wanted : Family)
  /-- The name cannot be looked up. -/
  | lookup (text : String)
  deriving DecidableEq, Repr

def TargetError.message : TargetError → String
  | .noAddress => "No addresses found for hostname"
  | .wrongFamily wanted => s!"No {wanted.name} addresses found"
  | .lookup text => text

/-- The family that a target has to be of, if any. -/
structure Wanted where
  ipv4 : Bool
  ipv6 : Bool
  deriving DecidableEq, Repr

/-- A zone behind an address: a percent sign and a number of 32 bits. -/
def dropZone (s : List Char) : List Char :=
  match s with
  | '%' :: t =>
    match Address.number? 10 t.length true t with
    | some (n, rest) => if n < 4294967296 then rest else s
    | none => s
  | _ => s

/-- An IPv6 address in brackets. -/
def bracketed? (text : String) : Option Address := do
  let (a, rest) ← Address.v6? (← Address.expect? '[' text.toList)
  if dropZone rest = [']'] then some a else none

/-- A number in front of a text: hexadecimal behind `0x`, octal behind `0`, else decimal. -/
def anyBase? (s : List Char) : Option (Nat × List Char) :=
  match s with
  | '0' :: x :: t =>
    if x = 'x' ∨ x = 'X' then Address.number? 16 t.length true t
    else Address.number? 8 s.length true s
  | _ => Address.number? 10 s.length true s

/-- Up to four numbers with dots between them, which make up a whole text. -/
def numbers? : (most : Nat) → List Char → Option (List Nat)
  | 0, _ => none
  | most + 1, s => do
    let (n, rest) ← anyBase? s
    match rest with
    | [] => some [n]
    | '.' :: rest => do
      let more ← numbers? most rest
      some (n :: more)
    | _ => none

/-- The number that numbers stand for: one octet each, the last one fills what is left of four. -/
def joined? : (octets : Nat) → List Nat → Option Nat
  | _, [] => none
  | octets, [n] => if n < Nat.pow 256 octets then some n else none
  | octets, n :: rest => do
    let low ← joined? (octets - 1) rest
    if n < 256 then some (n * Nat.pow 256 (octets - 1) + low) else none

/-- The IPv4 address that a whole text is in numbers. -/
def numeric? (text : String) : Option Address := do
  let value ← joined? 4 (← numbers? 4 text.toList)
  match octets32 (UInt32.ofNat value) with
  | [a, b, c, d] => some (Address.ofOctets4 a b c d)
  | _ => none

/-- The first address of the wanted family. Without a wish for IPv6 an IPv4 address goes first. -/
def choose (wanted : Wanted) (found : List Address) : Except TargetError Address :=
  let fits (a : Address) : Bool :=
    if wanted.ipv4 then !a.isIpv6 else if wanted.ipv6 then a.isIpv6 else true
  let fitting := found.filter fits
  let first := if wanted.ipv6 then none else fitting.find? (!·.isIpv6)
  match first.or fitting.head? with
  | some a => .ok a
  | none => .error (.wrongFamily (if wanted.ipv4 then .ipv4 else .ipv6))

/-- The addresses of a host. -/
def addressesOf (lookup : String → Except String (List Address)) (text : String) :
    Except TargetError (List Address) :=
  match (bracketed? text).or (numeric? text) with
  | some a => .ok [a]
  | none =>
    match lookup text with
    | .ok [] => .error .noAddress
    | .ok found => .ok found
    | .error reason => .error (.lookup reason)

/-- The address of a target. A plain address is taken as it is, whatever family is wanted. -/
def resolve (lookup : String → Except String (List Address)) (wanted : Wanted) (text : String) :
    Except TargetError Address :=
  match Address.ofText? text with
  | some a => .ok a
  | none => do choose wanted (← addressesOf lookup text)

end FlowTrace.Target
