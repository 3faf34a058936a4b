import FlowTrace.Bytes

/-!
# Internet addresses

An address is four octets (IPv4) or sixteen (IPv6). An IPv4 address never equals an IPv6 one,
also where the latter embeds it.
-/

namespace FlowTrace

/-- The two address families. -/
inductive Family where
  | ipv4
  | ipv6
  deriving DecidableEq, Repr

/-- The usual name of a family. -/
def Family.name : Family → String
  | .ipv4 => "IPv4"
  | .ipv6 => "IPv6"

/-- An address of either family. -/
inductive Address where
  | v4 (octets : Vector UInt8 4)
  | v6 (octets : Vector UInt8 16)
  deriving DecidableEq, Repr

namespace Address

def family : Address → Family
  | .v4 _ => .ipv4
  | .v6 _ => .ipv6

def isIpv6 (a : Address) : Bool := a.family == .ipv6

/-- The octets in network order. -/
def octets : Address → Bytes
  | .v4 o => o.toList
  | .v6 o => o.toList

@[simp] theorem length_octets_v4 (o : Vector UInt8 4) : (Address.v4 o).octets.length = 4 := by
  simp [octets]

@[simp] theorem length_octets_v6 (o : Vector UInt8 16) : (Address.v6 o).octets.length = 16 := by
  simp [octets]

/-- The octets as one number. -/
def value (a : Address) : Nat := a.octets.foldl (fun n b => n * 256 + b.toNat) 0

/-- Every IPv4 address comes before every IPv6 address; within a family the number decides. -/
def le (a b : Address) : Bool :=
  match a, b with
  | .v4 _, .v6 _ => true
  | .v6 _, .v4 _ => false
  | _, _ => a.value ≤ b.value

/-- The IPv4 address with the given four octets. -/
def ofOctets4 (a b c d : UInt8) : Address := .v4 #v[a, b, c, d]

/-- The address whose octets stand at an index: the IPv4 one. -/
def readV4 (data : Bytes) (i : Nat) : Except Fault Address := do
  let a ← data.byteAt i
  let b ← data.byteAt (i + 1)
  let c ← data.byteAt (i + 2)
  let d ← data.byteAt (i + 3)
  return ofOctets4 a b c d

/-- The IPv6 address with the given sixteen octets. -/
def ofOctets16 (octets : Bytes) : Except Fault Address :=
  if h : octets.length = 16 then .ok (.v6 ⟨octets.toArray, by simpa using h⟩)
  else .error .outOfRange

/-- The address whose octets stand at an index: the IPv6 one. -/
def readV6 (data : Bytes) (i : Nat) : Except Fault Address := do
  let octets ← data.slice i (i + 16)
  ofOctets16 octets

/-- The IPv6 address with the given eight groups. -/
def ofGroups (groups : Vector UInt16 8) : Address :=
  let hi (i : Fin 8) : UInt8 := UInt8.ofNat (groups[i].toNat / 256)
  let lo (i : Fin 8) : UInt8 := UInt8.ofNat (groups[i].toNat % 256)
  .v6 #v[hi 0, lo 0, hi 1, lo 1, hi 2, lo 2, hi 3, lo 3,
    hi 4, lo 4, hi 5, lo 5, hi 6, lo 6, hi 7, lo 7]

/-- The address that stands for no address of a family. -/
def unspecified : Family → Address
  | .ipv4 => .v4 (Vector.replicate 4 0)
  | .ipv6 => .v6 (Vector.replicate 16 0)

def isUnspecified (a : Address) : Bool := a == unspecified a.family

/-- IPv4 addresses from 224 to 239, IPv6 addresses that begin with ff. -/
def isMulticast : Address → Bool
  | .v4 o => 224 ≤ o[0].toNat && o[0].toNat ≤ 239
  | .v6 o => o[0] == 255

/-- The IPv4 address of all ones. -/
def isBroadcast : Address → Bool
  | .v4 o => o == Vector.replicate 4 255
  | .v6 _ => false

end Address

end FlowTrace
