import FlowTrace.Address

/-!
# Ones-complement checksums

The checksum of IP, ICMP, UDP and TCP: the complement of the ones-complement sum of all words.

* `checksumWith`, `verify`: the checksum over some bytes, and the test of bytes that hold theirs.
* `pseudoHeaderSum`: what addresses, protocol and length add to it.
* `compensate`: the word that makes the checksum come out as wished.
* `undoPatch`: the checksum before covered bytes were changed and it was patched to match.
-/

namespace FlowTrace.Checksum

/-- The sum of all words, modulo `2 ^ 32`. An odd byte at the end is the high byte of a word. -/
def sumWords : Bytes → UInt32 → UInt32
  | hi :: lo :: rest, sum => sumWords rest (sum + (word16 hi lo).toUInt32)
  | [last], sum => sum + (word16 last 0).toUInt32
  | [], sum => sum

/-- One end-around carry. -/
def carry (n : Nat) : Nat := n % 65536 + n / 65536

/-- Two carries bring a 32-bit sum down to 16 bits. -/
theorem carry_carry_lt {n : Nat} (h : n < 4294967296) : carry (carry n) < 65536 := by
  unfold carry; omega

/-- A 32-bit sum with all carries added back in. -/
def fold (sum : UInt32) : UInt16 := UInt16.ofNat (carry (carry sum.toNat))

/-- The checksum of some bytes on top of a given sum. -/
def checksumWith (data : Bytes) (sum : UInt32) : UInt16 := ~~~ fold (sumWords data sum)

/-- The checksum of some bytes. -/
def checksum (data : Bytes) : UInt16 := checksumWith data 0

/-- Bytes that hold their own checksum sum to all ones. -/
def verify (data : Bytes) : Bool := fold (sumWords data 0) == 0xFFFF

/-- What the pseudo-header adds to the sum. Addresses of two families add nothing. -/
def pseudoHeaderSum (src dst : Address) (protocol : UInt8) (length : Nat) : UInt32 :=
  let size := UInt32.ofNat length
  match src, dst with
  | .v4 _, .v4 _ =>
    sumWords dst.octets (sumWords src.octets 0) + protocol.toUInt32
      + UInt32.ofNat (size.toNat % 65536)
  | .v6 _, .v6 _ =>
    sumWords dst.octets (sumWords src.octets 0) + UInt32.ofNat (size.toNat / 65536)
      + UInt32.ofNat (size.toNat % 65536) + protocol.toUInt32
  | _, _ => 0

/-- The ones-complement sum of two words. -/
def onesAdd (a b : UInt16) : UInt16 := fold (a.toUInt32 + b.toUInt32)

/-- The word that, written over a zero word of data with checksum `current`, makes the checksum
`desired`. -/
def compensate (current desired : UInt16) : UInt16 := onesAdd (~~~ desired) current

/-- The sum of the complements of all whole words. -/
def sumComplements : Bytes → UInt32 → UInt32
  | hi :: lo :: rest, sum => sumComplements rest (sum + (~~~ word16 hi lo).toUInt32)
  | _, sum => sum

/-- The checksum that data had before the covered bytes `old` became `new` and the checksum was
patched to match: the patch with its two byte strings exchanged. -/
def undoPatch (seen : UInt16) (old new : Bytes) : UInt16 :=
  ~~~ fold (sumWords old (sumComplements new (~~~ seen).toUInt32))

end FlowTrace.Checksum
