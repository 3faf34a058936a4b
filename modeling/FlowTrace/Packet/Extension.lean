import FlowTrace.Checksum

/-!
# Extensions of ICMP errors

An ICMP error may carry a structure of objects behind the datagram it quotes, among them MPLS label
stacks. Malformed extensions count as absent.

* `MplsLabel.ofWord`, `MplsLabel.word`: one label as a four-byte word.
* `Extensions.parse`: the objects behind a quoted datagram.
* `mplsExtension`: the structure that holds one label stack.
-/

namespace FlowTrace.Packet

/-- One entry of a label stack. -/
structure MplsLabel where
  /-- The label, 20 bits. -/
  label : UInt32
  /-- The traffic class, 3 bits. -/
  exp : UInt8
  /-- The last entry of its stack. -/
  bottom : Bool
  ttl : UInt8
  deriving DecidableEq, Repr

/-- The entry in a word. -/
def MplsLabel.ofWord (w : UInt32) : MplsLabel where
  label := UInt32.ofNat (w.toNat / 4096)
  exp := UInt8.ofNat (w.toNat / 512 % 8)
  bottom := w.toNat / 256 % 2 = 1
  ttl := UInt8.ofNat (w.toNat % 256)

/-- The word of an entry; bits that do not fit are dropped. -/
def MplsLabel.word (l : MplsLabel) : UInt32 :=
  UInt32.ofNat (l.label.toNat % 1048576 * 4096 + l.exp.toNat % 8 * 512
    + (if l.bottom then 256 else 0) + l.ttl.toNat)

/-- The four bytes of an entry. -/
def MplsLabel.bytes (l : MplsLabel) : Bytes := octets32 l.word

/-- One extension object. -/
inductive ExtensionObject where
  | mpls (labels : List MplsLabel)
  | unknown (classNum classSubtype : UInt8) (body : Bytes)
  deriving DecidableEq, Repr

/-- The extension structure of an ICMP error. -/
structure Extensions where
  objects : List ExtensionObject
  deriving DecidableEq, Repr

/-- The labels of the first label stack. -/
def Extensions.mplsLabels (e : Extensions) : Option (List MplsLabel) :=
  e.objects.findSome? fun
    | .mpls labels => some labels
    | .unknown .. => none

namespace Extensions

def version : Nat := 2
def mplsClass : UInt8 := 1
def mplsSubtype : UInt8 := 1
def headerSize : Nat := 4
def objectHeaderSize : Nat := 4

/-- The least length of the quoted datagram in front of extensions, and its length where the message
does not give one. -/
def leastQuoted : Nat := 128

/-- The entries of a label stack up to and including the first one marked as the last. -/
def labelsOf : Bytes → List MplsLabel
  | a :: b :: c :: d :: rest =>
    let label := MplsLabel.ofWord (word32 a b c d)
    if label.bottom then [label] else label :: labelsOf rest
  | _ => []

/-- The object with the given class and body; a label stack without entries is none. -/
def object? (classNum classSubtype : UInt8) (body : Bytes) : Option ExtensionObject :=
  if classNum = mplsClass ∧ classSubtype = mplsSubtype then
    match labelsOf body with
    | [] => none
    | labels => some (.mpls labels)
  else some (.unknown classNum classSubtype body)

/-- The objects from an offset on, up to the first that is not complete. -/
def objectsFrom (structure_ : Bytes) (offset : Nat) : Except Fault (List ExtensionObject) :=
  if _whole : offset + objectHeaderSize ≤ structure_.length then do
    let size ← structure_.word16At offset
    let classNum ← structure_.byteAt (offset + 2)
    let classSubtype ← structure_.byteAt (offset + 3)
    if _fits : size.toNat < objectHeaderSize ∨ structure_.length < offset + size.toNat then
      return []
    else
      let body ← structure_.slice (offset + objectHeaderSize) (offset + size.toNat)
      let rest ← objectsFrom structure_ (offset + size.toNat)
      return (object? classNum classSubtype body).toList ++ rest
  else return []
termination_by structure_.length - offset
decreasing_by
  simp only [objectHeaderSize] at _whole _fits
  omega

/-- Where the extension structure starts: behind `length` units of quoted datagram, or behind the
least quoted datagram if no length is given. -/
def startOf (length : UInt8) (unit : Nat) : Nat :=
  if 0 < length then length.toNat * unit else leastQuoted

/-- The extensions in the payload of an ICMP error. `length` is the length field of the message, in
units of `unit` bytes. A checksum of zero is not verified. -/
def parse (payload : Bytes) (length : UInt8) (unit : Nat) : Except Fault (Option Extensions) := do
  let start := startOf length unit
  if start < leastQuoted ∨ payload.length < start + headerSize then return none
  let found ← payload.suffix start
  let first ← found.byteAt 0
  if first.toNat / 16 ≠ version then return none
  let checksum ← found.word16At 2
  if checksum ≠ 0 ∧ ¬ Checksum.verify found then return none
  let objects ← objectsFrom found headerSize
  return if objects.isEmpty then none else some ⟨objects⟩

end Extensions

/-- An extension structure that holds one label stack, with the given checksum. -/
def mplsLayout (labels : List MplsLabel) (checksum : UInt16) : Bytes :=
  [0x20, 0] ++ octets16 checksum ++ octets16 (UInt16.ofNat (4 + labels.length * 4))
    ++ [Extensions.mplsClass, Extensions.mplsSubtype] ++ labels.flatMap MplsLabel.bytes

/-- The extension structure that holds one label stack. -/
def mplsExtension (labels : List MplsLabel) : Bytes :=
  mplsLayout labels (Checksum.checksum (mplsLayout labels 0))

end FlowTrace.Packet
