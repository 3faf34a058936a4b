import FlowTrace.Proofs.Checksum
import FlowTrace.Proofs.Packet.Walks

/-!
# The objects of an extension structure

- **On the wire** (`WireObject`, `WireStructure`): a structure is a header and objects end to end.
  Behind the last whole object there may be bytes that do not begin another one (`Incomplete`).
- **What they say** (`WireObject.meaning`): a label stack says its entries up to the last one of the
  stack, and nothing if it has none; any other object is kept as it is.
- **Main result** (`Extensions.parse_wireStructure`): behind a quoted datagram exactly these objects
  are read, in their order.
-/

namespace FlowTrace

namespace Packet

/-! ## Label stacks -/

/-- The entries of a stack up to and including the first one marked as the last, all of them if none
is. -/
def throughBottom (labels : List MplsLabel) : List MplsLabel :=
  labels.take (labels.findIdx (·.bottom) + 1)

theorem throughBottom_cons (l : MplsLabel) (rest : List MplsLabel) :
    throughBottom (l :: rest) = if l.bottom then [l] else l :: throughBottom rest := by
  unfold throughBottom
  rw [List.findIdx_cons]
  cases l.bottom <;> rfl

/-- The whole words of four bytes. -/
def words : Bytes → List UInt32
  | a :: b :: c :: d :: rest => word32 a b c d :: words rest
  | _ => []

theorem length_words (data : Bytes) : (words data).length = data.length / 4 := by
  fun_induction words data with
  | case1 a b c d rest ih =>
    simp only [List.length_cons, ih]
    omega
  | case2 data hshort =>
    match data, hshort with
    | [], _ | [_], _ | [_, _], _ | [_, _, _], _ => simp
    | a :: b :: c :: d :: rest, hshort => exact (hshort a b c d rest rfl).elim

namespace Extensions

/-- The entries of a stack are its words, up to and including the first one marked as the last. -/
theorem labelsOf_eq (body : Bytes) :
    labelsOf body = throughBottom ((words body).map MplsLabel.ofWord) := by
  fun_induction labelsOf body with
  | case1 a b c d rest label last =>
    have last : (MplsLabel.ofWord (word32 a b c d)).bottom = true := last
    rw [words, List.map_cons, throughBottom_cons, if_pos last]
  | case2 a b c d rest label more ih =>
    have more : ¬ (MplsLabel.ofWord (word32 a b c d)).bottom = true := more
    rw [words, List.map_cons, throughBottom_cons, if_neg more, ← ih]
  | case3 body short =>
    have none : words body = [] := by
      unfold words
      split
      · exact (short _ _ _ _ _ rfl).elim
      · rfl
    rw [none]
    rfl

end Extensions

/-! ## Objects -/

/-- An object on the wire: its class and subtype, and a body whose length its size can tell. -/
structure WireObject where
  classNum : UInt8
  classSubtype : UInt8
  body : Bytes
  fits : 4 + body.length < 65536

namespace WireObject

/-- The size counts the four bytes in front of the body too. -/
def bytes (o : WireObject) : Bytes :=
  octets16 (UInt16.ofNat (4 + o.body.length)) ++ [o.classNum] ++ [o.classSubtype] ++ o.body

/-- What an object says. Class and subtype 1 stand for a label stack. -/
def meaning (o : WireObject) : Option ExtensionObject :=
  if o.classNum = 1 ∧ o.classSubtype = 1 then
    if o.body.length < 4 then none
    else some (.mpls (throughBottom ((words o.body).map MplsLabel.ofWord)))
  else some (.unknown o.classNum o.classSubtype o.body)

theorem toNat_size (o : WireObject) :
    (UInt16.ofNat (4 + o.body.length)).toNat = 4 + o.body.length := by
  have fits := o.fits
  rw [UInt16.toNat_ofNat']
  omega

@[simp] theorem length_bytes (o : WireObject) : o.bytes.length = 4 + o.body.length := by
  simp only [bytes, List.length_append, List.length_cons, List.length_nil, length_octets16]

/-- An object is read as what it says. -/
theorem object?_eq (o : WireObject) :
    Extensions.object? o.classNum o.classSubtype o.body = o.meaning := by
  have count := length_words o.body
  rw [Extensions.object?, meaning, Extensions.labelsOf_eq]
  refine ite_congr rfl (fun _ => ?_) fun _ => rfl
  cases shape : words o.body with
  | nil =>
    rw [shape, List.length_nil] at count
    rw [if_pos (by omega)]
    rfl
  | cons w rest =>
    rw [shape, List.length_cons] at count
    rw [if_neg (by omega), List.map_cons, throughBottom_cons]
    cases (MplsLabel.ofWord w).bottom <;> rfl

end WireObject

/-- Bytes that do not begin a whole object: there are fewer than four, or their size is below four
or tells of more bytes than there are. -/
def Incomplete (tail : Bytes) : Prop :=
  tail.length < 4 ∨
    ∃ size, tail.HasAt 0 (octets16 size) ∧ (size.toNat < 4 ∨ tail.length < size.toNat)

namespace Extensions

/-- An object is read as what it says, in front of the objects behind it. -/
theorem objectsFrom_object (o : WireObject) {before after : Bytes} {rest : List ExtensionObject}
    (behind : objectsFrom (before ++ o.bytes ++ after) (before ++ o.bytes).length = .ok rest) :
    objectsFrom (before ++ o.bytes ++ after) before.length = .ok (o.meaning.toList ++ rest) := by
  have end_ : (before ++ o.bytes).length = before.length + (4 + o.body.length) := by
    rw [List.length_append, o.length_bytes]
  have hroom : (before ++ o.bytes ++ after).length =
      before.length + (4 + o.body.length) + after.length := by
    rw [List.length_append, end_]
  -- what stands behind `before` is found at its place in the object
  have at_ (i : Nat) : (before ++ o.bytes ++ after).drop (before.length + i) =
      (o.bytes ++ after).drop i := by
    rw [List.append_assoc, List.drop_length_add_append]
  have hsize : (before ++ o.bytes ++ after).HasAt before.length
      (octets16 (UInt16.ofNat (4 + o.body.length))) := by
    rw [Bytes.HasAt, ← Nat.add_zero before.length, at_]
    rfl
  have hclass : (before ++ o.bytes ++ after).HasAt (before.length + 2) [o.classNum] := by
    rw [Bytes.HasAt, at_]
    rfl
  have hsubtype : (before ++ o.bytes ++ after).HasAt (before.length + 3) [o.classSubtype] := by
    rw [Bytes.HasAt, at_]
    rfl
  have hbody : (before ++ o.bytes ++ after).slice (before.length + 4)
      (before.length + (4 + o.body.length)) = .ok o.body := by
    rw [Bytes.slice_of_le (by omega) (by omega), at_, Nat.add_sub_add_left, Nat.add_sub_cancel_left]
    exact congrArg Except.ok List.take_left
  rw [objectsFrom, dif_pos (by rw [objectHeaderSize]; omega)]
  simp only [hsize.word16At, hclass.byteAt, hsubtype.byteAt, bind, Except.bind]
  rw [end_] at behind
  rw [dif_neg (by rw [objectHeaderSize, o.toNat_size]; omega), o.toNat_size, behind,
    objectHeaderSize, hbody, ← o.object?_eq]
  rfl

/-- The walk stops at bytes that do not begin a whole object. -/
theorem objectsFrom_incomplete (before : Bytes) {tail : Bytes} (stops : Incomplete tail) :
    objectsFrom (before ++ tail) before.length = .ok [] := by
  have length : (before ++ tail).length = before.length + tail.length := List.length_append
  rw [objectsFrom]
  by_cases hshort : tail.length < 4
  · exact dif_neg (by rw [objectHeaderSize]; omega)
  obtain ⟨size, told, wrong⟩ := stops.resolve_left hshort
  have read : (before ++ tail).HasAt before.length (octets16 size) := by
    rw [Bytes.HasAt, List.drop_left]
    exact told
  obtain ⟨classNum, hclass⟩ :=
    Bytes.exists_byteAt (before.length + 2) (by omega : _ < (before ++ tail).length)
  obtain ⟨subtype, hsubtype⟩ :=
    Bytes.exists_byteAt (before.length + 3) (by omega : _ < (before ++ tail).length)
  rw [dif_pos (by rw [objectHeaderSize]; omega), read.word16At, hclass, hsubtype]
  exact dif_pos (by rw [objectHeaderSize]; omega)

/-- Objects end to end are read as what they say, whatever stands in front of them. -/
theorem objectsFrom_wireObjects (objects : List WireObject) {tail : Bytes}
    (stops : Incomplete tail) (before : Bytes) :
    objectsFrom (before ++ (objects.flatMap WireObject.bytes ++ tail)) before.length =
      .ok (objects.filterMap WireObject.meaning) := by
  induction objects generalizing before with
  | nil => exact objectsFrom_incomplete before stops
  | cons o rest ih =>
    have join : before ++ ((o :: rest).flatMap WireObject.bytes ++ tail) =
        before ++ o.bytes ++ (rest.flatMap WireObject.bytes ++ tail) := by
      simp only [List.flatMap_cons, List.append_assoc]
    rw [join, objectsFrom_object o (ih (before ++ o.bytes)), List.filterMap_cons]
    cases o.meaning <;> rfl

end Extensions

/-! ## Structures -/

namespace Extensions

/-- The length field tells where a structure starts, unless it is zero. -/
theorem startOf_eq (length : UInt8) (unit : Nat) :
    startOf length unit = if length = 0 then leastQuoted else length.toNat * unit := by
  unfold startOf
  by_cases zero : length = 0
  · rw [if_pos zero, if_neg (by rw [zero]; decide)]
  · rw [if_neg zero, if_pos (UInt8.pos_iff_ne_zero.mpr zero)]

/-- A structure behind a quoted datagram is read as its objects if its version is 2 and its checksum
is right or zero. -/
theorem parse_structure {found rest : Bytes} {first reserved : UInt8} {sum : UInt16}
    (shape : found = [first, reserved] ++ octets16 sum ++ rest)
    (hversion : first.toNat / 16 = version) (hvalid : sum = 0 ∨ Checksum.verify found = true)
    {objects : List ExtensionObject} (read : objectsFrom found headerSize = .ok objects)
    {quoted : Bytes} {length : UInt8} {unit : Nat}
    (told : startOf length unit = quoted.length) (hlong : leastQuoted ≤ quoted.length) :
    parse (quoted ++ found) length unit = .ok (if objects = [] then none else some ⟨objects⟩) := by
  have hroom : ¬ (quoted.length < leastQuoted ∨
      (quoted ++ found).length < quoted.length + headerSize) := by
    simp only [shape, List.length_append, List.length_cons, length_octets16, headerSize]
    omega
  have behind : (quoted ++ found).suffix quoted.length = .ok found := by
    rw [Bytes.suffix_of_le (by simp), List.drop_left]
  have hfirst : found.byteAt 0 = .ok first := by rw [shape]; rfl
  have hsum : found.word16At 2 = .ok sum := by
    rw [shape]
    exact congrArg Except.ok (word16_octets _)
  have accepted : ¬ (sum ≠ 0 ∧ ¬ Checksum.verify found = true) :=
    fun both => hvalid.elim both.1 both.2
  unfold parse
  rw [told]
  simp only [hroom, if_false, behind, hfirst, hsum, read, accepted, bind, Except.bind, hversion,
    ne_eq, not_true_eq_false]
  cases objects <;> rfl

end Extensions

/-- An extension structure on the wire. -/
structure WireStructure where
  /-- The version, in the upper half. -/
  first : UInt8
  reserved : UInt8
  checksum : UInt16
  objects : List WireObject
  /-- What stands behind the last whole object. -/
  tail : Bytes

namespace WireStructure

def bytes (s : WireStructure) : Bytes :=
  [s.first, s.reserved] ++ octets16 s.checksum ++ (s.objects.flatMap WireObject.bytes ++ s.tail)

/-- What the objects say. -/
def meaning (s : WireStructure) : List ExtensionObject := s.objects.filterMap WireObject.meaning

/-- A structure of version 2 with a checksum that is right or zero. -/
structure IsValid (s : WireStructure) : Prop where
  version : s.first.toNat / 16 = 2
  verifies : s.checksum = 0 ∨ Checksum.verify s.bytes = true
  stops : Incomplete s.tail

end WireStructure

namespace Extensions

/-- Behind a quoted datagram of at least 128 bytes, whose length is told or is 128, the objects of a
structure are read as what they say, in their order. If none says anything there are no
extensions. -/
theorem parse_wireStructure {s : WireStructure} (hvalid : s.IsValid) {quoted : Bytes}
    {length : UInt8} {unit : Nat}
    (told : quoted.length = if length = 0 then 128 else length.toNat * unit)
    (hlong : 128 ≤ quoted.length) :
    parse (quoted ++ s.bytes) length unit =
      .ok (if s.meaning = [] then none else some ⟨s.meaning⟩) := by
  have start : startOf length unit = quoted.length := (startOf_eq length unit).trans told.symm
  have objects : objectsFrom s.bytes headerSize = .ok s.meaning :=
    objectsFrom_wireObjects s.objects hvalid.stops ([s.first, s.reserved] ++ octets16 s.checksum)
  exact parse_structure rfl hvalid.version hvalid.verifies objects start hlong

/-- A label stack of three entries, the second of them marked as the last, a label stack without an
entry, an object of another class, and bytes that tell of a fourth object but do not hold it. -/
def mixedStructure : WireStructure where
  first := 0x20
  reserved := 0
  checksum := 0
  objects := [⟨1, 1, [0x03, 0xE8, 0x00, 0x40, 0x00, 0x41, 0x2B, 0x01, 0, 0, 0x70, 9], by decide⟩,
    ⟨1, 1, [0xFF, 0xFF, 0xFF], by decide⟩, ⟨2, 10, [1, 2, 3], by decide⟩]
  tail := [0, 40, 1, 1, 0, 0]

/-- Two entries of the first stack are read, and the object of another class. -/
theorem parse_mixedStructure :
    parse (List.replicate 136 0 ++ mixedStructure.bytes) 17 8 =
      .ok (some ⟨[.mpls [⟨16000, 0, false, 64⟩, ⟨1042, 5, true, 1⟩],
        .unknown 2 10 [1, 2, 3]]⟩) := by
  have stops : Incomplete mixedStructure.tail := .inr ⟨40, rfl, .inr (by decide)⟩
  have hvalid : mixedStructure.IsValid := ⟨by decide, .inl rfl, stops⟩
  have read := @parse_wireStructure mixedStructure hvalid (List.replicate 136 0) 17 8
    (by simp) (by simp)
  rw [read]
  rfl

end Extensions

end Packet

end FlowTrace
