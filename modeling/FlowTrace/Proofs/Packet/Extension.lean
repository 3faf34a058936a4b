import FlowTrace.Proofs.Packet.Objects

/-!
# Reading extensions

- **Every read is in range** (`Extensions.returns_parse`): whatever bytes follow the header of an
  ICMP error, looking for extensions in them gives extensions or none.
- **Label stacks** (`LabelStack`): the labels that one object can hold.
- **Round trip** (`Extensions.parse_mplsExtension`): a label stack behind a quoted datagram whose
  length is told reads back, up to the first label that is marked as the last (`throughBottom`).
-/

namespace FlowTrace

namespace Packet

/-- Extensions are looked for within the payload. -/
theorem Extensions.returns_parse (payload : Bytes) (length : UInt8) (unit : Nat) :
    Returns (parse payload length unit) fun _ => True := by
  unfold parse
  refine .ite (fun _ => .ret trivial) fun hroom => ?_
  rw [headerSize] at hroom
  refine .bind (Bytes.returns_suffix (by omega)) fun found hfound => ?_
  have size : found.length = payload.length - startOf length unit := by
    rw [hfound, List.length_drop]
  refine .bind (Bytes.returns_byteAt (by omega)) fun first _ => ?_
  refine .ite (fun _ => .ret trivial) fun _ => ?_
  refine .bind (Bytes.returns_word16At (by omega)) fun sum _ => ?_
  refine .ite (fun _ => .ret trivial) fun _ => ?_
  obtain ⟨-, last, -, -, objects⟩ := objectsFrom_ends found headerSize
  exact .bind ⟨last.1, objects, trivial⟩ fun _ (_ : True) => .ret trivial

/-! ## Label stacks -/

/-- The values of an entry fit their bits. -/
structure MplsLabel.Fits (l : MplsLabel) : Prop where
  label : l.label.toNat < 1048576
  exp : l.exp.toNat < 8

/-- A label stack that one object holds: some entries, and no more than its size can tell. -/
structure LabelStack where
  labels : List MplsLabel
  filled : labels ≠ []
  few : labels.length ≤ 16382
  fits : ∀ l ∈ labels, l.Fits

namespace MplsLabel

/-- The fields of an entry are the digits of its word. -/
theorem toNat_word {l : MplsLabel} (fits : l.Fits) : l.word.toNat =
    l.label.toNat * 4096 + l.exp.toNat * 512 + l.bottom.toNat * 256 + l.ttl.toNat := by
  have narrow := fits.label
  have least := fits.exp
  have last := l.ttl.toNat_lt
  have bit := l.bottom.toNat_lt
  have flag : (if l.bottom then 256 else 0 : Nat) = l.bottom.toNat * 256 := by
    cases l.bottom <;> rfl
  rw [word, flag, UInt32.toNat_ofNat']
  omega

/-- An entry reads back from its word. -/
theorem ofWord_word {l : MplsLabel} (fits : l.Fits) : ofWord l.word = l := by
  have word := toNat_word fits
  have narrow := fits.label
  have least := fits.exp
  have last := l.ttl.toNat_lt
  have bit := l.bottom.toNat_lt
  have label : UInt32.ofNat (l.word.toNat / 4096) = l.label := by
    rw [← UInt32.toNat_inj, UInt32.toNat_ofNat']
    omega
  have exp : UInt8.ofNat (l.word.toNat / 512 % 8) = l.exp := by
    rw [← UInt8.toNat_inj, UInt8.toNat_ofNat']
    omega
  have flag : l.word.toNat / 256 % 2 = l.bottom.toNat := by omega
  have bottom : decide (l.bottom.toNat = 1) = l.bottom := by cases l.bottom <;> rfl
  have ttl : UInt8.ofNat (l.word.toNat % 256) = l.ttl := by
    rw [← UInt8.toNat_inj, UInt8.toNat_ofNat']
    omega
  rw [ofWord, label, exp, flag, bottom, ttl]

@[simp] theorem length_bytes (l : MplsLabel) : l.bytes.length = 4 := rfl

theorem length_flatMap_bytes (labels : List MplsLabel) :
    (labels.flatMap bytes).length = labels.length * 4 := by
  simp [List.length_flatMap, List.map_const']

end MplsLabel

/-- The words of a stack are those of its entries. -/
theorem words_flatMap_bytes (labels : List MplsLabel) :
    words (labels.flatMap MplsLabel.bytes) = labels.map MplsLabel.word := by
  induction labels with
  | nil => rfl
  | cons l rest ih =>
    simp only [List.flatMap_cons, MplsLabel.bytes, octets32, List.cons_append, List.nil_append,
      words, word32_octets, List.map_cons, ih]

namespace LabelStack

/-- The object that holds a stack. -/
def object (stack : LabelStack) : WireObject where
  classNum := Extensions.mplsClass
  classSubtype := Extensions.mplsSubtype
  body := stack.labels.flatMap MplsLabel.bytes
  fits := by
    have few := stack.few
    rw [MplsLabel.length_flatMap_bytes]
    omega

theorem meaning_object (stack : LabelStack) :
    stack.object.meaning = some (.mpls (throughBottom stack.labels)) := by
  have filled := List.length_pos_iff.mpr stack.filled
  have entries : (stack.labels.map MplsLabel.word).map MplsLabel.ofWord = stack.labels := by
    rw [List.map_map]
    exact (List.map_congr_left fun l hl => MplsLabel.ofWord_word (stack.fits l hl)).trans
      (List.map_id _)
  rw [WireObject.meaning, if_pos ⟨rfl, rfl⟩, if_neg]
  · rw [object, words_flatMap_bytes, entries]
  · rw [object, MplsLabel.length_flatMap_bytes]
    omega

/-- The structure is the object and nothing behind it. -/
theorem mplsLayout_eq (stack : LabelStack) (sum : UInt16) :
    mplsLayout stack.labels sum = [0x20, 0] ++ octets16 sum ++ (stack.object.bytes ++ []) := by
  simp only [mplsLayout, WireObject.bytes, object, MplsLabel.length_flatMap_bytes,
    List.append_assoc, List.append_nil, List.cons_append, List.nil_append]

end LabelStack

theorem length_mplsLayout (labels : List MplsLabel) (checksum : UInt16) :
    (mplsLayout labels checksum).length = 8 + labels.length * 4 := by
  simp only [mplsLayout, List.length_append, List.length_cons, List.length_nil, length_octets16,
    MplsLabel.length_flatMap_bytes]

namespace Extensions

/-- A structure that is given its checksum is valid. -/
theorem verify_mplsExtension (stack : LabelStack) :
    Checksum.verify (mplsExtension stack.labels) = true := by
  have few := stack.few
  have size := length_mplsLayout stack.labels 0
  rw [stack.mplsLayout_eq] at size
  rw [mplsExtension, stack.mplsLayout_eq, stack.mplsLayout_eq]
  exact Checksum.verify_seal rfl (by omega)

/-- A label stack behind a quoted datagram reads back where the length of the datagram is told. -/
theorem parse_mplsExtension (stack : LabelStack) {quoted : Bytes} {length : UInt8} {unit : Nat}
    (told : startOf length unit = quoted.length) (hlong : leastQuoted ≤ quoted.length) :
    parse (quoted ++ mplsExtension stack.labels) length unit =
      .ok (some ⟨[.mpls (throughBottom stack.labels)]⟩) := by
  have hvalid := verify_mplsExtension stack
  have one := objectsFrom_wireObjects [stack.object] (.inl (by decide) : Incomplete [])
    ([0x20, 0] ++ octets16 (Checksum.checksum (mplsLayout stack.labels 0)))
  rw [List.flatMap_singleton, List.filterMap_cons, stack.meaning_object] at one
  rw [mplsExtension, stack.mplsLayout_eq] at hvalid ⊢
  exact parse_structure rfl rfl (.inr hvalid) one told hlong

end Extensions

end Packet

end FlowTrace
