import FlowTrace.Bytes

/-!
# Fields of byte strings

- **Fields** (`Bytes.HasAt`): a field stands at an index. Reads at the index give the field
  (`HasAt.byteAt`, `HasAt.word16At`, `HasAt.word32At`).
- **Reads** within the bytes succeed (`exists_byteAt`, `exists_word16At`), and what is read is a
  field (`exists_hasAt_octets16`).
- **Changes** (`Bytes.overwrite`): a field is replaced by another one of its length. What stands
  elsewhere stays (`HasAt.overwrite`).
-/

namespace FlowTrace

theorem toNat_word16 (hi lo : UInt8) : (word16 hi lo).toNat = hi.toNat * 256 + lo.toNat := by
  have h := hi.toNat_lt
  have l := lo.toNat_lt
  simp only [word16, UInt16.toNat_ofNat']
  omega

/-- Two bytes are those of their word. -/
theorem octets16_word16 (hi lo : UInt8) : octets16 (word16 hi lo) = [hi, lo] := by
  have value := toNat_word16 hi lo
  have h := hi.toNat_lt
  have l := lo.toNat_lt
  have first : UInt8.ofNat ((word16 hi lo).toNat / 256) = hi := by
    rw [← UInt8.toNat_inj, UInt8.toNat_ofNat']
    omega
  have second : UInt8.ofNat ((word16 hi lo).toNat % 256) = lo := by
    rw [← UInt8.toNat_inj, UInt8.toNat_ofNat']
    omega
  rw [octets16, first, second]

namespace Bytes

/-- A field stands at an index. -/
def HasAt (data : Bytes) (i : Nat) (field : Bytes) : Prop :=
  (data.drop i).take field.length = field

instance (data : Bytes) (i : Nat) (field : Bytes) : Decidable (data.HasAt i field) :=
  inferInstanceAs (Decidable (_ = _))

/-- The bytes with those from an index on replaced. -/
def overwrite (data : Bytes) (i : Nat) (field : Bytes) : Bytes :=
  data.take i ++ field ++ data.drop (i + field.length)

variable {data before field after : Bytes} {i : Nat}

/-! ## Fields -/

theorem hasAt_append (before field after : Bytes) :
    HasAt (before ++ field ++ after) before.length field := by
  simp [HasAt]

/-- A byte of a field is the byte at its place. -/
theorem HasAt.getElem? (h : data.HasAt i field) {j : Nat} (hj : j < field.length) :
    data[i + j]? = field[j]? := by
  conv => rhs; rw [← h]
  rw [List.getElem?_take_of_lt hj, List.getElem?_drop]

theorem HasAt.byteAt {b : UInt8} (h : data.HasAt i [b]) : data.byteAt i = .ok b :=
  byteAt_of_getElem? (h.getElem? (j := 0) Nat.one_pos)

theorem HasAt.word16At {w : UInt16} (h : data.HasAt i (octets16 w)) :
    data.word16At i = .ok w := by
  have hi := byteAt_of_getElem? (h.getElem? (j := 0) (by simp))
  have lo := byteAt_of_getElem? (h.getElem? (j := 1) (by simp))
  simp only [Nat.add_zero] at hi
  rw [Bytes.word16At, hi, lo]
  exact congrArg Except.ok (word16_octets w)

theorem HasAt.word32At {w : UInt32} (h : data.HasAt i (octets32 w)) :
    data.word32At i = .ok w := by
  have a := byteAt_of_getElem? (h.getElem? (j := 0) (by simp))
  have b := byteAt_of_getElem? (h.getElem? (j := 1) (by simp))
  have c := byteAt_of_getElem? (h.getElem? (j := 2) (by simp))
  have d := byteAt_of_getElem? (h.getElem? (j := 3) (by simp))
  simp only [Nat.add_zero] at a
  rw [Bytes.word32At, a, b, c, d]
  exact congrArg Except.ok (word32_octets w)

/-- Two words at one index are the same. -/
theorem HasAt.word16_eq {v w : UInt16} (hv : data.HasAt i (octets16 v))
    (hw : data.HasAt i (octets16 w)) : v = w :=
  Except.ok.inj (hv.word16At.symm.trans hw.word16At)

/-- A field within a prefix is still there when other bytes follow the prefix. -/
theorem HasAt.of_prefix (h : data.HasAt i field) {front : Bytes} (cut : front <+: data)
    (within : i + field.length ≤ front.length) (after : Bytes) :
    HasAt (front ++ after) i field := by
  obtain ⟨rest, rfl⟩ := cut
  unfold HasAt at *
  rw [List.drop_append_of_le_length (by omega),
    List.take_append_of_le_length (by rw [List.length_drop]; omega)] at *
  exact h

/-! ## Changes -/

@[simp] theorem overwrite_append {new : Bytes} (before after : Bytes)
    (h : field.length = new.length) :
    overwrite (before ++ field ++ after) before.length new = before ++ new ++ after := by
  simp [overwrite, ← h]

/-- A field that is not empty lies within the bytes. -/
theorem HasAt.within (h : data.HasAt i field) : field = [] ∨ i + field.length ≤ data.length := by
  have length := congrArg List.length h
  rw [List.length_take, List.length_drop] at length
  rw [← List.length_eq_zero_iff]
  omega

/-- The bytes from a field on. -/
theorem HasAt.drop_eq (h : data.HasAt i field) :
    data.drop i = field ++ data.drop (i + field.length) :=
  calc data.drop i = (data.drop i).take field.length ++ (data.drop i).drop field.length :=
        (List.take_append_drop ..).symm
    _ = field ++ data.drop (i + field.length) := by rw [h, List.drop_drop]

/-- A field that is written over itself leaves the bytes as they are. -/
theorem HasAt.overwrite_self (h : data.HasAt i field) : data.overwrite i field = data := by
  rw [overwrite, List.append_assoc, ← h.drop_eq, List.take_append_drop]

theorem HasAt.length_overwrite {new : Bytes} (h : data.HasAt i field)
    (hsame : new.length = field.length) : (data.overwrite i new).length = data.length := by
  have kept := congrArg List.length h.overwrite_self
  simp only [overwrite, List.length_append] at kept ⊢
  rwa [hsame]

/-- A field stands at an index if it agrees with the bytes there. -/
theorem hasAt_iff_getElem? :
    data.HasAt i field ↔ ∀ j < field.length, data[i + j]? = field[j]? := by
  refine ⟨fun h j hj => h.getElem? hj, fun h => List.ext_getElem? fun j => ?_⟩
  rw [List.getElem?_take, List.getElem?_drop]
  split
  · exact h j ‹_›
  · exact (List.getElem?_eq_none (Nat.le_of_not_lt ‹_›)).symm

/-- What is written over a field leaves the other bytes alone. -/
theorem HasAt.getElem?_overwrite {new : Bytes} (h : data.HasAt i field)
    (hsame : new.length = field.length) {j : Nat} (out : j < i ∨ i + field.length ≤ j) :
    (data.overwrite i new)[j]? = data[j]? := by
  have hfront := List.length_take (i := i) (l := data)
  have hroom : field.length = 0 ∨ i + field.length ≤ data.length :=
    h.within.imp_left List.length_eq_zero_iff.mpr
  conv => rhs; rw [← h.overwrite_self]
  simp only [overwrite, List.append_assoc, List.getElem?_append, hsame]
  split
  · rfl
  · rw [if_neg (by omega), if_neg (by omega)]

/-- A field stays where it is when another one is written over. -/
theorem HasAt.overwrite {old new : Bytes} {j : Nat} (h : data.HasAt i field)
    (other : data.HasAt j old) (hsame : new.length = old.length)
    (apart : i + field.length ≤ j ∨ j + old.length ≤ i) : (data.overwrite j new).HasAt i field := by
  rw [hasAt_iff_getElem?] at h ⊢
  intro k hk
  rw [other.getElem?_overwrite hsame (by omega), h k hk]

/-! ## Reads within the bytes -/

theorem exists_byteAt {data : Bytes} (i : Nat) (h : i < data.length) : ∃ b, data.byteAt i = .ok b :=
  ⟨data[i], byteAt_of_getElem? (List.getElem?_eq_getElem h)⟩

/-- A word within the bytes is a field of them. -/
theorem exists_hasAt_octets16 {data : Bytes} (i : Nat) (h : i + 2 ≤ data.length) :
    ∃ w, data.HasAt i (octets16 w) := by
  refine ⟨word16 data[i] data[i + 1], ?_⟩
  rw [octets16_word16, HasAt, List.drop_eq_getElem_cons (by omega),
    List.drop_eq_getElem_cons (by omega)]
  rfl

theorem exists_word16At {data : Bytes} (i : Nat) (h : i + 2 ≤ data.length) :
    ∃ w, data.word16At i = .ok w := by
  obtain ⟨w, field⟩ := exists_hasAt_octets16 i h
  exact ⟨w, field.word16At⟩

end Bytes

end FlowTrace
