import FlowTrace.Proofs.Checksum
import Mathlib.Algebra.GroupWithZero.Nat

/-!
# Checksums of messages that are changed

- **Steering** (`steers_iff`): a spare word brings the checksum of a message, on top of the sum of a
  pseudo-header, to any value but all ones.
- **Updates** (`updateWords`): a middlebox that rewrites words of a message may update the checksum
  word by word instead of computing it anew. This adjusts it in one way only, so it comes to the
  same as an update at once (`updateWords_eq_undoPatch`).
- **Rewrites** (`Rewrites`): rewrites of a message one after the other, each with either kind of
  checksum. What one of them does to the checksum adds up over a run (`Rewrites.traces`), and so
  does what undoing them does (`undoAll_mod`).
- **Main result** (`undoes_rewrites`): a message that is not blank gets its checksum back exactly
  when its rewrites are undone, in any order.
-/

namespace FlowTrace.Checksum

variable {data : Bytes} {sum : UInt32}

/-- Short messages leave room in 32 bits for their words, the sum of a pseudo-header and one more
word. -/
theorem room_of_short (hshort : data.length ≤ 65535) (hsmall : sum.toNat < 2097152) :
    sum.toNat + total data + 65535 < 4294967296 := by
  have bound := total_le data
  omega

/-! ## Steering -/

/-- A spare word of a message makes its checksum come out as wished, unless all ones are wished. -/
theorem steers_iff {i : Nat} (hshort : data.length ≤ 65535) (haligned : i % 2 = 0)
    (hspare : data.HasAt i (octets16 0)) (hsmall : sum.toNat < 2097152) (wished : UInt16) :
    checksumWith (data.overwrite i (octets16 (compensate (checksumWith data sum) wished))) sum =
      wished ↔ wished ≠ 0xFFFF := by
  have hinside := hspare.within.resolve_left nofun
  have hfront : (data.take i).length % 2 = 0 := by
    rw [List.length_take]
    omega
  have hwhole : data.take i ++ octets16 0 ++ data.drop (i + 2) = data := hspare.overwrite_self
  have hroom := room_of_short hshort hsmall
  rw [← hwhole] at hroom
  have steered := checksumWith_compensate_iff hfront hroom wished
  rwa [hwhole] at steered

/-- An odd number of bytes without any bit, behind a pseudo-header, is given the checksum zero. -/
theorem steers_blankDatagram :
    ([0, 0, 0, 0, 0] : Bytes).length ≤ 65535 ∧ 2 % 2 = 0 ∧
      Bytes.HasAt [0, 0, 0, 0, 0] 2 (octets16 0) ∧
      (pseudoHeaderSum (.ofOctets4 10 0 0 1) (.ofOctets4 10 0 0 2) 17 5).toNat < 2097152 ∧
      compensate (checksumWith [0, 0, 0, 0, 0]
        (pseudoHeaderSum (.ofOctets4 10 0 0 1) (.ofOctets4 10 0 0 2) 17 5)) 0 = 0xEBE6 ∧
      checksumWith [0, 0, 0xEB, 0xE6, 0]
        (pseudoHeaderSum (.ofOctets4 10 0 0 1) (.ofOctets4 10 0 0 2) 17 5) = 0 :=
  ⟨by decide, rfl, rfl, pseudoHeaderSum_lt .., by decide,
    (@steers_iff [0, 0, 0, 0, 0] _ 2 (by decide) rfl rfl (pseudoHeaderSum_lt ..) 0).mpr
      (by decide)⟩

/-! ## Updates -/

/-- A checksum after one covered word has changed, by RFC 1624: the old word is taken out of the
complement of the checksum and the new one put into it. -/
def updateWord (sum old new : UInt16) : UInt16 := ~~~ onesAdd (onesAdd (~~~ sum) (~~~ old)) new

/-- A checksum after a run of covered words has changed, word by word. -/
def updateWords : UInt16 → Bytes → Bytes → UInt16
  | sum, hi :: lo :: old, hi' :: lo' :: new =>
    updateWords (updateWord sum (word16 hi lo) (word16 hi' lo')) old new
  | sum, _, _ => sum

theorem Adjusts.nil (c : UInt16) : Adjusts [] [] c c := ⟨rfl, by simp⟩

/-- Adjusting to two changes, one after the other. -/
theorem Adjusts.append {old old' new new' : Bytes} {a b c : UInt16} (h : Adjusts old new a b)
    (h' : Adjusts old' new' b c) (heven : old.length % 2 = 0) (heven' : old'.length % 2 = 0)
    (hsame : new.length = old.length) : Adjusts (old ++ old') (new ++ new') a c := by
  have old_le := total_le old
  have old_le' := total_le old'
  obtain ⟨moved, ones⟩ := h
  obtain ⟨moved', ones'⟩ := h'
  constructor
  · rw [total_append heven, total_append (hsame ▸ heven)]
    omega
  · rw [ones', ones, total_append heven, total_append (hsame ▸ heven), List.length_append]
    omega

/-- Two end-around sums lose nothing modulo 65535, and give nothing only for nothing. -/
theorem adjusts_updateWord (c old new : UInt16) :
    Adjusts (octets16 old) (octets16 new) c (updateWord c old new) := by
  have hc := c.toNat_lt
  have hold := old.toNat_lt
  have off := onesAdd_mod (~~~ c) (~~~ old)
  have off_zero := onesAdd_eq_zero_iff (~~~ c) (~~~ old)
  rw [toNat_complement, toNat_complement] at off off_zero
  have on := onesAdd_mod (onesAdd (~~~ c) (~~~ old)) new
  have on_zero := onesAdd_eq_zero_iff (onesAdd (~~~ c) (~~~ old)) new
  have on_lt := (onesAdd (onesAdd (~~~ c) (~~~ old)) new).toNat_lt
  constructor
  · rw [updateWord, toNat_complement, total_octets16, total_octets16]
    omega
  · rw [updateWord, toNat_complement, total_octets16, total_octets16, length_octets16]
    omega

theorem adjusts_updateWords (c : UInt16) {old new : Bytes} (heven : old.length % 2 = 0)
    (hsame : new.length = old.length) : Adjusts old new c (updateWords c old new) := by
  fun_induction updateWords c old new with
  | case1 c hi lo old hi' lo' new ih =>
    simp only [List.length_cons] at heven hsame
    have first := adjusts_updateWord c (word16 hi lo) (word16 hi' lo')
    rw [octets16_word16, octets16_word16] at first
    exact first.append (ih (by omega) (by omega)) (by simp) (by omega) rfl
  | case2 old c new hshort =>
    cases old with
    | nil =>
      obtain rfl := List.length_eq_zero_iff.mp hsame
      exact Adjusts.nil c
    | cons hi old =>
      cases old with
      | nil => simp at heven
      | cons lo old =>
        match new with
        | [] | [_] => simp at hsame
        | hi' :: lo' :: new => exact (hshort hi lo old hi' lo' new rfl rfl).elim

/-- An update word by word comes to the same as one at once, which is undoing the change that leads
back. -/
theorem updateWords_eq_undoPatch (c : UInt16) {old new : Bytes} (heven : old.length % 2 = 0)
    (hsame : new.length = old.length) (hshort : old.length ≤ 65535) :
    updateWords c old new = undoPatch c new old :=
  (adjusts_updateWords c heven hsame).eq (adjusts_undoPatch c heven (by omega))

/-! ## Rewrites -/

/-- A run of bytes of a message, and what is written over it. -/
structure Rewrite where
  index : Nat
  old : Bytes
  new : Bytes
  deriving DecidableEq, Repr

namespace Rewrite

variable {r s : Rewrite}

/-- The message after the rewrite. -/
def apply (r : Rewrite) (data : Bytes) : Bytes := data.overwrite r.index r.new

/-- The checksum updated word by word. -/
def update (r : Rewrite) (c : UInt16) : UInt16 := updateWords c r.old r.new

/-- The checksum from before the rewrite. -/
def undo (r : Rewrite) (seen : UInt16) : UInt16 := undoPatch seen r.old r.new

/-- The run stands at an even index of the message, and as many whole words replace it. -/
structure Fits (r : Rewrite) (data : Bytes) : Prop where
  aligned : r.index % 2 = 0
  whole : r.old.length % 2 = 0
  same : r.new.length = r.old.length
  stands : data.HasAt r.index r.old

/-- No byte is in both runs. -/
def Disjoint (r s : Rewrite) : Prop :=
  r.index + r.old.length ≤ s.index ∨ s.index + s.old.length ≤ r.index

theorem Fits.length_old (h : r.Fits data) : r.old.length ≤ data.length := by
  rcases h.stands.within with empty | hinside
  · rw [empty]
    exact Nat.zero_le _
  · omega

theorem Fits.length_apply (h : r.Fits data) : (r.apply data).length = data.length :=
  h.stands.length_overwrite h.same

theorem Fits.total_apply (h : r.Fits data) :
    total (r.apply data) + total r.old = total data + total r.new :=
  total_overwrite h.aligned h.whole h.same h.stands

/-- A rewrite still fits after a disjoint one. -/
theorem Fits.apply (hs : s.Fits data) (hr : r.Fits data) (hdisj : r.Disjoint s) :
    s.Fits (r.apply data) :=
  { hs with stands := hs.stands.overwrite hr.stands hr.same hdisj.symm }

theorem Fits.adjusts_update (h : r.Fits data) (c : UInt16) : Adjusts r.old r.new c (r.update c) :=
  adjusts_updateWords c h.whole h.same

theorem Fits.adjusts_undo (h : r.Fits data) (hshort : data.length ≤ 65535) (seen : UInt16) :
    Adjusts r.new r.old seen (r.undo seen) := by
  have length := h.length_old
  have hsame := h.same
  exact adjusts_undoPatch seen (hsame ▸ h.whole) (by omega)

end Rewrite

/-! ## Runs of rewrites -/

/-- Some rewrites of a message that is sent with its checksum, and what is received. Each of them
fits what the ones before have left. -/
inductive Rewrites (sum : UInt32) (data : Bytes) : List Rewrite → Bytes → UInt16 → Prop
  | sent : Rewrites sum data [] data (checksumWith data sum)
  /-- The checksum is computed anew. -/
  | recomputed {rs : List Rewrite} {received : Bytes} {seen : UInt16} {r : Rewrite}
    (before : Rewrites sum data rs received seen) (fits : r.Fits received) :
    Rewrites sum data (rs ++ [r]) (r.apply received) (checksumWith (r.apply received) sum)
  /-- The checksum is updated. -/
  | updated {rs : List Rewrite} {received : Bytes} {seen : UInt16} {r : Rewrite}
    (before : Rewrites sum data rs received seen) (fits : r.Fits received) :
    Rewrites sum data (rs ++ [r]) (r.apply received) (r.update seen)

/-- The checksum from before some rewrites, which are undone one after the other. -/
def undoAll (us : List Rewrite) (seen : UInt16) : UInt16 := us.foldl (fun c r => r.undo c) seen

/-- The total of what some rewrites have taken out of a message. -/
def removed (rs : List Rewrite) : Nat := (rs.map (total ·.old)).sum

/-- The total of what some rewrites have put into a message. -/
def added (rs : List Rewrite) : Nat := (rs.map (total ·.new)).sum

/-- What rewrites leave of the message and the checksum that were sent. -/
structure Traces (sum : UInt32) (data : Bytes) (rs : List Rewrite) (received : Bytes)
    (seen : UInt16) : Prop where
  fits : ∀ r ∈ rs, ∃ d : Bytes, d.length = data.length ∧ r.Fits d
  length : received.length = data.length
  total : total received + removed rs = total data + added rs
  valid : (seen.toNat + (sum.toNat + Checksum.total received)) % 65535 = 0
  /-- If all ones are seen and no rewrite has taken a bit out, there was none. -/
  ones : seen.toNat = 65535 → removed rs = 0 → sum.toNat + Checksum.total data = 0

theorem removed_append (rs : List Rewrite) (r : Rewrite) :
    removed (rs ++ [r]) = removed rs + total r.old := by
  simp [removed]

theorem added_append (rs : List Rewrite) (r : Rewrite) :
    added (rs ++ [r]) = added rs + total r.new := by
  simp [added]

section Runs

variable {rs us : List Rewrite} {received : Bytes} {seen : UInt16}

/-- One more rewrite, whichever way the checksum follows it. -/
theorem Traces.step {r : Rewrite} (h : Traces sum data rs received seen) (fits : r.Fits received)
    {seen' : UInt16}
    (hvalid : (seen'.toNat + (sum.toNat + Checksum.total (r.apply received))) % 65535 = 0)
    (hones : seen'.toNat = 65535 → removed (rs ++ [r]) = 0 → sum.toNat + Checksum.total data = 0) :
    Traces sum data (rs ++ [r]) (r.apply received) seen' where
  fits x hx := by
    rcases List.mem_append.mp hx with old | new
    · exact h.fits x old
    · obtain rfl := List.mem_singleton.mp new
      exact ⟨received, h.length, fits⟩
  length := fits.length_apply.trans h.length
  total := by
    have one := fits.total_apply
    have before := h.total
    rw [removed_append, added_append]
    omega
  valid := hvalid
  ones := hones

/-- What every run of rewrites leaves, by induction on the run. -/
theorem Rewrites.traces (h : Rewrites sum data rs received seen) (hshort : data.length ≤ 65535)
    (hsmall : sum.toNat < 2097152) : Traces sum data rs received seen := by
  have hroom {d : Bytes} (length : d.length = data.length) : sum.toNat + total d < 4294967296 :=
    Nat.lt_of_add_right_lt (room_of_short (length ▸ hshort) hsmall)
  -- A checksum that is computed anew is right for the bytes as they are; one that is updated moves
  -- along with them.
  induction h with
  | sent =>
    obtain ⟨hvalid, ones⟩ := (checksumWith_eq_iff (hroom rfl)).mp (rfl : checksumWith data sum = _)
    exact ⟨nofun, rfl, rfl, hvalid, fun all _ => ones.mp all⟩
  | @recomputed rs received seen r _ fits ih =>
    obtain ⟨hvalid, ones⟩ := (checksumWith_eq_iff (hroom (fits.length_apply.trans ih.length))).mp
      (rfl : checksumWith (r.apply received) sum = _)
    refine ih.step fits hvalid fun all none => ?_
    have blank := ones.mp all
    have one := fits.total_apply
    have before := ih.total
    rw [removed_append] at none
    omega
  | @updated rs received seen r _ fits ih =>
    obtain ⟨moved, ones⟩ := fits.adjusts_update seen
    have hvalid := ih.valid
    have one := fits.total_apply
    refine ih.step fits (by omega) fun all none => ?_
    rw [removed_append] at none
    exact ih.ones (ones.mp all).1 (by omega)

/-- Undoing rewrites puts back what they have taken out. All ones come out only if there were all
ones, and nothing is put back. -/
theorem undoAll_mod (fits : ∀ r ∈ us, ∃ d : Bytes, d.length = data.length ∧ r.Fits d)
    (hshort : data.length ≤ 65535) (seen : UInt16) :
    ((undoAll us seen).toNat + removed us) % 65535 = (seen.toNat + added us) % 65535 ∧
      ((undoAll us seen).toNat = 65535 → seen.toNat = 65535 ∧ removed us = 0) := by
  induction us generalizing seen with
  | nil => exact ⟨rfl, fun all => ⟨all, rfl⟩⟩
  | cons r us ih =>
    obtain ⟨d, length, one⟩ := fits r List.mem_cons_self
    obtain ⟨moved, ones⟩ := one.adjusts_undo (length ▸ hshort) seen
    obtain ⟨rest, rest_ones⟩ := ih (fun x hx => fits x (List.mem_cons_of_mem r hx)) (r.undo seen)
    have undone : undoAll (r :: us) seen = undoAll us (r.undo seen) := rfl
    have out : removed (r :: us) = total r.old + removed us := rfl
    have in_ : added (r :: us) = total r.new + added us := rfl
    rw [undone, out, in_]
    refine ⟨by omega, fun all => ?_⟩
    obtain ⟨here, later⟩ := rest_ones all
    have first := ones.mp here
    exact ⟨first.1, by omega⟩

/-- Rewrites that are undone in any order leave the checksum that was sent. -/
theorem Rewrites.undoAll_eq (h : Rewrites sum data rs received seen)
    (hshort : data.length ≤ 65535) (hsmall : sum.toNat < 2097152)
    (hpos : 0 < sum.toNat + total data) (hperm : us.Perm rs) :
    undoAll us seen = checksumWith data sum := by
  have t := h.traces hshort hsmall
  obtain ⟨moved, ones⟩ := undoAll_mod (fun r hr => t.fits r (hperm.mem_iff.mp hr)) hshort seen
  have out : removed us = removed rs := (hperm.map _).sum_nat
  have in_ : added us = added rs := (hperm.map _).sum_nat
  have hroom := room_of_short hshort hsmall
  have total := t.total
  have hvalid := t.valid
  have blank := t.ones
  rw [out] at moved ones
  rw [in_] at moved
  refine ((checksumWith_eq_iff (by omega)).mpr
    ⟨by omega, fun all => ?_, fun noBits => by omega⟩).symm
  exact blank (ones all).1 (ones all).2

end Runs

/-! ## Undoing -/

/-- Undoing rewrites of a message gives back the checksum that it was sent with. -/
structure GivesBack (sum : UInt32) (data : Bytes) : Prop where
  /-- The message is rewritten and its checksum computed anew. -/
  recomputed : ∀ r : Rewrite, r.Fits data →
    r.undo (checksumWith (r.apply data) sum) = checksumWith data sum
  /-- The checksum is updated, word by word or at once. -/
  updated : ∀ r : Rewrite, r.Fits data →
    r.undo (r.update (checksumWith data sum)) = checksumWith data sum ∧
      r.update (checksumWith data sum) = undoPatch (checksumWith data sum) r.new r.old
  /-- Two disjoint rewrites are undone in either order. -/
  disjoint : ∀ r s : Rewrite, r.Fits data → s.Fits data → r.Disjoint s → ∀ seen : UInt16,
    (seen = checksumWith (s.apply (r.apply data)) sum ∨
      seen = s.update (r.update (checksumWith data sum))) →
    r.undo (s.undo seen) = checksumWith data sum ∧ s.undo (r.undo seen) = checksumWith data sum
  /-- So are any number of rewrites, disjoint or one on top of the other, whichever way the checksum
  follows each of them. -/
  inAnyOrder : ∀ (rs us : List Rewrite) (received : Bytes) (seen : UInt16),
    Rewrites sum data rs received seen → us.Perm rs →
    undoAll us seen = checksumWith data sum

/-- A message that is not blank, on top of the sum of a pseudo-header, gets its checksum back
exactly when its rewrites are undone. -/
theorem undoes_rewrites (hshort : data.length ≤ 65535) (hsmall : sum.toNat < 2097152)
    (hblank : sum ≠ 0 ∨ ∃ b ∈ data, b ≠ 0) : GivesBack sum data := by
  have hpos : 0 < sum.toNat + total data := by
    rw [Nat.pos_iff_ne_zero, ne_eq, Nat.add_eq_zero_iff, total_eq_zero_iff]
    rintro ⟨noSum, noBits⟩
    rcases hblank with hsum | ⟨b, member, bits⟩
    · exact hsum (UInt32.toNat_inj.mp noSum)
    · exact bits (noBits b member)
  have undone {rs : List Rewrite} {received : Bytes} {seen : UInt16}
      (h : Rewrites sum data rs received seen) {us : List Rewrite} (order : us.Perm rs) :
      undoAll us seen = checksumWith data sum :=
    h.undoAll_eq hshort hsmall hpos order
  refine ⟨fun r fits => undone (.recomputed .sent fits) (.refl [r]),
    fun r fits => ⟨undone (.updated .sent fits) (.refl [r]), ?_⟩,
    fun r s hr hs apart seen shown => ?_, fun _ _ _ _ h order => undone h order⟩
  · exact updateWords_eq_undoPatch _ fits.whole fits.same (Nat.le_trans fits.length_old hshort)
  · have both : Rewrites sum data [r, s] (s.apply (r.apply data)) seen := by
      rcases shown with rfl | rfl
      · exact .recomputed (.recomputed .sent hr) (hs.apply hr apart)
      · exact .updated (.updated .sent hr) (hs.apply hr apart)
    exact ⟨undone both (.swap r s []), undone both (.refl [r, s])⟩

/-- A message of an odd number of bytes loses all its bits to two rewrites. All ones are seen then,
and undone nevertheless. -/
theorem undoes_rewrites_blanked :
    ([0x12, 0x34, 0xFF, 0xFF, 0] : Bytes).length ≤ 65535 ∧ (0 : UInt32).toNat < 2097152 ∧
      (∃ b ∈ ([0x12, 0x34, 0xFF, 0xFF, 0] : Bytes), b ≠ 0) ∧
      checksum [0, 0, 0, 0, 0] = 0xFFFF ∧ checksum [0x12, 0x34, 0xFF, 0xFF, 0] = 0xEDCB ∧
      undoPatch (undoPatch 0xFFFF [0xFF, 0xFF] [0, 0]) [0x12, 0x34] [0, 0] = 0xEDCB ∧
      undoPatch (undoPatch 0xFFFF [0x12, 0x34] [0, 0]) [0xFF, 0xFF] [0, 0] = 0xEDCB := by
  have gives := @undoes_rewrites [0x12, 0x34, 0xFF, 0xFF, 0] 0 (by decide) (by decide)
    (.inr ⟨0x12, by decide, by decide⟩)
  obtain ⟨first, second⟩ := gives.disjoint ⟨0, [0x12, 0x34], [0, 0]⟩ ⟨2, [0xFF, 0xFF], [0, 0]⟩
    ⟨rfl, rfl, rfl, rfl⟩ ⟨rfl, rfl, rfl, rfl⟩ (.inl (by decide)) 0xFFFF (.inl rfl)
  exact ⟨by decide, by decide, ⟨0x12, by decide, by decide⟩, rfl, rfl, first, second⟩

/-- Of a blank message the rewrite is undone to the other zero. -/
example : checksum [0, 0] = 0xFFFF ∧ undoPatch (checksum [0xFF, 0xFF]) [0, 0] [0xFF, 0xFF] = 0 := by
  decide

end FlowTrace.Checksum
