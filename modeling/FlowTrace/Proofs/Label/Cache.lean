import FlowTrace.Label
import FlowTrace.Proofs.HopRecord
import Mathlib.Data.Finset.Sort

/-!
# What a cache of labels lacks

Addresses are in a linear order: every IPv4 address before every IPv6 address, then by number. A
number tells its octets (`Address.eq_of_value`), so the order is antisymmetric.

* `LabelCache.lookup_store`, `LabelCache.lookup_store_of_not_mem`: the answers of a batch are kept,
  and every other entry stays as it was.
* `LabelCache.batch_eq_take_sort`: a batch is the ten least of the missing addresses, in order.
* `LabelCache.card_absent_store`: with the answers of a batch in, so many fewer are missing.
-/

namespace FlowTrace

/-! ## The order of addresses -/

namespace Address

/-- A number tells the octets that it was made of, if their count is known. -/
theorem eq_of_foldl_octets {xs ys : Bytes} (hsize : xs.length = ys.length) {n m : Nat}
    (h : xs.foldl (fun n b => n * 256 + b.toNat) n = ys.foldl (fun n b => n * 256 + b.toNat) m) :
    n = m ∧ xs = ys := by
  induction xs generalizing ys n m with
  | nil =>
    obtain rfl : ys = [] := List.length_eq_zero_iff.mp hsize.symm
    exact ⟨h, rfl⟩
  | cons x xs ih =>
    obtain ⟨y, ys, rfl⟩ := List.exists_cons_of_length_eq_add_one hsize.symm
    obtain ⟨hfront, rfl⟩ := ih (Nat.succ.inj hsize) h
    have split : n * 256 + x.toNat = m * 256 + y.toNat := hfront
    have hx := x.toNat_lt
    have hy := y.toNat_lt
    have last : x.toNat = y.toNat := by omega
    exact ⟨by omega, by rw [UInt8.toNat_inj.mp last]⟩

theorem eq_of_value {a b : Address} (hfamily : a.family = b.family) (h : a.value = b.value) :
    a = b := by
  have octets (hsize : a.octets.length = b.octets.length) : a.octets = b.octets :=
    (eq_of_foldl_octets hsize h).2
  cases a with
  | v4 o =>
    cases b with
    | v4 p => exact congrArg _ (Vector.toList_inj.mp (octets (by simp)))
    | v6 p => cases hfamily
  | v6 o =>
    cases b with
    | v4 p => cases hfamily
    | v6 p => exact congrArg _ (Vector.toList_inj.mp (octets (by simp)))

theorem le_iff {a b : Address} :
    a.le b ↔ a.family = .ipv4 ∧ b.family = .ipv6 ∨ a.family = b.family ∧ a.value ≤ b.value := by
  cases a <;> cases b <;> simp [le, family]

theorem le_total (a b : Address) : a.le b ∨ b.le a := by
  simp only [le_iff]
  cases a.family <;> cases b.family <;> simp <;> omega

theorem le_trans {a b c : Address} (h : a.le b) (k : b.le c) : a.le c := by
  rw [le_iff] at *
  grind

theorem le_antisymm {a b : Address} (h : a.le b) (k : b.le a) : a = b := by
  rw [le_iff] at h k
  have hfamily : a.family = b.family := by grind
  exact eq_of_value hfamily (by grind)

instance : LinearOrder Address where
  le a b := a.le b
  le_refl a := (le_total a a).elim id id
  le_trans _ _ _ := le_trans
  le_antisymm _ _ := le_antisymm
  le_total := le_total
  toDecidableLE a b := inferInstanceAs (Decidable (a.le b = true))
  toDecidableEq := inferInstance

end Address

namespace LabelCache

variable {c : LabelCache} {a b : Address}

/-! ## Entries -/

theorem contains_iff : c.contains a ↔ ∃ label, c.entries.lookup a = some label := by
  obtain ⟨entries⟩ := c
  simp only [contains]
  induction entries with
  | nil => simp
  | cons entry rest ih =>
    obtain ⟨b, old⟩ := entry
    rw [List.any_cons, List.lookup_cons, Bool.or_eq_true, ih, Bool.beq_comm]
    cases a == b <;> simp

theorem lookup_put (a b : Address) (label : Label) (entries : List (Address × Label)) :
    (put a label entries).lookup b = if b = a then some label else entries.lookup b := by
  induction entries with
  | nil =>
    by_cases h : b = a <;> simp [put, List.lookup_cons, h, beq_false_of_ne]
  | cons entry rest ih =>
    obtain ⟨k, old⟩ := entry
    rw [put]
    by_cases hk : k = a
    · subst hk
      by_cases h : b = k <;> simp [List.lookup_cons, h, beq_false_of_ne]
    · rw [if_neg hk, List.lookup_cons, List.lookup_cons, ih]
      by_cases h : b = a
      · subst h
        have other : (b == k) = false := beq_false_of_ne (Ne.symm hk)
        simp [other]
      · simp [h]

variable {answers : List (Address × Label)} {label : Label}

theorem lookup_store_of_not_mem (h : a ∉ answers.map (·.1)) :
    (c.store answers).entries.lookup a = c.entries.lookup a := by
  induction answers generalizing c with
  | nil => rfl
  | cons answer rest ih =>
    obtain ⟨b, new⟩ := answer
    rw [List.map_cons, List.mem_cons, not_or] at h
    have later : (c.store ((b, new) :: rest)) = (c.insert b new).store rest := rfl
    rw [later, ih h.2, insert, lookup_put, if_neg h.1]

/-- Every answer is kept, if they are about different addresses. -/
theorem lookup_store (hnodup : (answers.map (·.1)).Nodup) (h : (a, label) ∈ answers) :
    (c.store answers).entries.lookup a = some label := by
  induction answers generalizing c with
  | nil => cases h
  | cons answer rest ih =>
    obtain ⟨b, new⟩ := answer
    have later : (c.store ((b, new) :: rest)) = (c.insert b new).store rest := rfl
    rw [List.map_cons, List.nodup_cons] at hnodup
    rw [later]
    rcases List.mem_cons.mp h with first | rest
    · cases first
      rw [lookup_store_of_not_mem hnodup.1, insert, lookup_put, if_pos rfl]
    · exact ih hnodup.2 rest

theorem contains_store (hnodup : (answers.map (·.1)).Nodup) :
    (c.store answers).contains a ↔ a ∈ answers.map (·.1) ∨ c.contains a := by
  by_cases h : a ∈ answers.map (·.1)
  · obtain ⟨⟨b, label⟩, answered, rfl⟩ := List.mem_map.mp h
    exact iff_of_true (contains_iff.mpr ⟨label, lookup_store hnodup answered⟩) (.inl h)
  · rw [contains_iff, contains_iff, lookup_store_of_not_mem h]
    exact (or_iff_right h).symm

/-! ## Missing addresses -/

/-- The addresses without an entry, among some. -/
def absent (c : LabelCache) (addrs : Finset Address) : Finset Address :=
  addrs.filter (c.contains · = false)

theorem mem_absent {addrs : Finset Address} :
    a ∈ c.absent addrs ↔ a ∈ addrs ∧ c.contains a = false := Finset.mem_filter

variable {addrs : List Address}

/-- The missing addresses are listed each once, in order. -/
theorem missing_eq_sort (c : LabelCache) (addrs : List Address) :
    c.missing addrs = (c.absent addrs.toFinset).sort := by
  have total (a b : Address) : (a.le b || b.le a) = true :=
    (Bool.or_eq_true ..).mpr (Address.le_total a b)
  have sorted : (c.missing addrs).Pairwise (· ≤ ·) :=
    @List.pairwise_mergeSort _ Address.le (fun _ _ _ => Address.le_trans) total _
  have perm : (c.missing addrs).Perm (addrs.filter (!c.contains ·)).eraseDups :=
    List.mergeSort_perm ..
  have once : (c.missing addrs).Nodup := perm.nodup_iff.mpr (HopRecord.nodup_eraseDups _)
  have set : (c.missing addrs).toFinset = c.absent addrs.toFinset := by
    ext a
    rw [List.mem_toFinset, perm.mem_iff, List.mem_eraseDups, List.mem_filter, mem_absent,
      List.mem_toFinset, Bool.not_eq_true']
  rw [← set]
  exact ((List.toFinset_sort _ once).mpr sorted).symm

/-- A go looks up the ten least of the missing addresses, or all of them. -/
theorem batch_eq_take_sort (c : LabelCache) (addrs : List Address) :
    c.batch addrs = (c.absent addrs.toFinset).sort.take batchSize := by
  rw [batch, missing_eq_sort]

theorem length_batch (c : LabelCache) (addrs : List Address) :
    (c.batch addrs).length = min batchSize (c.absent addrs.toFinset).card := by
  rw [batch_eq_take_sort, List.length_take, Finset.length_sort]

theorem nodup_batch (c : LabelCache) (addrs : List Address) : (c.batch addrs).Nodup := by
  rw [batch_eq_take_sort]
  exact (Finset.sort_nodup ..).sublist (List.take_sublist ..)

theorem mem_absent_of_mem_batch (h : a ∈ c.batch addrs) : a ∈ c.absent addrs.toFinset := by
  rw [batch_eq_take_sort] at h
  exact (Finset.mem_sort _).mp (List.mem_of_mem_take h)

/-! ## The answers of a batch -/

section

variable (hasked : answers.map (·.1) = c.batch addrs)

include hasked

/-- No entry is overwritten, because a batch holds missing addresses only. -/
theorem lookup_store_batch (h : c.entries.lookup a = some label) :
    (c.store answers).entries.lookup a = some label := by
  rw [lookup_store_of_not_mem, h]
  rw [hasked]
  intro missing
  have lacks := (mem_absent.mp (mem_absent_of_mem_batch missing)).2
  rw [contains_iff.mpr ⟨label, h⟩] at lacks
  cases lacks

theorem absent_store :
    (c.store answers).absent addrs.toFinset =
      c.absent addrs.toFinset \ (c.batch addrs).toFinset := by
  have hnodup : (answers.map (·.1)).Nodup := hasked ▸ nodup_batch c addrs
  ext a
  rw [Finset.mem_sdiff, mem_absent, mem_absent, ← Bool.not_eq_true, ← Bool.not_eq_true,
    contains_store hnodup, hasked, List.mem_toFinset, List.mem_toFinset]
  tauto

/-- With the answers of a batch in, ten fewer are missing, or none is. -/
theorem card_absent_store :
    ((c.store answers).absent addrs.toFinset).card =
      (c.absent addrs.toFinset).card - batchSize := by
  have part : (c.batch addrs).toFinset ⊆ c.absent addrs.toFinset :=
    fun _ h => mem_absent_of_mem_batch (List.mem_toFinset.mp h)
  rw [absent_store hasked, Finset.card_sdiff_of_subset part,
    List.toFinset_card_of_nodup (nodup_batch c addrs), length_batch]
  omega

end

end LabelCache

end FlowTrace
