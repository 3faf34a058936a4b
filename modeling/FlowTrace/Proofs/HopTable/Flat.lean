import FlowTrace.Proofs.HopTable

/-!
# The hop table in one array

A hop table may keep its records in one array, flow after flow, and split it again for a snapshot.

- **Rows end to end** (`flatten_modify`, `chunks_flatten`): a record of a row is at one place of the
  array, and chunks of the length of a row give the rows back.
- **One array** (`FlatTable`): a cell has a place (`FlatTable.index?`) that an event changes
  (`FlatTable.apply`); a snapshot splits the array (`FlatTable.flowSnapshots`).
- **Main results**: laid out flat, the table without events is the array without events
  (`flat_new`), an event does the same to both (`Fits.flat_apply`), a cell is at its place
  (`Fits.getElem?_flat`), and both show the same (`Fits.flowSnapshots_flat`).
-/

namespace FlowTrace

/-! ## Rows end to end -/

section Rows

variable {α : Type} {n : Nat}

/-- A list in pieces of one length, the last of which may be shorter. -/
def chunks (n : Nat) (l : List α) : List (List α) :=
  if _done : l = [] ∨ n = 0 then [] else l.take n :: chunks n (l.drop n)
termination_by l.length
decreasing_by
  have := List.length_pos_iff.mpr fun h => _done (.inl h)
  have := Nat.pos_of_ne_zero fun h => _done (.inr h)
  rw [List.length_drop]
  omega

theorem chunks_append {row : List α} (hn : row.length = n) (hpos : 0 < n) (rest : List α) :
    chunks n (row ++ rest) = row :: chunks n rest := by
  have more : ¬ (row ++ rest = [] ∨ n = 0) := by
    rintro (h | h)
    · rw [List.append_eq_nil_iff] at h
      rw [h.1] at hn
      exact absurd hn.symm hpos.ne'
    · exact hpos.ne' h
  rw [chunks, dif_neg more, ← hn, List.take_left, List.drop_left]

/-- Pieces of the length of the rows are the rows. -/
theorem chunks_flatten {rows : List (List α)} (hn : ∀ row ∈ rows, row.length = n) (hpos : 0 < n) :
    chunks n rows.flatten = rows := by
  induction rows with
  | nil => rw [List.flatten_nil, chunks, dif_pos (.inl rfl)]
  | cons row rows ih =>
    rw [List.flatten_cons, chunks_append (hn row List.mem_cons_self) hpos,
      ih fun r hr => hn r (List.mem_cons_of_mem _ hr)]

/-- An entry of a row is at one place of all rows end to end. -/
theorem getElem?_flatten {rows : List (List α)} (hn : ∀ row ∈ rows, row.length = n) (i : Nat)
    {j : Nat} (hj : j < n) : rows.flatten[i * n + j]? = rows[i]?.bind (·[j]?) := by
  induction rows generalizing i with
  | nil => rfl
  | cons row rows ih =>
    have hrow := hn row List.mem_cons_self
    cases i with
    | zero =>
      rw [List.flatten_cons, Nat.zero_mul, Nat.zero_add,
        List.getElem?_append_left (by omega)]
      rfl
    | succ i =>
      rw [List.flatten_cons, Nat.succ_mul, List.getElem?_append_right (by omega), hrow,
        show i * n + n + j - n = i * n + j by omega,
        ih (fun r hr => hn r (List.mem_cons_of_mem _ hr))]
      rfl

/-- A change of an entry of a row is one at its place of all rows end to end. -/
theorem flatten_modify {rows : List (List α)} (hn : ∀ row ∈ rows, row.length = n) (i : Nat)
    {j : Nat} (hj : j < n) (f : α → α) :
    (rows.modify i (·.modify j f)).flatten = rows.flatten.modify (i * n + j) f := by
  have hn' (row : List α) (hr : row ∈ rows.modify i (·.modify j f)) : row.length = n := by
    obtain ⟨k, hk⟩ := List.getElem?_of_mem hr
    obtain ⟨old, ho, ⟨-, rfl⟩ | rfl⟩ := getElem?_of_modify hk
    · exact (List.length_modify ..).trans (hn old (List.mem_of_getElem? ho))
    · exact hn row (List.mem_of_getElem? ho)
  refine List.ext_getElem? fun k => ?_
  obtain ⟨i', j', hj', rfl⟩ : ∃ i' j', j' < n ∧ k = i' * n + j' :=
    ⟨k / n, k % n, Nat.mod_lt k (Nat.zero_lt_of_lt hj), (Nat.div_add_mod' k n).symm⟩
  -- A place stands for one row and one entry of it.
  have place : i * n + j = i' * n + j' ↔ i = i' ∧ j = j' := by
    refine ⟨fun h => ?_, fun ⟨hi, hj⟩ => by rw [hi, hj]⟩
    have row (a b : Nat) (hb : b < n) : (a * n + b) / n = a := by
      rw [Nat.mul_comm, Nat.mul_add_div (Nat.zero_lt_of_lt hb), Nat.div_eq_of_lt hb, Nat.add_zero]
    have hsame : i = i' := by rw [← row i j hj, h, row i' j' hj']
    exact ⟨hsame, by rw [hsame] at h; omega⟩
  rw [getElem?_flatten hn' i' hj', List.getElem?_modify, List.getElem?_modify,
    getElem?_flatten hn i' hj']
  by_cases hi : i = i'
  · cases rows[i']? with
    | none => rfl
    | some row => simp [hi, List.getElem?_modify]
  · simp [hi, place]

/-- A change of an entry, seen through a function. -/
theorem map_modify {β : Type} {g : α → α} {k : α → β} {m : β → β} (h : ∀ a, k (g a) = m (k a))
    (l : List α) (i : Nat) : (l.modify i g).map k = (l.map k).modify i m := by
  refine List.ext_getElem? fun j => ?_
  rw [List.getElem?_map, List.getElem?_modify, List.getElem?_modify, List.getElem?_map]
  by_cases hi : i = j
  · cases l[j]? <;> simp [hi, h]
  · simp [hi]

end Rows

/-! ## One array -/

/-- A hop table whose records are in one array. -/
structure FlatTable where
  target : Address
  maxTtl : UInt8
  flows : UInt16
  /-- The records, flow after flow. -/
  hops : List HopRecord
  /-- The least hop limit at which the target answered, for each flow. -/
  targetTtl : List (Option UInt8)
  counters : Counters

namespace FlatTable

/-- The table without events. There is always at least one flow and one hop. -/
def new (c : Config) : FlatTable :=
  let maxTtl := if c.maxTtl = 0 then 1 else c.maxTtl
  let flows := if c.flows = 0 then 1 else c.flows
  { target := c.target
    maxTtl := maxTtl
    flows := flows
    hops := (List.range flows.toNat).flatMap fun _ =>
      (List.range maxTtl.toNat).map fun i => .new (UInt8.ofNat (i + 1))
    targetTtl := List.replicate flows.toNat none
    counters := {} }

/-- The place of a cell, if there is such a cell. -/
def index? (t : FlatTable) (flow : UInt16) (ttl : UInt8) : Option Nat :=
  if t.flows ≤ flow ∨ ttl = 0 ∨ t.maxTtl < ttl then none
  else some (flow.toNat * t.maxTtl.toNat + (ttl.toNat - 1))

/-- The table with one record changed, if there is such a cell. -/
def modify (t : FlatTable) (flow : UInt16) (ttl : UInt8) (f : HopRecord → HopRecord) : FlatTable :=
  match t.index? flow ttl with
  | none => t
  | some i => { t with hops := t.hops.modify i f }

/-- The target answered at a hop limit. -/
def reach (t : FlatTable) (flow : UInt16) (ttl : UInt8) : FlatTable :=
  { t with
    targetTtl := t.targetTtl.modify flow.toNat fun least =>
      some (least.elim ttl fun t => if t ≤ ttl then t else ttl) }

/-- The table after an answer. -/
def answer (t : FlatTable) (a : Answer) : FlatTable :=
  match t.index? a.flow a.ttl with
  | none => t
  | some i =>
    let t := { t with hops := t.hops.modify i (HopState.answerHop a) }
    if a.responder = t.target then t.reach a.flow a.ttl else t

/-- The table after an event. -/
def apply (t : FlatTable) (e : Event) : FlatTable :=
  let t := { t with counters := t.counters.count e }
  match e with
  | .sent flow ttl => t.modify flow ttl HopRecord.recordSent
  | .answered a => t.answer a
  | .timedOut flow ttl _ => t.modify flow ttl HopRecord.recordTimeout
  | .sendFailed .. | .decodeDiscarded | .unmatched => t

/-- What a snapshot says about the flows. -/
def flowSnapshots (t : FlatTable) : List FlowSnapshot :=
  ((chunks t.maxTtl.toNat t.hops).zip t.targetTtl).mapIdx fun flow (hops, targetTtl) =>
    { flow := UInt16.ofNat flow
      targetTtl := targetTtl
      hops := hops.take (min (targetTtl.getD t.maxTtl).toNat hops.length) }

end FlatTable

namespace HopState

/-- The records of the table end to end. -/
def flat (s : HopState) : FlatTable where
  target := s.target
  maxTtl := s.maxTtl
  flows := UInt16.ofNat s.rows.length
  hops := (s.rows.map (·.hops)).flatten
  targetTtl := s.rows.map (·.targetTtl)
  counters := s.counters

/-- Both tables have no events at first. -/
theorem flat_new (c : Config) : (new c).flat = .new c := by
  simp only [flat, new, FlatTable.new, List.map_replicate, List.length_replicate, FlowRow.new,
    UInt16.ofNat_toNat, List.flatMap_def, List.map_const', List.length_range]

variable {s : HopState}

theorem Fits.toNat_flows (h : s.Fits) : s.flat.flows.toNat = s.rows.length := by
  have := h.rows
  rw [flat, UInt16.toNat_ofNat']
  omega

theorem Fits.length_row (h : s.Fits) :
    ∀ row ∈ s.rows.map (·.hops), row.length = s.maxTtl.toNat := by
  intro row hrow
  obtain ⟨r, hr, rfl⟩ := List.mem_map.mp hrow
  exact h.hops r hr

/-- A cell has a place if the table has the cell. -/
theorem Fits.index?_flat (h : s.Fits) (flow : UInt16) (ttl : UInt8) :
    s.flat.index? flow ttl = if s.HasCell flow ttl then
      some (flow.toNat * s.maxTtl.toNat + (ttl.toNat - 1)) else none := by
  have outside : (s.flat.flows ≤ flow ∨ ttl = 0 ∨ s.flat.maxTtl < ttl) ↔ ¬ s.HasCell flow ttl := by
    rw [UInt16.le_iff_toNat_le, h.toNat_flows, ← UInt8.not_le, HasCell]
    show _ ∨ _ ∨ ¬ ttl ≤ s.maxTtl ↔ _
    rw [not_and_or, not_and_or, Nat.not_lt, not_not]
  rw [FlatTable.index?]
  simp only [outside, ite_not]
  rfl

/-- The hop limit of a cell stands for an entry of a row. -/
theorem HasCell.index_lt {flow : UInt16} {ttl : UInt8} (h : s.HasCell flow ttl) :
    ttl.toNat - 1 < s.maxTtl.toNat := by
  have le := UInt8.le_iff_toNat_le.mp h.2.2
  have hpos := one_le_toNat h.2.1
  omega

/-- There are no other records. -/
theorem Fits.cell?_of_not (h : s.Fits) {flow : UInt16} {ttl : UInt8} (none : ¬ s.HasCell flow ttl) :
    s.cell? flow ttl = .none := by
  rw [cell?]
  split
  · rfl
  · rename_i hpos
    cases hrow : s.rows[flow.toNat]? with
    | none => rfl
    | some row =>
      have size := h.hops row (List.mem_of_getElem? hrow)
      have inside := (List.getElem?_eq_some_iff.mp hrow).1
      have beyond : ¬ ttl ≤ s.maxTtl := fun within => none ⟨inside, hpos, within⟩
      rw [UInt8.le_iff_toNat_le] at beyond
      exact List.getElem?_eq_none (by omega)

/-- The record of a cell is at its place. -/
theorem Fits.getElem?_flat (h : s.Fits) {flow : UInt16} {ttl : UInt8} (cell : s.HasCell flow ttl) :
    s.flat.hops[flow.toNat * s.maxTtl.toNat + (ttl.toNat - 1)]? = s.cell? flow ttl := by
  rw [cell?, if_neg cell.2.1]
  show ((s.rows.map (·.hops)).flatten)[_]? = _
  rw [getElem?_flatten h.length_row _ cell.index_lt, List.getElem?_map]
  cases s.rows[flow.toNat]? <;> rfl

/-- Where there is no cell, nothing changes. -/
theorem Fits.modifyCell_of_not (h : s.Fits) {flow : UInt16} {ttl : UInt8}
    (none : ¬ s.HasCell flow ttl) (f : HopRecord → HopRecord) : s.modifyCell flow ttl f = s := by
  have hsame : s.rows.modify flow.toNat (·.modifyHop ttl f) = s.rows := by
    refine List.ext_getElem? fun i => ?_
    rw [List.getElem?_modify]
    cases hrow : s.rows[i]? with
    | none => rfl
    | some row =>
      have inside := (List.getElem?_eq_some_iff.mp hrow).1
      have size := h.hops row (List.mem_of_getElem? hrow)
      by_cases hi : flow.toNat = i
      -- A hop limit without a cell in a row that exists is zero or beyond the end of the row.
      · have beyond : ttl = 0 ∨ row.hops.length ≤ ttl.toNat - 1 := by
          by_contra within
          rw [not_or, Nat.not_le] at within
          refine none ⟨hi ▸ inside, within.1, UInt8.le_iff_toNat_le.mpr ?_⟩
          omega
        have kept : row.modifyHop ttl f = row := by
          unfold FlowRow.modifyHop
          split
          · rfl
          · rename_i pos
            rw [List.modify_eq_self (beyond.resolve_left pos)]
        simp [hi, kept]
      · simp [hi]
  rw [HopState.modifyCell, HopState.modifyRow, hsame]

theorem Fits.flat_modifyCell (h : s.Fits) (flow : UInt16) (ttl : UInt8)
    (f : HopRecord → HopRecord) : (s.modifyCell flow ttl f).flat = s.flat.modify flow ttl f := by
  rw [FlatTable.modify, h.index?_flat]
  by_cases cell : s.HasCell flow ttl
  · have rows := map_modify (k := FlowRow.hops) (g := (·.modifyHop ttl f))
      (m := (·.modify (ttl.toNat - 1) f))
      (fun row => by rw [FlowRow.modifyHop, if_neg cell.2.1]) s.rows flow.toNat
    have targets := map_modify (k := FlowRow.targetTtl) (g := (·.modifyHop ttl f)) (m := id)
      (fun row => by rw [FlowRow.modifyHop, if_neg cell.2.1]; rfl) s.rows flow.toNat
    rw [if_pos cell]
    simp only [flat, HopState.modifyCell, HopState.modifyRow, rows, targets, List.length_modify,
      flatten_modify h.length_row flow.toNat cell.index_lt, List.modify_id]
  · rw [if_neg cell, h.modifyCell_of_not cell]

theorem flat_reach (s : HopState) (flow : UInt16) (ttl : UInt8) :
    (s.modifyRow flow fun row => row.reach ttl).flat = s.flat.reach flow ttl := by
  have rows := map_modify (k := FlowRow.hops) (g := (·.reach ttl)) (m := id) (fun _ => rfl)
    s.rows flow.toNat
  have targets := map_modify (k := FlowRow.targetTtl) (g := (·.reach ttl))
    (m := fun least => some (least.elim ttl fun t => if t ≤ ttl then t else ttl)) (fun _ => rfl)
    s.rows flow.toNat
  simp only [flat, modifyRow, rows, targets, List.length_modify, List.modify_id, FlatTable.reach]

theorem Fits.flat_answer (h : s.Fits) (a : Answer) :
    (if s.HasCell a.flow a.ttl ∧ a.responder = s.target then
      (s.modifyCell a.flow a.ttl (answerHop a)).modifyRow a.flow fun row => row.reach a.ttl
    else s.modifyCell a.flow a.ttl (answerHop a)).flat = s.flat.answer a := by
  have place := h.index?_flat a.flow a.ttl
  by_cases hc : s.HasCell a.flow a.ttl
  · have cell := h.flat_modifyCell a.flow a.ttl (answerHop a)
    rw [if_pos hc] at place
    simp only [FlatTable.modify, place] at cell
    simp only [FlatTable.answer, place, hc, true_and]
    by_cases target : a.responder = s.target
    · rw [if_pos target, flat_reach, cell]
      exact (if_pos target).symm
    · rw [if_neg target, cell]
      exact (if_neg target).symm
  · rw [if_neg hc] at place
    simp only [FlatTable.answer, place]
    rw [if_neg fun both => hc both.1, h.modifyCell_of_not hc]

/-- An event does to the array what it does to the rows. -/
theorem Fits.flat_apply (h : s.Fits) (e : Event) : (s.apply e).flat = s.flat.apply e := by
  have counted : Fits { s with counters := s.counters.count e } := ⟨h.rows, h.hops, h.target⟩
  cases e with
  | sent flow ttl => exact counted.flat_modifyCell flow ttl _
  | answered a => exact counted.flat_answer a
  | timedOut flow ttl round => exact counted.flat_modifyCell flow ttl _
  | _ => rfl

theorem Fits.flat_foldl (h : s.Fits) (es : List Event) :
    (es.foldl HopState.apply s).flat = es.foldl FlatTable.apply s.flat := by
  induction es generalizing s with
  | nil => rfl
  | cons e es ih => rw [List.foldl_cons, List.foldl_cons, ih (h.apply e), h.flat_apply]

/-- Split again, the array shows what the rows show. -/
theorem Fits.flowSnapshots_flat (h : s.Fits) (hpos : 0 < s.maxTtl.toNat) :
    s.flat.flowSnapshots = s.snapshot.flows := by
  have rows : chunks s.maxTtl.toNat (s.rows.map (·.hops)).flatten = s.rows.map (·.hops) :=
    chunks_flatten h.length_row hpos
  simp only [FlatTable.flowSnapshots, flat, rows, snapshot]
  refine List.ext_getElem? fun i => ?_
  simp only [List.getElem?_mapIdx, List.zip_map', List.getElem?_map]
  cases s.rows[i]? with
  | none => rfl
  | some row => simp [flowSnapshot]

end HopState

end FlowTrace
