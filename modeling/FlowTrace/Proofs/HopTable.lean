import FlowTrace.Hop.Table
import FlowTrace.Proofs.Outstanding

/-!
# What events do to the hop table

- **Counts of events** (`countOf`, `eventsAt`): how many events of a kind a batch has, in all and
  about a cell.
- **Cells** (`cell?_apply`): an event changes the record that it is about (`Event.touch`) and no
  other. A batch changes it one event after the other (`cell?_foldl_apply`).
- **Counts** (`cell?_foldl`, `counters_of_foldl`): after a batch a record has as many more sends and
  resolutions as the batch has for its cell, and the counters as many as it has in all.
- **Other operations** (`HopTable.Applies`): they change neither records nor counters.
- **Snapshots** (`cell?_of_snapshot`): every hop that a snapshot shows is the record of a cell.
-/

namespace FlowTrace

/-- The place of a probe in the hop table. -/
def ProbeKey.cell (k : ProbeKey) : UInt16 × UInt8 := (k.flow, k.ttl)

/-- The cell whose send an event counts. -/
def Event.sentCell? : Event → Option (UInt16 × UInt8)
  | .sent flow ttl => some (flow, ttl)
  | _ => none

/-- The cell whose failed send an event counts. -/
def Event.failedCell? : Event → Option (UInt16 × UInt8)
  | .sendFailed flow ttl => some (flow, ttl)
  | _ => none

/-- The event is the outcome of a send. -/
def Event.IsSend : Event → Prop
  | .sent .. | .sendFailed .. => True
  | _ => False

/-- What an event makes of the record of a cell. -/
def Event.touch (e : Event) (flow : UInt16) (ttl : UInt8) (h : HopRecord) : HopRecord :=
  match e with
  | .sent f t => if f = flow ∧ t = ttl then h.recordSent else h
  | .answered a => if a.flow = flow ∧ a.ttl = ttl then HopState.answerHop a h else h
  | .timedOut f t _ => if f = flow ∧ t = ttl then h.recordTimeout else h
  | _ => h

/-- The cells whose sends a batch counts. -/
def sentCells (es : List Event) : List (UInt16 × UInt8) := es.filterMap Event.sentCell?

/-- The cells whose failed sends a batch counts. -/
def failedCells (es : List Event) : List (UInt16 × UInt8) := es.filterMap Event.failedCell?

/-- The probes that a batch resolves. -/
def resolvedKeys (es : List Event) : List ProbeKey := es.filterMap Event.resolved?

/-- A batch without outcomes of sends counts none. -/
theorem cells_of_no_send {es : List Event} (h : ∀ e ∈ es, ¬ e.IsSend) :
    sentCells es = [] ∧ failedCells es = [] := by
  refine ⟨List.filterMap_eq_nil_iff.mpr fun e he => ?_,
    List.filterMap_eq_nil_iff.mpr fun e he => ?_⟩
  all_goals
    have quiet := h e he
    cases e <;> first | rfl | exact (quiet trivial).elim

theorem resolvedKeys_cons (e : Event) (es : List Event) :
    resolvedKeys (e :: es) = resolvedKeys [e] ++ resolvedKeys es := List.filterMap_append (l := [e])

/-- The probes of a hop that are answered or timed out. -/
def HopRecord.resolved (h : HopRecord) : Nat := h.received + h.timeouts

/-! ## Counts of events -/

/-- What an event is about. -/
inductive EventKind where
  | sent
  | sendFailed
  | answered
  | timedOut
  | decodeDiscarded
  | unmatched
  deriving DecidableEq, Repr

def Event.kind : Event → EventKind
  | .sent .. => .sent
  | .sendFailed .. => .sendFailed
  | .answered _ => .answered
  | .timedOut .. => .timedOut
  | .decodeDiscarded => .decodeDiscarded
  | .unmatched => .unmatched

/-- The counter of a kind of events. -/
def Counters.of (c : Counters) : EventKind → Nat
  | .sent => c.sent
  | .sendFailed => c.sendFailures
  | .answered => c.answered
  | .timedOut => c.timedOut
  | .decodeDiscarded => c.decodeDiscarded
  | .unmatched => c.unmatched

/-- The cell whose record an event changes. -/
def Event.cell? : Event → Option (UInt16 × UInt8)
  | .sent flow ttl | .timedOut flow ttl _ => some (flow, ttl)
  | .answered a => some (a.flow, a.ttl)
  | _ => none

/-- What an event makes of the record that it changes. -/
def Event.record : Event → HopRecord → HopRecord
  | .sent .., h => h.recordSent
  | .answered a, h => HopState.answerHop a h
  | .timedOut .., h => h.recordTimeout
  | _, h => h

/-- The events that change the record of a cell. -/
def eventsAt (flow : UInt16) (ttl : UInt8) (es : List Event) : List Event :=
  es.filter (·.cell? = some (flow, ttl))

/-- The number of events of a kind. -/
def countOf (k : EventKind) (es : List Event) : Nat := es.countP (·.kind = k)

theorem countOf_cons (k : EventKind) (e : Event) (es : List Event) :
    countOf k (e :: es) = (if e.kind = k then 1 else 0) + countOf k es := by
  rw [countOf, List.countP_cons, Nat.add_comm, countOf]
  simp only [decide_eq_true_eq]

/-- An event is counted by the counter of its kind. -/
theorem Counters.of_count (c : Counters) (e : Event) (k : EventKind) :
    (c.count e).of k = c.of k + if e.kind = k then 1 else 0 := by
  cases e <;> cases k <;> rfl

theorem Event.touch_eq (e : Event) (flow : UInt16) (ttl : UInt8) (h : HopRecord) :
    e.touch flow ttl h = if e.cell? = some (flow, ttl) then e.record h else h := by
  cases e <;> simp [touch, cell?, record]

section Cells

variable (es : List Event)

theorem length_sentCells : (sentCells es).length = countOf .sent es := by
  rw [sentCells, List.length_filterMap_eq_countP, countOf]
  refine List.countP_congr fun e _ => ?_
  cases e <;> simp [Event.sentCell?, Event.kind]

theorem length_failedCells : (failedCells es).length = countOf .sendFailed es := by
  rw [failedCells, List.length_filterMap_eq_countP, countOf]
  refine List.countP_congr fun e _ => ?_
  cases e <;> simp [Event.failedCell?, Event.kind]

theorem length_resolvedKeys :
    (resolvedKeys es).length = countOf .answered es + countOf .timedOut es := by
  induction es with
  | nil => rfl
  | cons e es ih =>
    rw [resolvedKeys_cons, List.length_append, ih, countOf_cons, countOf_cons]
    cases e <;> simp [resolvedKeys, Event.resolved?, Event.kind] <;> omega

variable (flow : UInt16) (ttl : UInt8)

theorem count_sentCells :
    (sentCells es).count (flow, ttl) = countOf .sent (eventsAt flow ttl es) := by
  rw [List.count, sentCells, List.countP_filterMap, countOf, eventsAt, List.countP_filter]
  refine List.countP_congr fun e _ => ?_
  cases e <;> simp [Event.sentCell?, Event.kind, Event.cell?]

theorem count_resolvedKeys : ((resolvedKeys es).map ProbeKey.cell).count (flow, ttl) =
    countOf .answered (eventsAt flow ttl es) + countOf .timedOut (eventsAt flow ttl es) := by
  have at_ : (resolvedKeys (eventsAt flow ttl es)).length =
      ((resolvedKeys es).map ProbeKey.cell).count (flow, ttl) := by
    rw [List.count, List.countP_map, resolvedKeys, resolvedKeys, List.countP_filterMap,
      List.length_filterMap_eq_countP, eventsAt, List.countP_filter]
    refine List.countP_congr fun e _ => ?_
    cases e <;> simp [Event.resolved?, Event.cell?, ProbeKey.cell]
  rw [← at_, length_resolvedKeys]

end Cells

/-! ## Records -/

/-- Evidence of a NAT changes no count. -/
theorem HopRecord.markNat_counts (h : HopRecord) (change : FieldChange) :
    (h.markNat change).sent = h.sent ∧ (h.markNat change).received = h.received ∧
      (h.markNat change).timeouts = h.timeouts := by
  unfold markNat
  split <;> exact ⟨rfl, rfl, rfl⟩

/-- An answer is counted once, whatever else it says. -/
theorem HopState.answerHop_counts (a : Answer) (h : HopRecord) :
    (answerHop a h).sent = h.sent ∧ (answerHop a h).received = h.received + 1 ∧
      (answerHop a h).timeouts = h.timeouts := by
  have nat := HopRecord.markNat_counts (h.recordAnswer a.responder a.rtt a.kind a.round)
  unfold answerHop
  cases a.nat <;> cases a.mpls
  · exact ⟨rfl, rfl, rfl⟩
  · exact ⟨rfl, rfl, rfl⟩
  · exact nat _
  · exact nat _

/-- What one event adds to the record that it changes. -/
structure HopRecord.Adds (e : Event) (h h' : HopRecord) : Prop where
  ttl : h'.ttl = h.ttl
  sent : h'.sent = h.sent + if e.kind = .sent then 1 else 0
  received : h'.received = h.received + if e.kind = .answered then 1 else 0
  timeouts : h'.timeouts = h.timeouts + if e.kind = .timedOut then 1 else 0

theorem HopState.ttl_answerHop (a : Answer) (h : HopRecord) : (answerHop a h).ttl = h.ttl := by
  have nat (h : HopRecord) (change : FieldChange) : (h.markNat change).ttl = h.ttl := by
    unfold HopRecord.markNat
    split <;> rfl
  unfold answerHop
  cases a.nat <;> cases a.mpls
  · rfl
  · rfl
  · exact nat ..
  · exact nat ..

theorem Event.adds_record (e : Event) (h : HopRecord) : HopRecord.Adds e h (e.record h) := by
  cases e with
  | answered a =>
    obtain ⟨sent, received, timeouts⟩ := HopState.answerHop_counts a h
    exact ⟨HopState.ttl_answerHop a h, sent, received, timeouts⟩
  | _ => exact ⟨rfl, rfl, rfl, rfl⟩

/-- Events are counted one by one. -/
theorem HopRecord.counts_foldl (h : HopRecord) (es : List Event) :
    (es.foldl (fun h e => e.record h) h).ttl = h.ttl ∧
    (es.foldl (fun h e => e.record h) h).sent = h.sent + countOf .sent es ∧
    (es.foldl (fun h e => e.record h) h).received = h.received + countOf .answered es ∧
    (es.foldl (fun h e => e.record h) h).timeouts = h.timeouts + countOf .timedOut es := by
  induction es generalizing h with
  | nil => exact ⟨rfl, rfl, rfl, rfl⟩
  | cons e es ih =>
    obtain ⟨ttl, sent, received, timeouts⟩ := ih (e.record h)
    have one := e.adds_record h
    simp only [List.foldl_cons, countOf_cons, ttl, sent, received, timeouts, one.ttl, one.sent,
      one.received, one.timeouts, Nat.add_assoc, and_self]

namespace HopState

/-! ## Cells -/

/-- The record of a flow and a hop limit. -/
def cell? (s : HopState) (flow : UInt16) (ttl : UInt8) : Option HopRecord :=
  if ttl = 0 then none else s.rows[flow.toNat]?.bind (·.hops[ttl.toNat - 1]?)

/-- Nothing has been sent to a cell of the table without events. -/
theorem counts_of_cell?_new {c : Config} {flow : UInt16} {ttl : UInt8} {h : HopRecord}
    (hc : (new c).cell? flow ttl = some h) : h.sent = 0 ∧ h.resolved = 0 := by
  unfold cell? at hc
  split at hc
  · cases hc
  · obtain ⟨row, hrow, hh⟩ := Option.bind_eq_some_iff.mp hc
    obtain rfl : row = FlowRow.new _ := (List.mem_replicate.mp (List.mem_of_getElem? hrow)).2
    obtain ⟨i, -, rfl⟩ := List.mem_map.mp (List.mem_of_getElem? hh)
    exact ⟨rfl, rfl⟩

theorem cell?_modifyRow {s : HopState} {f : FlowRow → FlowRow} (hf : ∀ row, (f row).hops = row.hops)
    (i flow : UInt16) (ttl : UInt8) : (s.modifyRow i f).cell? flow ttl = s.cell? flow ttl := by
  unfold cell? modifyRow
  split
  · rfl
  · simp only [List.getElem?_modify]
    cases s.rows[flow.toNat]? with
    | none => rfl
    | some row => by_cases hi : i.toNat = flow.toNat <;> simp [hi, hf]

/-- Hop limit 0 has no record. -/
theorem one_le_toNat {ttl : UInt8} (h : ttl ≠ 0) : 1 ≤ ttl.toNat := UInt8.pos_iff_ne_zero.mpr h

/-- So an index stands for one hop limit. -/
theorem ttl_of_index {t t' : UInt8} (ht : t ≠ 0) (ht' : t' ≠ 0)
    (hsame : t.toNat - 1 = t'.toNat - 1) : t = t' := by
  have hpos := one_le_toNat ht
  have pos' := one_le_toNat ht'
  exact UInt8.toNat_inj.mp (by omega)

theorem getElem?_modifyHop (row : FlowRow) (t : UInt8) (g : HopRecord → HopRecord) {ttl : UInt8}
    (hz : ttl ≠ 0) : (row.modifyHop t g).hops[ttl.toNat - 1]? =
      (row.hops[ttl.toNat - 1]?).map fun h => if t = ttl then g h else h := by
  unfold FlowRow.modifyHop
  split
  · rename_i h0
    simp [h0, hz.symm]
  · rename_i h0
    rw [List.getElem?_modify]
    by_cases ht : t = ttl
    · simp [ht]
    · have other : t.toNat - 1 ≠ ttl.toNat - 1 := fun h => ht (ttl_of_index h0 hz h)
      simp [ht, other]

theorem cell?_modifyCell (s : HopState) (f : UInt16) (t : UInt8) (g : HopRecord → HopRecord)
    (flow : UInt16) (ttl : UInt8) : (s.modifyCell f t g).cell? flow ttl =
      (s.cell? flow ttl).map fun h => if f = flow ∧ t = ttl then g h else h := by
  unfold cell? modifyCell modifyRow
  split
  · rfl
  rename_i hz
  simp only [List.getElem?_modify]
  cases s.rows[flow.toNat]? with
  | none => rfl
  | some row =>
    by_cases hf : f = flow
    · simp [hf, getElem?_modifyHop row t g hz]
    · have hf' : f.toNat ≠ flow.toNat := fun e => hf (UInt16.toNat_inj.mp e)
      simp [hf, hf']

/-- An event changes the record that it is about. -/
theorem cell?_apply (s : HopState) (e : Event) (flow : UInt16) (ttl : UInt8) :
    (s.apply e).cell? flow ttl = (s.cell? flow ttl).map (e.touch flow ttl) := by
  cases e with
  | sent f t => exact cell?_modifyCell ..
  | answered a =>
    have cell := cell?_modifyCell { s with counters := s.counters.count (.answered a) } a.flow a.ttl
      (answerHop a) flow ttl
    simp only [apply]
    split
    · rw [cell?_modifyRow (f := fun row => row.reach a.ttl) fun _ => rfl]
      exact cell
    · exact cell
  | timedOut f t r => exact cell?_modifyCell ..
  | _ => exact (Option.map_id' ..).symm

/-- Events change the record of a cell one by one, and those about the cell alone. -/
theorem cell?_foldl_apply (s : HopState) (es : List Event) (flow : UInt16) (ttl : UInt8) :
    (es.foldl apply s).cell? flow ttl =
      (s.cell? flow ttl).map ((eventsAt flow ttl es).foldl fun h e => e.record h) := by
  induction es generalizing s with
  | nil => exact (Option.map_id' ..).symm
  | cons e es ih =>
    rw [List.foldl_cons, ih, cell?_apply, Option.map_map]
    refine congrArg (Option.map · _) (funext fun h => ?_)
    rw [Function.comp_apply, Event.touch_eq]
    by_cases he : e.cell? = some (flow, ttl) <;> simp [eventsAt, he]

/-- A batch adds the events of a cell to its record. -/
theorem cell?_foldl {s : HopState} {es : List Event} {flow : UInt16} {ttl : UInt8} {h' : HopRecord}
    (h : (es.foldl apply s).cell? flow ttl = some h') :
    ∃ h, s.cell? flow ttl = some h ∧ h'.sent = h.sent + (sentCells es).count (flow, ttl) ∧
      h'.resolved = h.resolved + ((resolvedKeys es).map ProbeKey.cell).count (flow, ttl) := by
  rw [cell?_foldl_apply] at h
  obtain ⟨h₀, hc, rfl⟩ := Option.map_eq_some_iff.mp h
  obtain ⟨-, sent, received, timeouts⟩ := h₀.counts_foldl (eventsAt flow ttl es)
  refine ⟨h₀, hc, by rw [sent, count_sentCells], ?_⟩
  rw [HopRecord.resolved, received, timeouts, count_resolvedKeys, HopRecord.resolved]
  omega

/-! ## Counters -/

theorem counters_apply (s : HopState) (e : Event) :
    (s.apply e).counters = s.counters.count e := by
  cases e with
  | answered a => simp only [apply]; split <;> rfl
  | _ => rfl

theorem counters_of_foldl (s : HopState) (es : List Event) (k : EventKind) :
    (es.foldl apply s).counters.of k = s.counters.of k + countOf k es := by
  induction es generalizing s with
  | nil => rfl
  | cons e es ih =>
    rw [List.foldl_cons, ih, counters_apply, Counters.of_count, countOf_cons, Nat.add_assoc]

/-- The counters add all events of a batch. -/
theorem counters_foldl (s : HopState) (es : List Event) :
    (es.foldl apply s).counters.sent = s.counters.sent + (sentCells es).length ∧
    (es.foldl apply s).counters.answered + (es.foldl apply s).counters.timedOut =
      s.counters.answered + s.counters.timedOut + (resolvedKeys es).length := by
  have answered := counters_of_foldl s es .answered
  have timedOut := counters_of_foldl s es .timedOut
  rw [length_sentCells, length_resolvedKeys]
  exact ⟨counters_of_foldl s es .sent, by simp only [Counters.of] at *; omega⟩

/-- So do the failed sends. -/
theorem sendFailures_foldl (s : HopState) (es : List Event) :
    (es.foldl apply s).counters.sendFailures =
      s.counters.sendFailures + (failedCells es).length := by
  rw [length_failedCells]
  exact counters_of_foldl s es .sendFailed

/-! ## The size of the table -/

/-- The table has a record for every hop limit, and targets are found within it. -/
structure Fits (s : HopState) : Prop where
  rows : s.rows.length ≤ 65535
  hops : ∀ row ∈ s.rows, row.hops.length = s.maxTtl.toNat
  target : ∀ row ∈ s.rows, ∀ ttl ∈ row.targetTtl, ttl.toNat ≤ s.maxTtl.toNat

theorem fits_new (c : Config) : (new c).Fits where
  rows := by
    have := c.flows.toNat_lt
    simp only [new, List.length_replicate]
    split
    · decide
    · omega
  hops row hr := by
    obtain rfl : row = FlowRow.new _ := (List.mem_replicate.mp hr).2
    simp [FlowRow.new, new]
  target row hr ttl ht := by
    obtain rfl : row = FlowRow.new _ := (List.mem_replicate.mp hr).2
    cases ht

theorem Fits.modifyRow {s : HopState} (h : s.Fits) (flow : UInt16) {f : FlowRow → FlowRow}
    (hf : ∀ row, (f row).hops.length = row.hops.length)
    (ht : ∀ row, ∀ ttl ∈ (f row).targetTtl, ttl ∈ row.targetTtl ∨ ttl.toNat ≤ s.maxTtl.toNat) :
    (s.modifyRow flow f).Fits := by
  have old (row : FlowRow) (hr : row ∈ (s.modifyRow flow f).rows) :
      ∃ row₀ ∈ s.rows, row = row₀ ∨ row = f row₀ := by
    obtain ⟨i, hi⟩ := List.getElem?_of_mem hr
    obtain ⟨row₀, ho, ⟨-, rfl⟩ | rfl⟩ := getElem?_of_modify hi
    · exact ⟨row₀, List.mem_of_getElem? ho, .inr rfl⟩
    · exact ⟨row, List.mem_of_getElem? ho, .inl rfl⟩
  refine ⟨by simpa [HopState.modifyRow] using h.rows, fun row hr => ?_, fun row hr ttl httl => ?_⟩
  · obtain ⟨row₀, hr₀, rfl | rfl⟩ := old row hr
    · exact h.hops row hr₀
    · exact (hf row₀).trans (h.hops row₀ hr₀)
  · obtain ⟨row₀, hr₀, rfl | rfl⟩ := old row hr
    · exact h.target row hr₀ ttl httl
    · rcases ht row₀ ttl httl with hin | hle
      · exact h.target row₀ hr₀ ttl hin
      · exact hle

theorem Fits.modifyCell {s : HopState} (h : s.Fits) (flow : UInt16) (ttl : UInt8)
    (f : HopRecord → HopRecord) : (s.modifyCell flow ttl f).Fits := by
  refine h.modifyRow flow (fun row => ?_) fun row t ht => .inl ?_
  · unfold FlowRow.modifyHop
    split
    · rfl
    · exact List.length_modify ..
  · unfold FlowRow.modifyHop at ht
    split at ht <;> exact ht

theorem Fits.apply {s : HopState} (h : s.Fits) (e : Event) : (s.apply e).Fits := by
  have counted : Fits { s with counters := s.counters.count e } := ⟨h.rows, h.hops, h.target⟩
  cases e with
  | sent flow ttl => exact counted.modifyCell flow ttl _
  | answered a =>
    -- An answer is recorded in its cell first; the target of the flow only ever moves to a hop
    -- limit within the table.
    have cell := counted.modifyCell a.flow a.ttl (answerHop a)
    simp only [HopState.apply]
    split
    · rename_i hc
      have hroom : a.ttl.toNat ≤ s.maxTtl.toNat := UInt8.le_iff_toNat_le.mp hc.1.2.2
      refine cell.modifyRow a.flow (fun _ => rfl) fun row ttl ht => ?_
      obtain rfl := Option.mem_some_iff.mp ht
      cases htarget : row.targetTtl with
      | none => exact .inr hroom
      | some t =>
        simp only [Option.elim_some]
        split
        · exact .inl rfl
        · exact .inr hroom
    · exact cell
  | timedOut flow ttl r => exact counted.modifyCell flow ttl _
  | _ => exact counted

theorem Fits.foldl {s : HopState} (h : s.Fits) (es : List Event) :
    (es.foldl HopState.apply s).Fits := by
  induction es generalizing s with
  | nil => exact h
  | cons e es ih => exact ih (h.apply e)

/-! ## What events leave alone -/

/-- The second state may differ from the first one in records and counts. -/
structure Frames (s s' : HopState) : Prop where
  target : s'.target = s.target
  maxTtl : s'.maxTtl = s.maxTtl
  status : s'.status = s.status
  round : s'.round = s.round
  roundsCompleted : s'.roundsCompleted = s.roundsCompleted

theorem frames_apply (s : HopState) (e : Event) : s.Frames (s.apply e) := by
  cases e with
  | answered a => simp only [apply]; split <;> exact ⟨rfl, rfl, rfl, rfl, rfl⟩
  | _ => exact ⟨rfl, rfl, rfl, rfl, rfl⟩

/-- Events change records and counts and nothing else. -/
theorem frames_foldl (s : HopState) (es : List Event) : s.Frames (es.foldl apply s) := by
  induction es generalizing s with
  | nil => exact ⟨rfl, rfl, rfl, rfl, rfl⟩
  | cons e es ih =>
    have first := frames_apply s e
    have rest := ih (s.apply e)
    exact ⟨rest.target.trans first.target, rest.maxTtl.trans first.maxTtl,
      rest.status.trans first.status, rest.round.trans first.round,
      rest.roundsCompleted.trans first.roundsCompleted⟩

/-- Two states with the same records and counts. -/
structure Agrees (s s' : HopState) : Prop where
  target : s.target = s'.target
  maxTtl : s.maxTtl = s'.maxTtl
  rows : s.rows = s'.rows
  counters : s.counters = s'.counters

theorem Agrees.ite {p q : Prop} [Decidable p] [Decidable q] {s s' t t' : HopState} (hpq : p ↔ q)
    (hs : s.Agrees s') (ht : t.Agrees t') :
    (if p then s else t).Agrees (if q then s' else t') := by
  by_cases hp : p
  · rw [if_pos hp, if_pos (hpq.mp hp)]
    exact hs
  · rw [if_neg hp, if_neg (mt hpq.mpr hp)]
    exact ht

/-- What an event does depends on records and counts alone. -/
theorem Agrees.apply {s s' : HopState} (h : s.Agrees s') (e : Event) :
    (s.apply e).Agrees (s'.apply e) := by
  obtain ⟨target, maxTtl, rows, counters, status, round, completed⟩ := s
  obtain ⟨rfl, rfl, rfl, rfl⟩ := h
  cases e with
  | answered a =>
    exact .ite Iff.rfl ⟨rfl, rfl, rfl, rfl⟩ ⟨rfl, rfl, rfl, rfl⟩
  | _ => exact ⟨rfl, rfl, rfl, rfl⟩

theorem Agrees.foldl {s s' : HopState} (h : s.Agrees s') (es : List Event) :
    (es.foldl HopState.apply s).Agrees (es.foldl HopState.apply s') := by
  induction es generalizing s s' with
  | nil => exact h
  | cons e es ih => exact ih (h.apply e)

/-! ## Snapshots -/

/-- Every hop that a snapshot shows is the record of a cell. -/
theorem Fits.cell?_of_snapshot {s : HopState} (hs : s.Fits) {f : FlowSnapshot} {h : HopRecord}
    (hf : f ∈ s.snapshot.flows) (hh : h ∈ f.hops) : ∃ flow ttl, s.cell? flow ttl = some h := by
  obtain ⟨i, hi, rfl⟩ := List.mem_mapIdx.mp hf
  obtain ⟨j, hj⟩ := List.getElem?_of_mem (List.mem_of_mem_take hh)
  have rows := hs.rows
  have size := hs.hops s.rows[i] (List.getElem_mem hi)
  have hroom := (List.getElem?_eq_some_iff.mp hj).1
  have limit := s.maxTtl.toNat_lt
  have flow : (UInt16.ofNat i).toNat = i := by rw [UInt16.toNat_ofNat']; omega
  have ttl : (UInt8.ofNat (j + 1)).toNat = j + 1 := by rw [UInt8.toNat_ofNat']; omega
  have hpos : UInt8.ofNat (j + 1) ≠ 0 := fun e => by
    rw [e] at ttl
    simp at ttl
  refine ⟨.ofNat i, .ofNat (j + 1), ?_⟩
  rw [cell?, if_neg hpos, flow, ttl, List.getElem?_eq_getElem hi, Option.bind_some,
    Nat.add_sub_cancel, hj]

end HopState

/-! ## Operations on the table -/

namespace HopTable

/-- The table has taken some events; what else has changed are the numbers of rounds, the status and
the snapshots. -/
abbrev Applies (t : HopTable) (es : List Event) (t' : HopTable) : Prop :=
  t'.state.Agrees (es.foldl HopState.apply t.state)

variable (t : HopTable)

theorem applies_refl : Applies t [] t := ⟨rfl, rfl, rfl, rfl⟩

theorem applies_apply (es : List Event) : Applies t es (t.apply es) := ⟨rfl, rfl, rfl, rfl⟩

theorem applies_recordSent (flow : UInt16) (ttl : UInt8) :
    Applies t [.sent flow ttl] (t.recordSent flow ttl) := ⟨rfl, rfl, rfl, rfl⟩

theorem applies_publish : Applies t [] t.publish := ⟨rfl, rfl, rfl, rfl⟩

theorem applies_beginRound (round : UInt32) : Applies t [] (t.beginRound round) :=
  ⟨rfl, rfl, rfl, rfl⟩

theorem applies_completeRound (round : UInt32) : Applies t [] (t.completeRound round) :=
  ⟨rfl, rfl, rfl, rfl⟩

theorem applies_setStatus (status : Status) : Applies t [] (t.setStatus status) := by
  unfold setStatus
  split <;> exact ⟨rfl, rfl, rfl, rfl⟩

variable {t} {t' : HopTable} {es : List Event}

/-- One batch after the other. -/
theorem Applies.trans {t'' : HopTable} {es' : List Event} (h : Applies t es t')
    (h' : Applies t' es' t'') : Applies t (es ++ es') t'' := by
  have both := h.foldl es'
  rw [← List.foldl_append] at both
  exact ⟨h'.target.trans both.target, h'.maxTtl.trans both.maxTtl, h'.rows.trans both.rows,
    h'.counters.trans both.counters⟩

theorem Applies.fits (h : Applies t es t') (ht : t.state.Fits) : t'.state.Fits := by
  have folded := ht.foldl es
  refine ⟨h.rows ▸ folded.rows, fun row hr => ?_, fun row hr => ?_⟩
  · rw [h.maxTtl]
    exact folded.hops row (h.rows ▸ hr)
  · rw [h.maxTtl]
    exact folded.target row (h.rows ▸ hr)

theorem Applies.maxTtl_eq (h : Applies t es t') : t'.state.maxTtl = t.state.maxTtl :=
  h.maxTtl.trans (HopState.frames_foldl t.state es).maxTtl

theorem Applies.cell? (h : Applies t es t') (flow : UInt16) (ttl : UInt8) :
    t'.state.cell? flow ttl = (es.foldl HopState.apply t.state).cell? flow ttl := by
  unfold HopState.cell?
  rw [h.rows]

/-! ### Status and complete rounds -/

/-- The table shows `a` for `f` of the status and the number of complete rounds, and readers see the
same. -/
structure Shows (t : HopTable) {α : Type} (f : Status → UInt32 → α) (a : α) : Prop where
  state : f t.state.status t.state.roundsCompleted = a
  latest : f t.latest.status t.latest.roundsCompleted = a

/-- The session is in a part of its life. -/
abbrev HasStatus (t : HopTable) (s : Status) : Prop := t.Shows (fun s _ => s) s

/-- Some rounds are complete. -/
abbrev HasCompleted (t : HopTable) (n : UInt32) : Prop := t.Shows (fun _ n => n) n

variable {α : Type} {f : Status → UInt32 → α} {a : α}

theorem Shows.apply (h : t.Shows f a) (es : List Event) : (t.apply es).Shows f a := by
  have frames := HopState.frames_foldl t.state es
  have hsame : f (t.apply es).state.status (t.apply es).state.roundsCompleted = a :=
    (congrArg₂ f frames.status frames.roundsCompleted).trans h.state
  exact ⟨hsame, hsame⟩

theorem Shows.recordSent (h : t.Shows f a) (flow : UInt16) (ttl : UInt8) :
    (t.recordSent flow ttl).Shows f a := by
  have frames := HopState.frames_apply t.state (.sent flow ttl)
  exact ⟨(congrArg₂ f frames.status frames.roundsCompleted).trans h.state, h.latest⟩

theorem Shows.publish (h : t.Shows f a) : t.publish.Shows f a := ⟨h.state, h.state⟩

theorem Shows.beginRound (h : t.Shows f a) (round : UInt32) : (t.beginRound round).Shows f a :=
  ⟨h.state, h.state⟩

theorem HasStatus.completeRound {s : Status} (h : t.HasStatus s) (round : UInt32) :
    (t.completeRound round).HasStatus s := ⟨h.state, h.state⟩

theorem hasStatus_setStatus (t : HopTable) (s : Status) : (t.setStatus s).HasStatus s := by
  unfold setStatus
  split <;> exact ⟨rfl, rfl⟩

theorem HasCompleted.setStatus {n : UInt32} (h : t.HasCompleted n) (s : Status) :
    (t.setStatus s).HasCompleted n := by
  unfold HopTable.setStatus
  split <;> exact ⟨h.state, h.state⟩

/-- One more round is complete. -/
theorem HasCompleted.completeRound {round : UInt32} (h : t.HasCompleted round)
    (hr : round ≤ round + 1) : (t.completeRound round).HasCompleted (round + 1) := by
  have completed : max t.state.roundsCompleted (round + 1) = round + 1 := by
    rw [show t.state.roundsCompleted = round from h.state]
    exact if_pos hr
  exact ⟨completed, completed⟩

/-- A target is found within the table. -/
theorem targetTtl_le (ht : t.state.Fits) {flow : UInt16} {ttl : UInt8}
    (h : t.targetTtl flow = some ttl) : ttl.toNat ≤ t.state.maxTtl.toNat := by
  obtain ⟨row, hr, httl⟩ := Option.bind_eq_some_iff.mp h
  exact ht.target row (List.mem_of_getElem? hr) ttl httl

end HopTable

end FlowTrace
