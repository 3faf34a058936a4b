import FlowTrace.Proofs.HopTable.Flat

/-!
# The hop table is the count of its events

- **Records** (`HopRecord.ofEvents`): the record of a cell is made by the events about the cell, and
  counts them by kind (`tallies_ofEvents`).
- **Targets** (`arrivals`): the hop limits at which the target answered on a flow; the least one is
  kept.
- **Snapshots** (`FlowSnapshot.ofEvents`): each flow shows its hops from one up to that limit.
- **Main result** (`HopTable.tallies_after`): whatever operations a table has gone through, it is
  the count of the events in them, laid out flow after flow in one array; readers see the count of
  those that are published.
-/

namespace FlowTrace

/-! ## Records -/

/-- The record of a cell after some events. -/
def HopRecord.ofEvents (flow : UInt16) (ttl : UInt8) (es : List Event) : HopRecord :=
  (eventsAt flow ttl es).foldl (fun h e => e.record h) (.new ttl)

/-- A record has the hop limit of its cell, and counts the events about it by kind. -/
structure HopRecord.Tallies (h : HopRecord) (flow : UInt16) (ttl : UInt8) (es : List Event) :
    Prop where
  sent : h.sent = countOf .sent (eventsAt flow ttl es)
  received : h.received = countOf .answered (eventsAt flow ttl es)
  timeouts : h.timeouts = countOf .timedOut (eventsAt flow ttl es)
  ttl : h.ttl = ttl

theorem HopRecord.tallies_ofEvents (flow : UInt16) (ttl : UInt8) (es : List Event) :
    (ofEvents flow ttl es).Tallies flow ttl es := by
  obtain ⟨hsame, sent, received, timeouts⟩ := counts_foldl (new ttl) (eventsAt flow ttl es)
  exact ⟨sent.trans (Nat.zero_add _), received.trans (Nat.zero_add _),
    timeouts.trans (Nat.zero_add _), hsame⟩

/-! ## Targets -/

/-- The number of flows of a table. There is always one. -/
def Config.tableFlows (c : Config) : Nat := max c.flows.toNat 1

/-- The number of hops of a flow. There is always one. -/
def Config.tableHops (c : Config) : Nat := max c.maxTtl.toNat 1

/-- The table of a configuration has the cell. -/
def Config.HasCell (c : Config) (flow : UInt16) (ttl : UInt8) : Prop :=
  flow.toNat < c.tableFlows ∧ 1 ≤ ttl.toNat ∧ ttl.toNat ≤ c.tableHops

instance (c : Config) (flow : UInt16) (ttl : UInt8) : Decidable (c.HasCell flow ttl) :=
  inferInstanceAs (Decidable (_ ∧ _))

/-- The flows of a table have numbers. -/
theorem Config.toNat_ofNat_flow (c : Config) {i : Nat} (h : i < c.tableFlows) :
    (UInt16.ofNat i).toNat = i := by
  have := c.flows.toNat_lt
  unfold tableFlows at h
  rw [UInt16.toNat_ofNat']
  omega

/-- So do its hops, from one on. -/
theorem Config.toNat_ofNat_ttl (c : Config) {j : Nat} (h : j < c.tableHops) :
    (UInt8.ofNat (j + 1)).toNat = j + 1 := by
  have := c.maxTtl.toNat_lt
  unfold tableHops at h
  rw [UInt8.toNat_ofNat']
  omega

/-- The hop limit at which the target answers on a flow. -/
def Event.arrival? (c : Config) (flow : UInt16) : Event → Option UInt8
  | .answered a =>
    if a.flow = flow ∧ c.HasCell a.flow a.ttl ∧ a.responder = c.target then some a.ttl else none
  | _ => none

/-- The hop limits at which the target answered on a flow. -/
def arrivals (c : Config) (flow : UInt16) (es : List Event) : List UInt8 :=
  es.filterMap (Event.arrival? c flow)

/-- The target is found within the table. -/
theorem arrivals_le {c : Config} {flow : UInt16} {es : List Event} {ttl : UInt8}
    (h : ttl ∈ arrivals c flow es) : ttl.toNat ≤ c.tableHops := by
  obtain ⟨e, -, he⟩ := List.mem_filterMap.mp h
  cases e with
  | answered a =>
    obtain ⟨⟨-, cell, -⟩, same⟩ := Option.ite_none_right_eq_some.mp he
    exact Option.some.inj same ▸ cell.2.2
  | _ => cases he

/-- One more arrival. -/
theorem min?_arrival (least : Option UInt8) (ttl : UInt8) (more : List UInt8) :
    ((some (least.elim ttl fun t => if t ≤ ttl then t else ttl)).toList ++ more).min? =
      (least.toList ++ ttl :: more).min? := by
  cases least <;> rfl

/-! ## Snapshots -/

/-- What a snapshot says about a flow after some events. -/
def FlowSnapshot.ofEvents (c : Config) (es : List Event) (flow : Nat) : FlowSnapshot :=
  let targetTtl := (arrivals c (.ofNat flow) es).min?
  { flow := .ofNat flow
    targetTtl := targetTtl
    hops := (List.range (targetTtl.elim c.tableHops UInt8.toNat)).map fun i =>
      .ofEvents (.ofNat flow) (.ofNat (i + 1)) es }

/-- A snapshot is the count of some events: it has all flows in order, and each flow all hops in
order up to the least hop limit at which the target answered, or up to the largest one. -/
structure Snapshot.Tallies (s : Snapshot) (c : Config) (es : List Event) : Prop where
  flows : s.flows = (List.range c.tableFlows).map (FlowSnapshot.ofEvents c es)
  numbered : s.flows.map (·.flow.toNat) = List.range c.tableFlows
  hops : ∀ f ∈ s.flows, f.hops.map (·.ttl.toNat) =
    List.range' 1 (f.targetTtl.elim c.tableHops UInt8.toNat)
  counters : ∀ k, s.counters.of k = countOf k es

/-- The hops of a flow are numbered from one on. -/
theorem FlowSnapshot.ttl_ofEvents (c : Config) (es : List Event) (flow : Nat) :
    (ofEvents c es flow).hops.map (·.ttl.toNat) =
      List.range' 1 ((ofEvents c es flow).targetTtl.elim c.tableHops UInt8.toNat) := by
  have within : (ofEvents c es flow).targetTtl.elim c.tableHops UInt8.toNat ≤ c.tableHops := by
    cases h : (ofEvents c es flow).targetTtl with
    | none => exact Nat.le_refl _
    | some ttl => exact arrivals_le (List.min?_mem h)
  rw [List.range'_eq_map_range, ofEvents, List.map_map]
  refine List.map_congr_left fun j hj => ?_
  rw [Function.comp_apply, (HopRecord.tallies_ofEvents ..).ttl, Nat.add_comm 1]
  exact c.toNat_ofNat_ttl (Nat.lt_of_lt_of_le (List.mem_range.mp hj) within)

theorem Snapshot.Tallies.of_flows {s : Snapshot} {c : Config} {es : List Event}
    (flows : s.flows = (List.range c.tableFlows).map (FlowSnapshot.ofEvents c es))
    (counters : ∀ k, s.counters.of k = countOf k es) : s.Tallies c es where
  flows := flows
  numbered := by
    rw [flows, List.map_map]
    refine (List.map_congr_left fun i hi => ?_).trans (List.map_id _)
    exact c.toNat_ofNat_flow (List.mem_range.mp hi)
  hops f hf := by
    rw [flows] at hf
    obtain ⟨i, -, rfl⟩ := List.mem_map.mp hf
    exact FlowSnapshot.ttl_ofEvents c es i
  counters := counters

namespace HopState

/-- The least hop limit at which the target answered on a flow. -/
def targetTtl? (s : HopState) (flow : UInt16) : Option UInt8 :=
  s.rows[flow.toNat]?.bind (·.targetTtl)

/-- The state of a table is the count of some events. -/
structure Tallies (s : HopState) (c : Config) (es : List Event) : Prop where
  /-- Only the events about a cell make its record. -/
  cell : ∀ flow ttl,
    s.cell? flow ttl = if c.HasCell flow ttl then some (.ofEvents flow ttl es) else none
  /-- A record counts the events about its cell. -/
  counts : ∀ flow ttl, c.HasCell flow ttl →
    ∃ h, s.cell? flow ttl = some h ∧ h.Tallies flow ttl es
  /-- All events are counted, those about no cell as well. -/
  counters : ∀ k, s.counters.of k = countOf k es
  targetTtl : ∀ flow, s.targetTtl? flow = (arrivals c flow es).min?
  snapshot : s.snapshot.Tallies c es
  /-- One array of records, to which the same events happen, holds the same. -/
  flat : s.flat = es.foldl FlatTable.apply (.new c)
  /-- The place of a cell in it. -/
  place : ∀ flow ttl, c.HasCell flow ttl →
    s.flat.hops[flow.toNat * c.tableHops + (ttl.toNat - 1)]? = s.cell? flow ttl
  /-- What a snapshot shows of it. -/
  split : s.flat.flowSnapshots = s.snapshot.flows

/-- The table has the cells of a configuration. -/
structure Spans (s : HopState) (c : Config) : Prop where
  fits : s.Fits
  target : s.target = c.target
  flows : s.rows.length = c.tableFlows
  hops : s.maxTtl.toNat = c.tableHops

theorem spans_new (c : Config) : (new c).Spans c where
  fits := fits_new c
  target := rfl
  flows := by
    simp only [new, List.length_replicate, Config.tableFlows]
    split
    · rename_i zero
      rw [zero]
      rfl
    · rename_i pos
      have := mt UInt16.toNat_inj.mp pos
      rw [UInt16.toNat_zero] at this
      omega
  hops := by
    simp only [new, Config.tableHops]
    split
    · rename_i zero
      rw [zero]
      rfl
    · rename_i pos
      have := one_le_toNat pos
      omega

theorem length_rows_apply (s : HopState) (e : Event) : (s.apply e).rows.length = s.rows.length := by
  cases e with
  | answered a =>
    simp only [apply]
    split <;> simp only [modifyCell, modifyRow, List.length_modify]
  | _ => simp only [apply, modifyCell, modifyRow, List.length_modify]

variable {s : HopState} {c : Config}

theorem Spans.apply (h : s.Spans c) (e : Event) : (s.apply e).Spans c where
  fits := h.fits.apply e
  target := (frames_apply s e).target.trans h.target
  flows := (length_rows_apply s e).trans h.flows
  hops := (congrArg UInt8.toNat (frames_apply s e).maxTtl).trans h.hops

theorem Spans.foldl (h : s.Spans c) (es : List Event) : (es.foldl HopState.apply s).Spans c := by
  induction es generalizing s with
  | nil => exact h
  | cons e es ih => exact ih (h.apply e)

theorem Spans.hasCell_iff (h : s.Spans c) (flow : UInt16) (ttl : UInt8) :
    s.HasCell flow ttl ↔ c.HasCell flow ttl := by
  have hpos : ttl ≠ 0 ↔ 1 ≤ ttl.toNat := by
    rw [Ne, ← UInt8.toNat_inj, UInt8.toNat_zero]
    omega
  rw [HasCell, Config.HasCell, h.flows, hpos, UInt8.le_iff_toNat_le, h.hops]

theorem Spans.pos (h : s.Spans c) : 0 < s.maxTtl.toNat := by
  rw [h.hops, Config.tableHops]
  omega

/-! ### The record of a cell -/

theorem cell?_new {flow : UInt16} {ttl : UInt8} (h : c.HasCell flow ttl) :
    (new c).cell? flow ttl = some (.new ttl) := by
  obtain ⟨inside, hpos, within⟩ := ((spans_new c).hasCell_iff flow ttl).mpr h
  have index := HasCell.index_lt (s := new c) ⟨inside, hpos, within⟩
  have row : (new c).rows[flow.toNat]? = some (.new (new c).maxTtl) := by
    simp only [new, List.length_replicate] at inside ⊢
    exact List.getElem?_replicate_of_lt inside
  have ttl_eq : UInt8.ofNat (ttl.toNat - 1 + 1) = ttl := by
    rw [Nat.sub_add_cancel h.2.1, UInt8.ofNat_toNat]
  rw [cell?, if_neg hpos, row, Option.bind_some, FlowRow.new, List.getElem?_map,
    List.getElem?_range index, Option.map_some, ttl_eq]

theorem cell?_ofEvents (c : Config) (es : List Event) (flow : UInt16) (ttl : UInt8) :
    (es.foldl apply (new c)).cell? flow ttl =
      if c.HasCell flow ttl then some (.ofEvents flow ttl es) else none := by
  split
  · rename_i h
    rw [cell?_foldl_apply, cell?_new h]
    rfl
  · rename_i h
    have spans := (spans_new c).foldl es
    exact spans.fits.cell?_of_not (mt (spans.hasCell_iff flow ttl).mp h)

/-! ### Counters -/

theorem counters_ofEvents (c : Config) (es : List Event) (k : EventKind) :
    (es.foldl apply (new c)).counters.of k = countOf k es := by
  rw [counters_of_foldl]
  cases k <;> exact Nat.zero_add _

/-! ### The target of a flow -/

theorem targetTtl?_modifyCell (s : HopState) (f : UInt16) (t : UInt8) (g : HopRecord → HopRecord)
    (flow : UInt16) : (s.modifyCell f t g).targetTtl? flow = s.targetTtl? flow := by
  have kept (row : FlowRow) : (row.modifyHop t g).targetTtl = row.targetTtl := by
    unfold FlowRow.modifyHop
    split <;> rfl
  simp only [targetTtl?, modifyCell, modifyRow, List.getElem?_modify]
  cases s.rows[flow.toNat]? with
  | none => rfl
  | some row => by_cases hf : f.toNat = flow.toNat <;> simp [hf, kept]

theorem targetTtl?_reach (s : HopState) {f : UInt16} (hf : f.toNat < s.rows.length) (ttl : UInt8)
    (flow : UInt16) : (s.modifyRow f (·.reach ttl)).targetTtl? flow =
      if f = flow then some ((s.targetTtl? flow).elim ttl fun t => if t ≤ ttl then t else ttl)
      else s.targetTtl? flow := by
  simp only [targetTtl?, modifyRow, List.getElem?_modify, UInt16.toNat_inj]
  by_cases hsame : f = flow
  · subst hsame
    simp [List.getElem?_eq_getElem hf, FlowRow.reach]
  · simp [hsame]

theorem Spans.targetTtl?_answer (h : s.Spans c) (a : Answer) (flow : UInt16) :
    (if s.HasCell a.flow a.ttl ∧ a.responder = s.target then
      (s.modifyCell a.flow a.ttl (answerHop a)).modifyRow a.flow fun row => row.reach a.ttl
    else s.modifyCell a.flow a.ttl (answerHop a)).targetTtl? flow =
      ((Event.answered a).arrival? c flow).elim (s.targetTtl? flow) fun ttl =>
        some ((s.targetTtl? flow).elim ttl fun t => if t ≤ ttl then t else ttl) := by
  simp only [h.hasCell_iff, h.target]
  by_cases arrived : c.HasCell a.flow a.ttl ∧ a.responder = c.target
  · have inside : a.flow.toNat < (s.modifyCell a.flow a.ttl (answerHop a)).rows.length := by
      simpa only [modifyCell, modifyRow, List.length_modify, h.flows] using arrived.1.1
    rw [if_pos arrived, targetTtl?_reach _ inside, targetTtl?_modifyCell, Event.arrival?]
    by_cases here : a.flow = flow
    · rw [if_pos here, if_pos ⟨here, arrived⟩, Option.elim_some]
    · rw [if_neg here, if_neg fun both => here both.1, Option.elim_none]
  · rw [if_neg arrived, targetTtl?_modifyCell, Event.arrival?, if_neg fun both => arrived both.2,
      Option.elim_none]

theorem Spans.targetTtl?_apply (h : s.Spans c) (e : Event) (flow : UInt16) :
    (s.apply e).targetTtl? flow = (e.arrival? c flow).elim (s.targetTtl? flow) fun ttl =>
      some ((s.targetTtl? flow).elim ttl fun t => if t ≤ ttl then t else ttl) := by
  have counted : Spans { s with counters := s.counters.count e } c :=
    ⟨⟨h.fits.rows, h.fits.hops, h.fits.target⟩, h.target, h.flows, h.hops⟩
  cases e with
  | sent f t => exact targetTtl?_modifyCell ..
  | answered a => exact counted.targetTtl?_answer a flow
  | timedOut f t r => exact targetTtl?_modifyCell ..
  | _ => rfl

theorem Spans.targetTtl?_foldl (h : s.Spans c) (es : List Event) (flow : UInt16) :
    (es.foldl HopState.apply s).targetTtl? flow =
      ((s.targetTtl? flow).toList ++ arrivals c flow es).min? := by
  -- The least arrival so far stands before the arrivals to come.
  induction es generalizing s with
  | nil => cases hs : s.targetTtl? flow <;> simp [arrivals, hs]
  | cons e es ih =>
    rw [List.foldl_cons, ih (h.apply e), h.targetTtl?_apply]
    cases ha : e.arrival? c flow with
    | none => simp [arrivals, ha]
    | some ttl =>
      rw [Option.elim_some, min?_arrival]
      simp [arrivals, ha]

theorem targetTtl?_ofEvents (c : Config) (es : List Event) (flow : UInt16) :
    (es.foldl apply (new c)).targetTtl? flow = (arrivals c flow es).min? := by
  have first : (new c).targetTtl? flow = none := by
    rw [targetTtl?, Option.bind_eq_none_iff]
    intro row hrow
    obtain rfl : row = FlowRow.new _ := (List.mem_replicate.mp (List.mem_of_getElem? hrow)).2
    rfl
  rw [(spans_new c).targetTtl?_foldl, first]
  rfl

/-! ### Snapshots -/

/-- A row has the records of its flow in order. -/
theorem hops_ofEvents (c : Config) (es : List Event) {i : Nat} {row : FlowRow}
    (hrow : (es.foldl apply (new c)).rows[i]? = some row) :
    row.hops = (List.range c.tableHops).map fun j => .ofEvents (.ofNat i) (.ofNat (j + 1)) es := by
  have spans := (spans_new c).foldl es
  have inside := spans.flows ▸ (List.getElem?_eq_some_iff.mp hrow).1
  have flow := c.toNat_ofNat_flow inside
  refine List.ext_getElem? fun j => ?_
  by_cases hj : j < c.tableHops
  · have ttl := c.toNat_ofNat_ttl hj
    have here : c.HasCell (.ofNat i) (.ofNat (j + 1)) := ⟨by omega, by omega, by omega⟩
    have hpos : UInt8.ofNat (j + 1) ≠ 0 := fun zero => by
      rw [zero] at ttl
      cases ttl
    have cell := cell?_ofEvents c es (.ofNat i) (.ofNat (j + 1))
    rw [if_pos here, cell?, if_neg hpos, flow, hrow, Option.bind_some, ttl,
      Nat.add_sub_cancel] at cell
    rw [cell, List.getElem?_map, List.getElem?_range hj, Option.map_some]
  · have size := spans.fits.hops row (List.mem_of_getElem? hrow)
    have hops := spans.hops
    rw [List.getElem?_eq_none (by omega),
      List.getElem?_eq_none (by rw [List.length_map, List.length_range]; omega)]

theorem flowSnapshot_ofEvents (c : Config) (es : List Event) {i : Nat} {row : FlowRow}
    (hrow : (es.foldl apply (new c)).rows[i]? = some row) :
    (es.foldl apply (new c)).flowSnapshot i row = FlowSnapshot.ofEvents c es i := by
  have spans := (spans_new c).foldl es
  have flow := c.toNat_ofNat_flow (spans.flows ▸ (List.getElem?_eq_some_iff.mp hrow).1)
  have target : row.targetTtl = (arrivals c (.ofNat i) es).min? := by
    rw [← targetTtl?_ofEvents, targetTtl?, flow, hrow, Option.bind_some]
  have limit : (row.targetTtl.getD (es.foldl apply (new c)).maxTtl).toNat =
      row.targetTtl.elim c.tableHops UInt8.toNat := by
    cases row.targetTtl with
    | none => exact spans.hops
    | some ttl => rfl
  have within : row.targetTtl.elim c.tableHops UInt8.toNat ≤ c.tableHops := by
    cases ht : row.targetTtl with
    | none => exact Nat.le_refl _
    | some ttl => exact spans.hops ▸ spans.fits.target row (List.mem_of_getElem? hrow) ttl ht
  rw [flowSnapshot, limit, hops_ofEvents c es hrow, ← List.map_take, List.take_range,
    Nat.min_eq_left within, FlowSnapshot.ofEvents, target]

theorem flows_ofEvents (c : Config) (es : List Event) :
    (es.foldl apply (new c)).snapshot.flows =
      (List.range c.tableFlows).map (FlowSnapshot.ofEvents c es) := by
  have spans := (spans_new c).foldl es
  refine List.ext_getElem? fun i => ?_
  rw [snapshot, List.getElem?_mapIdx, List.getElem?_map]
  by_cases hi : i < c.tableFlows
  · have hrow := List.getElem?_eq_getElem (spans.flows.symm ▸ hi)
    rw [hrow, List.getElem?_range hi, Option.map_some, Option.map_some,
      flowSnapshot_ofEvents c es hrow]
  · rw [List.getElem?_eq_none (by rw [spans.flows]; omega),
      List.getElem?_eq_none (by rw [List.length_range]; omega)]
    rfl

/-- The state after some events is the count of them. -/
theorem tallies_foldl (c : Config) (es : List Event) :
    (es.foldl apply (new c)).Tallies c es where
  cell := cell?_ofEvents c es
  counts flow ttl h := ⟨_, (cell?_ofEvents c es flow ttl).trans (if_pos h),
    HopRecord.tallies_ofEvents ..⟩
  counters := counters_ofEvents c es
  targetTtl := targetTtl?_ofEvents c es
  snapshot := .of_flows (flows_ofEvents c es) (counters_ofEvents c es)
  flat := by rw [(fits_new c).flat_foldl, flat_new]
  place flow ttl h := by
    have spans := (spans_new c).foldl es
    rw [← spans.hops]
    exact spans.fits.getElem?_flat ((spans.hasCell_iff flow ttl).mpr h)
  split := ((spans_new c).foldl es).fits.flowSnapshots_flat ((spans_new c).foldl es).pos

/-- Counts are about records and counters alone. -/
theorem Agrees.tallies {s' : HopState} {es : List Event} (h : s.Agrees s') (hs : s'.Tallies c es) :
    s.Tallies c es := by
  obtain ⟨target, maxTtl, rows, counters, status, round, completed⟩ := s
  obtain ⟨rfl, rfl, rfl, rfl⟩ := h
  exact ⟨hs.cell, hs.counts, hs.counters, hs.targetTtl,
    ⟨hs.snapshot.flows, hs.snapshot.numbered, hs.snapshot.hops, hs.snapshot.counters⟩, hs.flat,
    hs.place, hs.split⟩

end HopState

/-! ## Operations -/

namespace HopTable

/-- What may be done to a table. -/
inductive Operation where
  | apply (events : List Event)
  | record (event : Event)
  | recordSent (flow : UInt16) (ttl : UInt8)
  | publish
  | beginRound (round : UInt32)
  | completeRound (round : UInt32)
  | setStatus (status : Status)

/-- The events in an operation. -/
def Operation.events : Operation → List Event
  | .apply events => events
  | .record event => [event]
  | .recordSent flow ttl => [.sent flow ttl]
  | _ => []

/-- The table after an operation. -/
def Operation.perform : Operation → HopTable → HopTable
  | .apply events, t => t.apply events
  | .record event, t => t.record event
  | .recordSent flow ttl, t => t.recordSent flow ttl
  | .publish, t => t.publish
  | .beginRound round, t => t.beginRound round
  | .completeRound round, t => t.completeRound round
  | .setStatus status, t => t.setStatus status

/-- The events in some operations. -/
def events (ops : List Operation) : List Event := ops.flatMap Operation.events

/-- The table after some operations. -/
def run (t : HopTable) (ops : List Operation) : HopTable := ops.foldl (fun t op => op.perform t) t

/-- The table of a configuration after some operations. -/
def after (c : Config) (ops : List Operation) : HopTable :=
  ops.foldl (fun t op => op.perform t) (new c)

theorem applies_perform (t : HopTable) (op : Operation) : t.Applies op.events (op.perform t) := by
  cases op with
  | apply es => exact t.applies_apply es
  | record e => exact t.applies_apply [e]
  | recordSent flow ttl => exact t.applies_recordSent flow ttl
  | publish => exact t.applies_publish
  | beginRound round => exact t.applies_beginRound round
  | completeRound round => exact t.applies_completeRound round
  | setStatus status => exact t.applies_setStatus status

/-- Operations apply the events in them, and change no record besides. -/
theorem applies_run (t : HopTable) (ops : List Operation) : t.Applies (events ops) (t.run ops) := by
  induction ops using List.reverseRecOn with
  | nil => exact t.applies_refl
  | append_singleton ops op ih =>
    have both := ih.trans (applies_perform _ op)
    rwa [events, List.flatMap_append, List.flatMap_singleton, run, List.foldl_concat]

theorem applies_after (c : Config) (ops : List Operation) :
    (new c).Applies (events ops) (after c ops) := applies_run (new c) ops

/-- A table that has taken some events is the count of them. -/
theorem tallies_of_applies {c : Config} {es : List Event} {t : HopTable}
    (h : (new c).Applies es t) : t.state.Tallies c es :=
  HopState.Agrees.tallies h (HopState.tallies_foldl c es)

/-- The operation publishes the state. -/
def Operation.Publishes : Operation → Prop
  | .recordSent .. => False
  | _ => True

/-- The operation publishes the state as that of a complete round. -/
def Operation.EndsRound : Operation → Prop
  | .completeRound _ | .setStatus .terminated => True
  | _ => False

theorem latest_perform (t : HopTable) (op : Operation) :
    (¬ op.Publishes ∧ (op.perform t).latest = t.latest) ∨
      (op.Publishes ∧ (op.perform t).latest = (op.perform t).state.snapshot) := by
  cases op with
  | recordSent => exact .inl ⟨id, rfl⟩
  | setStatus status => cases status <;> exact .inr ⟨trivial, rfl⟩
  | _ => exact .inr ⟨trivial, rfl⟩

theorem lastRound_perform (t : HopTable) (op : Operation) :
    (¬ op.EndsRound ∧ (op.perform t).lastRound = t.lastRound) ∨
      (op.EndsRound ∧ (op.perform t).lastRound = (op.perform t).state.snapshot) := by
  cases op with
  | completeRound => exact .inr ⟨trivial, rfl⟩
  | setStatus status =>
    cases status with
    | terminated => exact .inr ⟨trivial, rfl⟩
    | running | draining => exact .inl ⟨id, rfl⟩
  | _ => exact .inl ⟨id, rfl⟩

/-- What is replaced by some operations alone is what the last of them put there. -/
theorem shown_after (view shown : HopTable → Snapshot) {Shows : Operation → Prop}
    (first : ∀ c, view (new c) = shown (new c))
    (step : ∀ t op, (¬ Shows op ∧ view (op.perform t) = view t) ∨
      (Shows op ∧ view (op.perform t) = shown (op.perform t)))
    (c : Config) (ops : List Operation) :
    ∃ before unseen, ops = before ++ unseen ∧ (∀ op ∈ unseen, ¬ Shows op) ∧
      (before = [] ∨ ∃ first op, before = first ++ [op] ∧ Shows op) ∧
      view (after c ops) = shown (after c before) := by
  induction ops using List.reverseRecOn with
  | nil => exact ⟨[], [], rfl, List.forall_mem_nil _, .inl rfl, first c⟩
  | append_singleton ops op ih =>
    have last : after c (ops ++ [op]) = op.perform (after c ops) := List.foldl_concat ..
    rcases step (after c ops) op with ⟨hidden, kept⟩ | ⟨shows_, now⟩
    · obtain ⟨before, unseen, split, quiet, ended, seen⟩ := ih
      refine ⟨before, unseen ++ [op], by rw [split, List.append_assoc], fun x hx => ?_, ended, ?_⟩
      · rcases List.mem_append.mp hx with hx | hx
        · exact quiet x hx
        · exact List.mem_singleton.mp hx ▸ hidden
      · rw [last, kept, seen]
    · exact ⟨ops ++ [op], [], (List.append_nil _).symm, List.forall_mem_nil _,
        .inr ⟨ops, op, rfl, shows_⟩, by rw [last, now]⟩

/-- What readers see of a table is its state at the last operation that shows it to them. -/
theorem seen_after {view : HopTable → Snapshot} {Shows : Operation → Prop}
    (first : ∀ c, view (new c) = (new c).state.snapshot)
    (step : ∀ t op, (¬ Shows op ∧ view (op.perform t) = view t) ∨
      (Shows op ∧ view (op.perform t) = (op.perform t).state.snapshot))
    (c : Config) (ops : List Operation) :
    ∃ before unseen, ops = before ++ unseen ∧ (∀ op ∈ unseen, ¬ Shows op) ∧
      view (after c ops) = (after c before).state.snapshot := by
  obtain ⟨before, unseen, split, quiet, -, seen⟩ :=
    shown_after view (fun t => t.state.snapshot) first step c ops
  exact ⟨before, unseen, split, quiet, seen⟩

/-- Whatever is done to a table, its state is the count of the events in all operations, and so is
the snapshot that shows it. Readers see the count of all events but those that are not published,
and that of all events up to the last complete round. -/
theorem tallies_after (c : Config) (ops : List Operation) :
    (after c ops).state.Tallies c (events ops) ∧
    (∀ flow, (after c ops).targetTtl flow = (arrivals c flow (events ops)).min?) ∧
    (after c ops).publish.latest.Tallies c (events ops) ∧
    (∃ before unseen, ops = before ++ unseen ∧ (∀ op ∈ unseen, ¬ op.Publishes) ∧
      (after c ops).latest.Tallies c (events before)) ∧
    ∃ before unseen, ops = before ++ unseen ∧ (∀ op ∈ unseen, ¬ op.EndsRound) ∧
      (after c ops).lastRound.Tallies c (events before) := by
  have state (ops : List Operation) : (after c ops).state.Tallies c (events ops) :=
    (applies_after c ops).tallies (HopState.tallies_foldl c (events ops))
  obtain ⟨before, unseen, split, quiet, latest⟩ :=
    seen_after (fun _ => rfl) latest_perform c ops
  obtain ⟨before', unseen', split', quiet', lastRound⟩ :=
    seen_after (fun _ => rfl) lastRound_perform c ops
  exact ⟨state ops, (state ops).targetTtl, (state ops).snapshot,
    ⟨before, unseen, split, quiet, latest ▸ (state before).snapshot⟩,
    ⟨before', unseen', split', quiet', lastRound ▸ (state before').snapshot⟩⟩

end HopTable

end FlowTrace
