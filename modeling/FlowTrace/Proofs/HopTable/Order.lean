import FlowTrace.Proofs.HopTable.Tally

/-!
# Events in another order

Several tasks write to a hop table, so the same events may come in many orders.

- **Steps that commute** (`foldl_eq_of_perm`): steps may be taken in any order that keeps the order
  of those with a key in common.
- **Records** (`Event.record_comm`): two events change a record in either order, unless both are
  answers.
- **Rows** (`FlowRow.absorb_comm`) and **states** (`HopState.apply_comm`): two events change the
  table in either order, unless both are answers of one cell.
- **Main result** (`HopTable.agrees_of_order`): the table is the same after all orders of some
  events that keep the order of the answers of each cell, whatever batches they come in.
-/

namespace FlowTrace

/-! ## Steps that commute -/

section Steps

variable {σ α κ : Type} [DecidableEq κ] {step : σ → α → σ}

/-- A step moves to the front of steps that it commutes with. -/
theorem foldl_move {inv : σ → Prop} (kept : ∀ s a, inv s → inv (step s a)) {a : α} {before : List α}
    (comm : ∀ s, inv s → ∀ b ∈ before, step (step s b) a = step (step s a) b) (after : List α)
    {s : σ} (hs : inv s) :
    (before ++ a :: after).foldl step s = (a :: (before ++ after)).foldl step s := by
  induction before generalizing s with
  | nil => rfl
  | cons b before ih =>
    have rest := ih (fun s hs c hc => comm s hs c (List.mem_cons_of_mem _ hc)) (kept s b hs)
    rw [List.cons_append, List.foldl_cons, rest, List.foldl_cons,
      comm s hs b List.mem_cons_self]
    rfl

/-- Steps that commute, unless they have a key in common, end in the same state in all orders that
keep the order of the steps of each key. -/
theorem foldl_eq_of_perm (inv : σ → Prop) (key : α → Option κ)
    (kept : ∀ s a, inv s → inv (step s a))
    (comm : ∀ s a b, inv s → (∀ k, key a = some k → key b ≠ some k) →
      step (step s b) a = step (step s a) b)
    {l l' : List α} (perm : l.Perm l')
    (order : ∀ k, l.filter (key · = some k) = l'.filter (key · = some k)) {s : σ} (hs : inv s) :
    l.foldl step s = l'.foldl step s := by
  induction l generalizing l' s with
  | nil => rw [perm.nil_eq]
  | cons a l ih =>
    obtain ⟨before, after, rfl, first⟩ :=
      List.eq_append_cons_of_mem (perm.subset List.mem_cons_self)
    -- The first step with the key of `a` is `a` itself, in both orders.
    have free (b : α) (hb : b ∈ before) (k : κ) (ha : key a = some k) : key b ≠ some k := by
      intro hk
      have hsame := order k
      obtain ⟨c, rest, split⟩ := List.exists_cons_of_ne_nil (List.ne_nil_of_mem
        (List.mem_filter.mpr ⟨hb, decide_eq_true hk⟩ : b ∈ before.filter (key · = some k)))
      rw [List.filter_cons_of_pos (by simpa using ha), List.filter_append, split,
        List.cons_append] at hsame
      have hc : c ∈ before.filter (key · = some k) := split ▸ List.mem_cons_self
      exact first ((List.cons.inj hsame).1 ▸ (List.mem_filter.mp hc).1)
    rw [foldl_move kept (fun s hs b hb => comm s a b hs (free b hb)) after hs, List.foldl_cons,
      List.foldl_cons]
    refine ih (List.Perm.cons_inv (perm.trans List.perm_middle)) (fun k => ?_) (kept s a hs)
    have hsame := order k
    by_cases ha : key a = some k
    · have none : before.filter (key · = some k) = [] :=
        List.filter_eq_nil_iff.mpr fun b hb => by simpa using free b hb k ha
      simpa [List.filter_append, none, ha] using hsame
    · simpa [List.filter_append, ha] using hsame

end Steps

/-- Two entries are changed in either order, or one entry by changes that commute. -/
theorem modify_comm {α : Type} {l : List α} {i j : Nat} {f g : α → α}
    (h : i = j → ∀ a ∈ l[i]?, g (f a) = f (g a)) :
    (l.modify i f).modify j g = (l.modify j g).modify i f := by
  refine List.ext_getElem? fun k => ?_
  simp only [List.getElem?_modify]
  cases hk : l[k]? with
  | none => rfl
  | some a =>
    by_cases hi : i = k
    · by_cases hj : j = k
      · simp [hi, hj, h (hi.trans hj.symm) a (hi ▸ hk)]
      · simp [hi, hj]
    · simp [hi]

/-! ## Records -/

namespace HopRecord

theorem markNat_recordSent (h : HopRecord) (change : FieldChange) :
    h.recordSent.markNat change = (h.markNat change).recordSent := by
  cases detected : h.natDetected <;> simp [markNat, recordSent, detected]

theorem markNat_recordTimeout (h : HopRecord) (change : FieldChange) :
    h.recordTimeout.markNat change = (h.markNat change).recordTimeout := by
  cases detected : h.natDetected <;> simp [markNat, recordTimeout, detected]

end HopRecord

namespace HopState

/-- A change that commutes with each part of an answer commutes with the answer. -/
theorem answerHop_comm {g : HopRecord → HopRecord}
    (answer : ∀ h addr rtt kind round,
      (g h).recordAnswer addr rtt kind round = g (h.recordAnswer addr rtt kind round))
    (mark : ∀ h change, (g h).markNat change = g (h.markNat change))
    (label : ∀ h labels, (g h).setMpls labels = g (h.setMpls labels))
    (a : Answer) (h : HopRecord) : answerHop a (g h) = g (answerHop a h) := by
  simp only [answerHop, answer]
  cases a.nat with
  | none =>
    cases a.mpls with
    | none => rfl
    | some labels => exact label _ labels
  | some change =>
    simp only [Option.elim_some, mark]
    cases a.mpls with
    | none => rfl
    | some labels => exact label _ labels

theorem answerHop_recordSent (a : Answer) (h : HopRecord) :
    answerHop a h.recordSent = (answerHop a h).recordSent :=
  answerHop_comm (fun _ _ _ _ _ => rfl) HopRecord.markNat_recordSent (fun _ _ => rfl) a h

theorem answerHop_recordTimeout (a : Answer) (h : HopRecord) :
    answerHop a h.recordTimeout = (answerHop a h).recordTimeout :=
  answerHop_comm (fun _ _ _ _ _ => rfl) HopRecord.markNat_recordTimeout (fun _ _ => rfl) a h

end HopState

/-- The cell whose answer an event is. -/
def Event.answeredCell? : Event → Option (UInt16 × UInt8)
  | .answered a => some (a.flow, a.ttl)
  | _ => none

/-- The answers of a cell in order. -/
def answersAt (flow : UInt16) (ttl : UInt8) (es : List Event) : List Event :=
  es.filter (·.answeredCell? = some (flow, ttl))

/-- Two events change a record in either order, unless both are answers. -/
theorem Event.record_comm {a b : Event} (h : a.answeredCell? = none ∨ b.answeredCell? = none)
    (r : HopRecord) : b.record (a.record r) = a.record (b.record r) := by
  cases a <;> cases b <;>
    first
    | rfl
    | exact HopState.answerHop_recordSent ..
    | exact HopState.answerHop_recordTimeout ..
    | exact (HopState.answerHop_recordSent ..).symm
    | exact (HopState.answerHop_recordTimeout ..).symm
    | simp [Event.answeredCell?] at h

theorem Counters.count_comm (c : Counters) (a b : Event) :
    (c.count a).count b = (c.count b).count a := by
  cases a <;> cases b <;> rfl

/-! ## Rows -/

namespace FlowRow

/-- A row after an event about one of its hops, at which the target may have answered. -/
def absorb (row : FlowRow) (ttl : UInt8) (f : HopRecord → HopRecord) (reached : Bool) : FlowRow :=
  if reached then (row.modifyHop ttl f).reach ttl else row.modifyHop ttl f

variable {row : FlowRow} {t t' : UInt8} {f f' : HopRecord → HopRecord} {reached reached' : Bool}

theorem hops_absorb : (row.absorb t f reached).hops =
    if t = 0 then row.hops else row.hops.modify (t.toNat - 1) f := by
  unfold absorb modifyHop
  split <;> split <;> rfl

theorem targetTtl_absorb : (row.absorb t f reached).targetTtl =
    if reached then some (row.targetTtl.elim t fun least => if least ≤ t then least else t)
    else row.targetTtl := by
  unfold absorb modifyHop
  split <;> split <;> rfl

/-- The least of two hop limits and the one so far does not depend on their order. -/
theorem least_comm (least : Option UInt8) (t t' : UInt8) :
    (some (least.elim t fun l => if l ≤ t then l else t)).elim t'
        (fun l => if l ≤ t' then l else t') =
      (some (least.elim t' fun l => if l ≤ t' then l else t')).elim t
        fun l => if l ≤ t then l else t := by
  cases least with
  | none =>
    simp only [Option.elim_none, Option.elim_some, UInt8.le_iff_toNat_le]
    split <;> split <;> first | rfl | exact UInt8.toNat_inj.mp (by omega)
  | some l =>
    simp only [Option.elim_some]
    grind

theorem eq_of_fields {r r' : FlowRow} (hops : r.hops = r'.hops)
    (targetTtl : r.targetTtl = r'.targetTtl) : r = r' := by
  cases r
  cases r'
  exact congrArg₂ FlowRow.mk hops targetTtl

/-- Two events change a row in either order, if they change each record so. -/
theorem absorb_comm (h : t = t' → t ≠ 0 → ∀ r ∈ row.hops[t.toNat - 1]?, f' (f r) = f (f' r)) :
    (row.absorb t f reached).absorb t' f' reached' =
      (row.absorb t' f' reached').absorb t f reached := by
  refine eq_of_fields ?_ ?_
  · simp only [hops_absorb]
    split <;> split <;> try rfl
    rename_i ht' ht
    exact modify_comm fun hsame => h (HopState.ttl_of_index ht ht' hsame) ht
  · simp only [targetTtl_absorb]
    cases reached <;> cases reached' <;> try rfl
    exact congrArg some (least_comm ..)

end FlowRow

/-! ## States -/

namespace HopState

/-- The target answers in a cell of the table. -/
def reaches (s : HopState) : Event → Bool
  | .answered a => decide (s.HasCell a.flow a.ttl ∧ a.responder = s.target)
  | _ => false

/-- The rows after an event: the one of its cell takes it up. -/
def rowsAfter (s : HopState) (e : Event) : List FlowRow :=
  match e.cell? with
  | none => s.rows
  | some (flow, ttl) => s.rows.modify flow.toNat (·.absorb ttl e.record (s.reaches e))

/-- An event is counted and taken up by the row of its cell. -/
theorem apply_eq (s : HopState) (e : Event) :
    s.apply e = { s with counters := s.counters.count e, rows := s.rowsAfter e } := by
  cases e with
  | answered a =>
    have here : HasCell { s with counters := s.counters.count (.answered a) } a.flow a.ttl ↔
      s.HasCell a.flow a.ttl := Iff.rfl
    simp only [apply, rowsAfter, Event.cell?, reaches, here, FlowRow.absorb, decide_eq_true_eq]
    split
    · simp only [modifyCell, modifyRow, List.modify_modify_eq]
      rfl
    · rfl
  | _ => rfl

variable (s : HopState)

theorem reaches_apply (a b : Event) : (s.apply a).reaches b = s.reaches b := by
  have hsame (flow : UInt16) (ttl : UInt8) : (s.apply a).HasCell flow ttl ↔ s.HasCell flow ttl := by
    rw [HasCell, HasCell, length_rows_apply, (frames_apply s a).maxTtl]
  cases b with
  | answered b => simp only [reaches, hsame, (frames_apply s a).target]
  | _ => rfl

theorem rows_apply (e : Event) : (s.apply e).rows = s.rowsAfter e := by rw [apply_eq]

/-- An answer changes the record of its cell. -/
theorem cell?_of_answeredCell? {e : Event} {cell : UInt16 × UInt8}
    (h : e.answeredCell? = some cell) : e.cell? = some cell := by
  cases e <;> first | exact h | cases h

/-- Two events change the table in either order, unless both answer in one cell of it. -/
theorem apply_comm {a b : Event} (free : ∀ flow ttl, a.answeredCell? = some (flow, ttl) →
      b.answeredCell? = some (flow, ttl) → s.cell? flow ttl = none) :
    (s.apply a).apply b = (s.apply b).apply a := by
  have rows : (s.apply a).rowsAfter b = (s.apply b).rowsAfter a := by
    simp only [rowsAfter, reaches_apply, rows_apply]
    cases ha : a.cell? with
    | none => rfl
    | some cell =>
      obtain ⟨flow, ttl⟩ := cell
      cases hb : b.cell? with
      | none => rfl
      | some cell' =>
        obtain ⟨flow', ttl'⟩ := cell'
        refine modify_comm fun hflow row hrow => FlowRow.absorb_comm fun httl hpos r hr => ?_
        refine Event.record_comm ?_ r
        -- Both events answer in one cell, which `free` excludes.
        by_contra both
        obtain ⟨hna, hnb⟩ := not_or.mp both
        obtain ⟨ca, hca⟩ := Option.ne_none_iff_exists'.mp hna
        obtain ⟨cb, hcb⟩ := Option.ne_none_iff_exists'.mp hnb
        obtain rfl := Option.some.inj ((cell?_of_answeredCell? hca).symm.trans ha)
        obtain rfl := Option.some.inj ((cell?_of_answeredCell? hcb).symm.trans hb)
        obtain rfl := UInt16.toNat_inj.mp hflow
        subst httl
        have none := free flow ttl hca hcb
        rw [cell?, if_neg hpos, Option.mem_def.mp hrow, Option.bind_some,
          Option.mem_def.mp hr] at none
        cases none
  rw [apply_eq (s.apply a), apply_eq (s.apply b), rows, counters_apply, counters_apply,
    Counters.count_comm, apply_eq s a, apply_eq s b]

/-- All orders of some events that keep the order of the answers in each cell end in the same
state. -/
theorem foldl_apply_of_order {es es' : List Event} (perm : es.Perm es')
    (order : ∀ flow ttl, s.cell? flow ttl ≠ none → answersAt flow ttl es = answersAt flow ttl es') :
    es.foldl apply s = es'.foldl apply s := by
  -- Answers without a cell leave no record, so that they need not keep their order and have no key.
  let key (e : Event) : Option (UInt16 × UInt8) :=
    e.answeredCell?.filter fun cell => (s.cell? cell.1 cell.2).isSome
  have key_iff (e : Event) (flow : UInt16) (ttl : UInt8) : key e = some (flow, ttl) ↔
      e.answeredCell? = some (flow, ttl) ∧ (s.cell? flow ttl).isSome :=
    Option.filter_eq_some_iff
  refine foldl_eq_of_perm
    (fun s' : HopState => ∀ flow ttl, s'.cell? flow ttl = none ↔ s.cell? flow ttl = none) key
    (fun s' a hsame flow ttl => ?_) (fun s' a b hsame apart => ?_) perm (fun k => ?_)
    fun _ _ => Iff.rfl
  · rw [cell?_apply, Option.map_eq_none_iff]
    exact hsame flow ttl
  · refine apply_comm s' fun flow ttl hb ha => (hsame flow ttl).mpr ?_
    by_contra here
    have some_ := Option.isSome_iff_ne_none.mpr here
    exact apart (flow, ttl) ((key_iff a flow ttl).mpr ⟨ha, some_⟩)
      ((key_iff b flow ttl).mpr ⟨hb, some_⟩)
  · obtain ⟨flow, ttl⟩ := k
    simp only [key_iff]
    cases hc : s.cell? flow ttl with
    | none => simp
    | some h =>
      simpa [answersAt] using order flow ttl (by simp [hc])

end HopState

/-! ## Operations -/

namespace HopTable

/-- The operation writes events and does nothing else. -/
def Operation.Writes : Operation → Prop
  | .apply _ | .record _ | .recordSent .. => True
  | _ => False

/-- Writing is applying events. -/
theorem run_of_writes {ops : List Operation} (h : ∀ op ∈ ops, op.Writes) (t : HopTable) :
    (t.run ops).state = (events ops).foldl HopState.apply t.state ∧
      (t.run ops).lastRound = t.lastRound := by
  induction ops generalizing t with
  | nil => exact ⟨rfl, rfl⟩
  | cons op ops ih =>
    obtain ⟨state, lastRound⟩ := ih (fun x hx => h x (List.mem_cons_of_mem _ hx)) (op.perform t)
    have one : (op.perform t).state = op.events.foldl HopState.apply t.state ∧
        (op.perform t).lastRound = t.lastRound := by
      have writes := h op List.mem_cons_self
      cases op <;> first | exact ⟨rfl, rfl⟩ | exact writes.elim
    rw [one.1, ← List.foldl_append] at state
    exact ⟨state, lastRound.trans one.2⟩

/-- The records, the targets and the counters of a table are the same after all orders of some
events that keep the order of the answers in each cell, whatever batches the events come in and
whatever else is done between them. If nothing else is done, the tables are the same once they are
published. -/
theorem agrees_of_order (t : HopTable) {ops ops' : List Operation}
    (perm : (events ops).Perm (events ops'))
    (order : ∀ flow ttl, t.state.cell? flow ttl ≠ none →
      answersAt flow ttl (events ops) = answersAt flow ttl (events ops')) :
    (t.run ops).state.Agrees (t.run ops').state ∧
      ((∀ op ∈ ops, op.Writes) → (∀ op ∈ ops', op.Writes) →
        (t.run ops).state = (t.run ops').state ∧ (t.run ops).publish = (t.run ops').publish) := by
  have hsame := HopState.foldl_apply_of_order t.state perm order
  refine ⟨?_, fun writes writes' => ?_⟩
  · have first := applies_run t ops
    have second := applies_run t ops'
    rw [Applies, ← hsame] at second
    exact ⟨first.target.trans second.target.symm, first.maxTtl.trans second.maxTtl.symm,
      first.rows.trans second.rows.symm, first.counters.trans second.counters.symm⟩
  · obtain ⟨state, lastRound⟩ := run_of_writes writes t
    obtain ⟨state', lastRound'⟩ := run_of_writes writes' t
    have states : (t.run ops).state = (t.run ops').state := by rw [state, state', hsame]
    exact ⟨states, by rw [publish, publish, states, lastRound, lastRound']⟩

/-- A table of one flow with three hops. -/
def threeHops : Config := { Config.standard (.ofOctets4 192 0 2 1) .icmp 7 with maxTtl := 3 }

/-- An answer from a host of the network of the target. -/
def answerFrom (flow : UInt16) (ttl host : UInt8) (nat : Option FieldChange) : Event :=
  .answered ⟨flow, ttl, 0, .ofOctets4 192 0 2 host, .ofMillis 5, .timeExceeded 0, nat, none⟩

/-- Two answers of the first hop, the second of them with evidence of a NAT, the target at the
second and at the third hop, and two answers of a flow that the table does not have. -/
def firstOrder : List Operation :=
  [.apply [.sent 0 1, answerFrom 0 1 7 none, answerFrom 0 3 1 none, answerFrom 9 1 7 none],
    .apply [answerFrom 0 1 8 (some (.srcPort 1 2)), .timedOut 0 2 0, answerFrom 9 1 8 none],
    .record (answerFrom 0 2 1 none)]

def secondOrder : List Operation :=
  [.apply [answerFrom 9 1 8 none, answerFrom 0 2 1 none, answerFrom 0 1 7 none], .recordSent 0 1,
    .record (answerFrom 0 1 8 (some (.srcPort 1 2))),
    .apply [answerFrom 0 3 1 none, answerFrom 9 1 7 none, .timedOut 0 2 0]]

/-- Both orders end in the same table. -/
theorem agrees_threeHops : ((events firstOrder).Perm (events secondOrder) ∧
      ∀ flow ttl, (new threeHops).state.cell? flow ttl ≠ none →
        answersAt flow ttl (events firstOrder) = answersAt flow ttl (events secondOrder)) ∧
    ((new threeHops).run firstOrder).publish = ((new threeHops).run secondOrder).publish := by
  have perm : (events firstOrder).Perm (events secondOrder) := by decide
  have order (flow : UInt16) (ttl : UInt8) (here : (new threeHops).state.cell? flow ttl ≠ none) :
      answersAt flow ttl (events firstOrder) = answersAt flow ttl (events secondOrder) := by
    have inside : ¬ (9 = flow ∧ 1 = ttl) := by
      rintro ⟨rfl, rfl⟩
      exact here rfl
    by_cases first : 0 = flow ∧ 1 = ttl
    · obtain ⟨rfl, rfl⟩ := first
      decide
    · by_cases second : 0 = flow ∧ 2 = ttl
      · obtain ⟨rfl, rfl⟩ := second
        decide
      · simp [answersAt, events, firstOrder, secondOrder, Operation.events, answerFrom,
          Event.answeredCell?, List.filter_cons, inside, first, second]
  refine ⟨⟨perm, order⟩, ((agrees_of_order _ perm order).2 ?_ ?_).2⟩
  · simp [firstOrder, Operation.Writes]
  · simp [secondOrder, Operation.Writes]

end HopTable

end FlowTrace
