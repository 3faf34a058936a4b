import FlowTrace.Proofs.HopRecord
import FlowTrace.Proofs.HopTable.Tally

/-!
# What readers see moves forward

- **Records** (`HopRecord.Precedes`): counts grow, responders stay in their places, evidence of a
  NAT stays as it is. Every operation on a record moves it forward (`precedes_perform`).
- **Cells** (`HopRecord.ofEvents_eq_after`): an event does to a record what a few operations do
  (`Event.operations`).
- **Snapshots** (`Snapshot.Tallies.precedes`): a snapshot that counts more events is a later one.
- **Readers** (`HopTable.Lags`): they see the count of a first part of all events, and of no shorter
  one after any operation (`Lags.perform`, `Lags.run`).
- **Main result** (`HopTable.latest_precedes`): of two published snapshots the later one has moved
  forward, and the snapshot of the last round is one of those that were published, replaced at the
  end of a round only.
-/

namespace FlowTrace

/-! ## Records -/

/-- A responder, and the round in which it was first seen. -/
def ResponderStats.origin (s : ResponderStats) : Address × UInt32 := (s.addr, s.firstRound)

namespace HopRecord

/-- The second record is the first one some operations later. -/
structure Precedes (h h' : HopRecord) : Prop where
  ttl : h'.ttl = h.ttl
  sent : h.sent ≤ h'.sent
  received : h.received ≤ h'.received
  timeouts : h.timeouts ≤ h'.timeouts
  /-- Responders stay in their places. -/
  responders : h.responders.map (·.origin) <+: h'.responders.map (·.origin)
  /-- Evidence of a NAT stays as it is. -/
  nat : h.natDetected = true ∨ h.natReason ≠ none →
    h'.natDetected = h.natDetected ∧ h'.natReason = h.natReason

theorem Precedes.refl (h : HopRecord) : h.Precedes h :=
  ⟨rfl, Nat.le_refl _, Nat.le_refl _, Nat.le_refl _, List.prefix_refl _, fun _ => ⟨rfl, rfl⟩⟩

theorem Precedes.trans {h h' h'' : HopRecord} (first : h.Precedes h') (next : h'.Precedes h'') :
    h.Precedes h'' where
  ttl := next.ttl.trans first.ttl
  sent := Nat.le_trans first.sent next.sent
  received := Nat.le_trans first.received next.received
  timeouts := Nat.le_trans first.timeouts next.timeouts
  responders := first.responders.trans next.responders
  nat set_ := by
    obtain ⟨detected, reason⟩ := first.nat set_
    obtain ⟨detected', reason'⟩ := next.nat (by rwa [detected, reason])
    exact ⟨detected'.trans detected, reason'.trans reason⟩

/-- An answer leaves the responders before it in their places. -/
theorem origin_answerBy (addr : Address) (rtt : Duration) (round : UInt32)
    (l : List ResponderStats) :
    l.map (·.origin) <+: (answerBy addr rtt round l).map (·.origin) := by
  induction l with
  | nil => exact List.nil_prefix
  | cons s rest ih =>
    rw [answerBy]
    split
    · exact List.prefix_refl _
    · exact (List.prefix_cons_inj s.origin).mpr ih

/-- Every operation moves a record forward. -/
theorem precedes_perform {h : HopRecord} (kept : h.natDetected = h.natReason.isSome)
    (op : Operation) : h.Precedes (op.perform h) := by
  have hsame := Precedes.refl h
  cases op with
  | sent => exact { hsame with sent := Nat.le_succ _ }
  | timeout => exact { hsame with timeouts := Nat.le_succ _ }
  | mpls labels => exact { hsame with }
  | answer r =>
    exact { hsame with received := Nat.le_succ _, responders := origin_answerBy .. }
  | nat change =>
    show h.Precedes (h.markNat change)
    unfold markNat
    split
    · exact hsame
    · rename_i undetected
      refine { hsame with nat := fun set_ => absurd (set_.elim id fun reason => ?_) undetected }
      rw [kept]
      exact Option.isSome_iff_ne_none.mpr reason

theorem precedes_after (ttl : UInt8) (ops more : List Operation) :
    (after ttl ops).Precedes (after ttl (ops ++ more)) := by
  induction more using List.reverseRecOn with
  | nil =>
    rw [List.append_nil]
    exact Precedes.refl _
  | append_singleton more op ih =>
    rw [← List.append_assoc, after_concat]
    exact ih.trans (precedes_perform (follows_after ttl (ops ++ more)).natDetected op)

end HopRecord

/-! ## Cells -/

/-- What an event does to the record of its cell. -/
def Event.operations : Event → List HopRecord.Operation
  | .sent .. => [.sent]
  | .answered a => .answer ⟨a.responder, a.rtt, a.kind, a.round⟩ ::
    (a.nat.toList.map .nat ++ a.mpls.toList.map .mpls)
  | .timedOut .. => [.timeout]
  | _ => []

theorem Event.record_eq (e : Event) (h : HopRecord) :
    e.record h = e.operations.foldl (fun h op => op.perform h) h := by
  cases e with
  | answered a =>
    rw [record, HopState.answerHop, operations]
    cases a.nat <;> cases a.mpls <;> rfl
  | _ => rfl

/-- A record is one after the operations in the events about its cell. -/
theorem HopRecord.ofEvents_eq_after (flow : UInt16) (ttl : UInt8) (es : List Event) :
    ofEvents flow ttl es = after ttl ((eventsAt flow ttl es).flatMap Event.operations) := by
  rw [ofEvents, after, List.foldl_flatMap]
  simp only [Event.record_eq]

theorem HopRecord.precedes_ofEvents (flow : UInt16) (ttl : UInt8) {es es' : List Event}
    (part : es <+: es') : (ofEvents flow ttl es).Precedes (ofEvents flow ttl es') := by
  obtain ⟨more, rfl⟩ := part
  rw [ofEvents_eq_after, ofEvents_eq_after, eventsAt, eventsAt, List.filter_append,
    List.flatMap_append]
  exact precedes_after ..

/-! ## Snapshots -/

/-- The second snapshot of a flow is a later one. -/
structure FlowSnapshot.Precedes (f f' : FlowSnapshot) : Prop where
  flow : f'.flow = f.flow
  reached : f.targetReached = true → f'.targetReached = true
  targetTtl : ∀ ttl ∈ f.targetTtl, ∃ ttl' ∈ f'.targetTtl, ttl' ≤ ttl
  hops : ∀ ttl h h', f.hop ttl = some h → f'.hop ttl = some h' → h.Precedes h'

/-- The second snapshot is a later one. -/
structure Snapshot.Precedes (s s' : Snapshot) : Prop where
  counters : ∀ k, s.counters.of k ≤ s'.counters.of k
  roundsCompleted : s.roundsCompleted ≤ s'.roundsCompleted
  flows : ∀ flow f, s.flow flow = some f → ∃ f', s'.flow flow = some f' ∧ f.Precedes f'

/-- The target does not get farther away. -/
theorem arrivals_min_le (c : Config) (flow : UInt16) {es es' : List Event} (part : es <+: es')
    {ttl : UInt8} (h : (arrivals c flow es).min? = some ttl) :
    ∃ ttl', (arrivals c flow es').min? = some ttl' ∧ ttl' ≤ ttl := by
  have mem := (part.filterMap (Event.arrival? c flow)).subset (List.min?_mem h)
  obtain ⟨ttl', least⟩ := Option.isSome_iff_exists.mp
    (List.isSome_min?_of_mem (mem : ttl ∈ arrivals c flow es'))
  exact ⟨ttl', least, (List.min?_eq_some_iff.mp least).2 ttl mem⟩

/-- A hop that a flow shows is the record of its cell. -/
theorem FlowSnapshot.eq_of_hop {c : Config} {es : List Event} {i : Nat} {ttl : UInt8}
    {h : HopRecord} (hop : (ofEvents c es i).hop ttl = some h) :
    h = HopRecord.ofEvents (.ofNat i) ttl es := by
  unfold FlowSnapshot.hop at hop
  split at hop
  · cases hop
  · rename_i pos
    obtain ⟨j, hj, rfl⟩ := Option.map_eq_some_iff.mp ((List.getElem?_map ..).symm.trans hop)
    obtain ⟨-, rfl⟩ := List.getElem?_eq_some_iff.mp hj
    rw [List.getElem_range, Nat.sub_add_cancel (HopState.one_le_toNat pos), UInt8.ofNat_toNat]

theorem FlowSnapshot.precedes_ofEvents (c : Config) (i : Nat) {es es' : List Event}
    (part : es <+: es') : (ofEvents c es i).Precedes (ofEvents c es' i) where
  flow := rfl
  reached found := by
    obtain ⟨ttl, least⟩ := Option.isSome_iff_exists.mp found
    obtain ⟨ttl', least', -⟩ := arrivals_min_le c _ part least
    exact Option.isSome_iff_exists.mpr ⟨ttl', least'⟩
  targetTtl ttl least := arrivals_min_le c _ part least
  hops ttl h h' hop hop' := by
    rw [eq_of_hop hop, eq_of_hop hop']
    exact HopRecord.precedes_ofEvents _ ttl part

/-- A snapshot that counts more events is a later one. -/
theorem Snapshot.Tallies.precedes {s s' : Snapshot} {c : Config} {es es' : List Event}
    (h : s.Tallies c es) (h' : s'.Tallies c es') (part : es <+: es')
    (rounds : s.roundsCompleted ≤ s'.roundsCompleted) : s.Precedes s' where
  counters k := by
    rw [h.counters, h'.counters]
    exact part.sublist.countP_le
  roundsCompleted := rounds
  flows flow f hf := by
    rw [Snapshot.flow, h.flows] at hf
    obtain ⟨i, hi, rfl⟩ := Option.map_eq_some_iff.mp ((List.getElem?_map ..).symm.trans hf)
    refine ⟨_, ?_, FlowSnapshot.precedes_ofEvents c i part⟩
    rw [Snapshot.flow, h'.flows, List.getElem?_map, hi, Option.map_some]

/-! ## Readers -/

namespace HopTable

theorem roundsCompleted_perform (t : HopTable) (op : Operation) :
    t.state.roundsCompleted ≤ (op.perform t).state.roundsCompleted := by
  cases op with
  | apply es => exact UInt32.le_of_eq (HopState.frames_foldl t.state es).roundsCompleted.symm
  | record e => exact UInt32.le_of_eq (HopState.frames_foldl t.state [e]).roundsCompleted.symm
  | recordSent flow ttl =>
    exact UInt32.le_of_eq (HopState.frames_apply t.state (.sent flow ttl)).roundsCompleted.symm
  | publish | beginRound => exact UInt32.le_refl _
  | completeRound round =>
    show _ ≤ if t.state.roundsCompleted ≤ round + 1 then round + 1 else t.state.roundsCompleted
    split
    · assumption
    · exact UInt32.le_refl _
  | setStatus status =>
    show _ ≤ (t.setStatus status).state.roundsCompleted
    unfold HopTable.setStatus
    split <;> exact UInt32.le_refl _

/-- After some operations, readers see the count of a first part of all events. -/
structure Lags (c : Config) (ops : List Operation) (seen : List Event) : Prop where
  part : seen <+: events ops
  tallies : (after c ops).latest.Tallies c seen
  rounds : (after c ops).latest.roundsCompleted ≤ (after c ops).state.roundsCompleted

variable {c : Config} {ops : List Operation} {seen : List Event}

theorem after_concat (c : Config) (ops : List Operation) (op : Operation) :
    after c (ops ++ [op]) = op.perform (after c ops) := List.foldl_concat ..

theorem snapshot_after (c : Config) (ops : List Operation) :
    (after c ops).state.snapshot.Tallies c (events ops) :=
  (tallies_of_applies (applies_after c ops)).snapshot

theorem lags_new (c : Config) : Lags c [] [] :=
  ⟨List.prefix_refl _, snapshot_after c [], UInt32.le_refl _⟩

/-- One more operation does not show less to readers. -/
theorem Lags.perform (h : Lags c ops seen) (op : Operation) :
    ∃ seen', seen <+: seen' ∧ Lags c (ops ++ [op]) seen' ∧
      (after c ops).latest.roundsCompleted ≤ (after c (ops ++ [op])).latest.roundsCompleted := by
  have more : events (ops ++ [op]) = events ops ++ op.events := by simp [events]
  have all : seen <+: events (ops ++ [op]) := more ▸ h.part.trans (List.prefix_append ..)
  have rounds := UInt32.le_trans h.rounds (roundsCompleted_perform (after c ops) op)
  rcases latest_perform (after c ops) op with ⟨-, kept⟩ | ⟨-, shown⟩
  · rw [← after_concat] at kept rounds
    refine ⟨seen, List.prefix_refl _, ⟨all, kept ▸ h.tallies, kept ▸ rounds⟩, ?_⟩
    rw [kept]
    exact UInt32.le_refl _
  · rw [← after_concat] at shown rounds
    refine ⟨events (ops ++ [op]), all, ⟨List.prefix_refl _, ?_, ?_⟩, ?_⟩
    · rw [shown]
      exact snapshot_after c (ops ++ [op])
    · rw [shown]
      exact UInt32.le_refl _
    · rw [shown]
      exact rounds

/-- No more operations do. -/
theorem Lags.run (h : Lags c ops seen) (more : List Operation) :
    ∃ seen', seen <+: seen' ∧ Lags c (ops ++ more) seen' ∧
      (after c ops).latest.roundsCompleted ≤ (after c (ops ++ more)).latest.roundsCompleted := by
  induction more using List.reverseRecOn with
  | nil => exact ⟨seen, List.prefix_refl _, (List.append_nil ops).symm ▸ h,
      (List.append_nil ops).symm ▸ UInt32.le_refl _⟩
  | append_singleton more op ih =>
    obtain ⟨seen', part, lags, rounds⟩ := ih
    obtain ⟨seen'', part', lags', rounds'⟩ := lags.perform op
    rw [← List.append_assoc]
    exact ⟨seen'', part.trans part', lags', UInt32.le_trans rounds rounds'⟩

/-! ## Complete rounds -/

theorem lastRound_of_endsRound (t : HopTable) {op : Operation} (h : op.EndsRound) :
    (op.perform t).lastRound = (op.perform t).latest := by
  cases op with
  | completeRound => rfl
  | setStatus status =>
    cases status with
    | terminated => rfl
    | running | draining => exact h.elim
  | _ => exact h.elim

/-- Nothing but the end of a round replaces the snapshot of the last round. -/
theorem lastRound_run (c : Config) (ops : List Operation) {more : List Operation}
    (quiet : ∀ op ∈ more, ¬ op.EndsRound) :
    (after c (ops ++ more)).lastRound = (after c ops).lastRound := by
  induction more using List.reverseRecOn with
  | nil => rw [List.append_nil]
  | append_singleton more op ih =>
    rw [← List.append_assoc, after_concat]
    rcases lastRound_perform (after c (ops ++ more)) op with ⟨-, kept⟩ | ⟨ends, -⟩
    · exact kept.trans (ih fun x hx => quiet x (List.mem_append_left _ hx))
    · exact absurd ends (quiet op (List.mem_append_right _ List.mem_cons_self))

/-- The snapshot of the last round was published when this round ended. -/
theorem lastRound_after (c : Config) (ops : List Operation) :
    ∃ before unseen, ops = before ++ unseen ∧ (∀ op ∈ unseen, ¬ op.EndsRound) ∧
      (before = [] ∨ ∃ first op, before = first ++ [op] ∧ op.EndsRound) ∧
      (after c ops).lastRound = (after c before).latest :=
  shown_after HopTable.lastRound HopTable.latest (fun _ => rfl)
    (fun t op => (lastRound_perform t op).imp_right fun ended =>
      ⟨ended.1, lastRound_of_endsRound t ended.1⟩) c ops

/-- Of two published snapshots the later one has moved forward. The snapshot of the last round was
published when a round ended or the table was new, and only the end of a round replaces it. -/
theorem latest_precedes (c : Config) (ops more : List Operation) :
    (after c ops).latest.Precedes (after c (ops ++ more)).latest ∧
    (∃ before unseen, ops = before ++ unseen ∧ (∀ op ∈ unseen, ¬ op.EndsRound) ∧
      (before = [] ∨ ∃ first op, before = first ++ [op] ∧ op.EndsRound) ∧
      (after c ops).lastRound = (after c before).latest) ∧
    ((∀ op ∈ more, ¬ op.EndsRound) →
      (after c (ops ++ more)).lastRound = (after c ops).lastRound) := by
  obtain ⟨seen, -, lags, -⟩ := (lags_new c).run ops
  obtain ⟨seen', part, lags', rounds⟩ := lags.run more
  exact ⟨lags.tallies.precedes lags'.tallies part rounds, lastRound_after c ops,
    lastRound_run c ops⟩

end HopTable

end FlowTrace
