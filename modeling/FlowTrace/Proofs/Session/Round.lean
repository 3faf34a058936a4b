import FlowTrace.Proofs.Session.Effect
import FlowTrace.Proofs.Session.Scheduler

/-!
# One round at a time

`cur` is the round that began last; before the first round it is the number before zero.

- **Phases** (`Phase.Ok`): what the scheduler keeps about the round that it is in. Hop limits behind
  the next one of a flow are not probed again in this round (`Phase.Ahead`).
- **Ledger** (`Ledger`): the unsettled probes of a round are those that wait and those that are on
  their way, and all belong to the round that began last.
- **Transitions** (`Transition.effect`, `Transition.ok`): what a step of the scheduler does to the
  shared state, and that it keeps what holds of the phase.
-/

namespace FlowTrace.Session

open Effect

/-! ## Phases -/

/-- A sweep of a round. -/
structure Sweep.Ok (c : Config) (round : UInt32) (s : Sweep) : Prop where
  round_eq : s.round = round
  next_length : s.next.length = c.flows.toNat
  next_pos : ∀ n ∈ s.next, 0 < n
  queue_lt : ∀ f ∈ s.queue, f.toNat < c.flows.toNat

/-- A sweep has come to a hop limit of a flow and gone past it. -/
structure Sweep.Issued (c : Config) (s : Sweep) (flow : UInt16) (ttl : UInt8) : Prop where
  flow_lt : flow.toNat < c.flows.toNat
  ttl_pos : 0 < ttl.toNat
  ttl_le : ttl.toNat ≤ c.maxTtl.toNat
  passed : ttl.toNat < s.next.getD flow.toNat 1

namespace Scheduler

/-- What the scheduler keeps about the round `cur`, which began last. -/
def Phase.Ok (c : Config) (src : Address) (cur : UInt32) : Phase → Prop
  | .deciding round | .resting round _ => round = cur + 1
  | .visiting s | .releasing s _ | .failing s _ _ | .publishing s _ | .resolving s
  | .completing s => s.Ok c cur
  | .waiting s flow ttl | .pausing s flow ttl | .checking s flow ttl | .registering s flow ttl =>
    s.Ok c cur ∧ s.Issued c flow ttl
  | .sending s p | .counting s p | .withdrawing s p =>
    s.Ok c cur ∧ s.Issued c p.flow p.ttl ∧
      (Setup.ofConfig c src).encoder.encode p.flow s.round p.ttl = some p
  | .finished _ => True

/-- A hop limit of a flow may still be probed in this round. -/
def Phase.Ahead (p : Phase) (flow : UInt16) (ttl : UInt8) : Prop :=
  match p with
  | .visiting s | .sending s _ | .counting s _ | .withdrawing s _ | .releasing s _
  | .failing s _ _ => s.next.getD flow.toNat 1 ≤ ttl.toNat
  | .waiting s f t | .pausing s f t | .checking s f t | .registering s f t =>
    s.next.getD flow.toNat 1 ≤ ttl.toNat ∨ (flow = f ∧ ttl = t)
  | _ => False

/-- Between two rounds. -/
def Phase.IsQuiet : Phase → Prop
  | .deciding _ | .resting .. | .completing _ => True
  | _ => False

/-- A registration that was taken back is still to be settled. -/
def Phase.load : Phase → Load
  | .releasing s _ => { owed := [s.round] }
  | _ => {}

/-- The events that the next step applies to the table. -/
def Phase.applies : Phase → List Event
  | .counting _ p => [.sent p.flow p.ttl]
  | .failing _ flow ttl => [.sendFailed flow ttl]
  | _ => []

/-- The scheduler resolves no probe. -/
theorem Phase.resolvedKeys_applies (p : Phase) : resolvedKeys p.applies = [] := by cases p <;> rfl

/-- The probe that is registered and not counted as sent. -/
def Phase.unsent : Phase → List (UInt16 × UInt8)
  | .sending _ p | .counting _ p | .withdrawing _ p => [(p.flow, p.ttl)]
  | _ => []

variable {c : Config} {src : Address} {cur : UInt32}

theorem mem_flowNumbers {f : UInt16} (hf : f ∈ flowNumbers (Setup.ofConfig c src)) :
    f.toNat < c.flows.toNat := by
  obtain ⟨i, hi, rfl⟩ := List.mem_map.mp hf
  have hi := List.mem_range.mp hi
  have size : (Setup.ofConfig c src).encoder.plan.size = c.flows := FlowPlan.size_ofConfig c
  rw [size] at hi
  have := c.flows.toNat_lt
  rw [UInt16.toNat_ofNat']
  omega

theorem length_flowNumbers : (flowNumbers (Setup.ofConfig c src)).length = c.flows.toNat := by
  have size : (Setup.ofConfig c src).encoder.plan.size = c.flows := FlowPlan.size_ofConfig c
  simp [flowNumbers, size]

/-- A round begins with every flow at the first hop limit. -/
theorem ok_beginSweep (src : Address) (round : UInt32) (now : Instant) :
    (beginSweep (Setup.ofConfig c src) round now).Ok c round where
  round_eq := rfl
  next_length := by simp [beginSweep, length_flowNumbers]
  next_pos n hn := by
    obtain ⟨-, -, rfl⟩ := List.mem_map.mp hn
    exact Nat.one_pos
  queue_lt _ hf := mem_flowNumbers hf

/-- A flow is never probed beyond the largest hop limit. -/
theorem limit_le (src : Address) {t : HopTable} (ht : t.state.Fits)
    (hm : t.state.maxTtl = c.maxTtl) (flow : UInt16) :
    (limit (Setup.ofConfig c src) t flow).toNat ≤ c.maxTtl.toNat := by
  unfold limit
  cases h : t.targetTtl flow with
  | none => exact Nat.le_refl _
  | some ttl => exact hm ▸ HopTable.targetTtl_le ht h

theorem getD_set {l : List Nat} {i j : Nat} {n d : Nat} :
    (l.set i n).getD j d = if i = j ∧ j < l.length then n else l.getD j d := by
  simp only [List.getD_eq_getElem?_getD, List.getElem?_set]
  by_cases h : i = j
  · subst h
    by_cases hi : i < l.length
    · simp [hi]
    · simp [hi]
  · simp [h]

/-- Visiting a flow keeps the round, and goes past the hop limit that is probed next. -/
theorem ok_visit {t : HopTable} (ht : t.state.Fits) (hm : t.state.maxTtl = c.maxTtl) {s : Sweep}
    (hs : s.Ok c cur) : (visit (Setup.ofConfig c src) t s).Ok c src cur := by
  unfold visit
  split
  · split
    · exact ⟨hs.round_eq, hs.next_length, hs.next_pos, fun _ hf => mem_flowNumbers hf⟩
    · exact hs
  · rename_i flow queue hq
    have hflow : flow.toNat < c.flows.toNat := hs.queue_lt flow (by simp [hq])
    have hqueue : ∀ f ∈ queue, f.toNat < c.flows.toNat := fun f hf =>
      hs.queue_lt f (by simp [hq, hf])
    have hlen : flow.toNat < s.next.length := by rw [hs.next_length]; exact hflow
    have hpos : 0 < s.next.getD flow.toNat 1 := by
      rw [List.getD_eq_getElem?_getD, List.getElem?_eq_getElem hlen, Option.getD_some]
      exact hs.next_pos _ (List.getElem_mem hlen)
    have max := limit_le src ht hm flow
    simp only
    split
    -- Behind the last hop the flow is left out, and only the queue gets shorter.
    · exact ⟨hs.round_eq, hs.next_length, hs.next_pos, hqueue⟩
    · rename_i hle
      have hroom := c.maxTtl.toNat_lt
      -- The hop limit is at most that of the table, so eight bits hold it.
      have ttl : (UInt8.ofNat (s.next.getD flow.toNat 1)).toNat = s.next.getD flow.toNat 1 := by
        rw [UInt8.toNat_ofNat']; omega
      refine ⟨⟨hs.round_eq, by simpa using hs.next_length, fun n hn => ?_, hqueue⟩,
        hflow, by omega, by omega, ?_⟩
      · rcases List.mem_or_eq_of_mem_set hn with hn | rfl
        · exact hs.next_pos n hn
        · exact Nat.succ_pos _
      · rw [getD_set, if_pos ⟨rfl, hlen⟩]
        omega

/-- Visiting a flow adds no hop limit to those that may still be probed. -/
theorem ahead_of_visit {t : HopTable} (ht : t.state.Fits) (hm : t.state.maxTtl = c.maxTtl)
    {s : Sweep} {flow : UInt16} {ttl : UInt8}
    (h : (visit (Setup.ofConfig c src) t s).Ahead flow ttl) :
    s.next.getD flow.toNat 1 ≤ ttl.toNat := by
  unfold visit at h
  split at h
  · split at h
    · exact h
    · exact h.elim
  · rename_i f queue hq
    have max := limit_le src ht hm f
    have hroom := c.maxTtl.toNat_lt
    simp only at h
    split at h
    · exact h
    · rename_i hle
      have last : (UInt8.ofNat (s.next.getD f.toNat 1)).toNat = s.next.getD f.toNat 1 := by
        rw [UInt8.toNat_ofNat']; omega
      rcases h with h | ⟨rfl, rfl⟩
      · rw [getD_set] at h
        split at h
        · rename_i heq
          rw [← heq.1]
          omega
        · exact h
      · omega

theorem idle_visit (setup : Setup) (t : HopTable) (s : Sweep) :
    (visit setup t s).load = {} ∧ (visit setup t s).unsent = [] ∧ ¬ (visit setup t s).IsQuiet :=
  visit_cases (P := fun p => p.load = {} ∧ p.unsent = [] ∧ ¬ p.IsQuiet) (fun _ _ => ⟨rfl, rfl, id⟩)
    ⟨rfl, rfl, id⟩ fun _ _ _ _ => ⟨rfl, rfl, id⟩

theorem idle_afterRound (setup : Setup) (s : Sweep) :
    (afterRound setup s).load = {} ∧ (afterRound setup s).unsent = [] :=
  afterRound_cases (P := fun p => p.load = {} ∧ p.unsent = []) ⟨rfl, rfl⟩ fun _ => ⟨rfl, rfl⟩

/-- The effect of a transition from one phase to another. -/
structure Phase.Does (setup : Setup) (now : Instant) (p p' : Phase) (e : Effect) : Prop where
  claimed : e.claimed = []
  applied : e.applied = p.applies
  registered : ∀ q ∈ e.registered, ∃ s x, p = .registering s q.flow q.ttl ∧ p' = .sending s x ∧
    setup.encoder.encode q.flow s.round q.ttl = some x ∧ q = pending setup x s.round now
  withdrawn : (∀ s x, p ≠ .withdrawing s x) → e.withdrawn = []
  sent : (∀ s x, p ≠ .withdrawing s x) →
    (e.registered.map (·.key.cell) ++ p.unsent).Perm (sentCells e.applied ++ p'.unsent)

/-- A transition that changes at most the table. -/
theorem Phase.does_apply {setup : Setup} {now : Instant} {p p' : Phase} {w : Shared}
    (wf : w.index.WF) {t : HopTable} (ht : w.table.Applies p.applies t) (hl : p'.load = p.load)
    (hs : (∀ s x, p ≠ .withdrawing s x) → p.unsent.Perm (sentCells p.applies ++ p'.unsent)) :
    ∃ e, e.Acts w { w with table := t } ∧ e.Moves p.load p'.load {} ∧ p.Does setup now p' e :=
  ⟨{ applied := p.applies }, acts_apply wf ht,
    ⟨by simp [hl, p.resolvedKeys_applies], by simp [hl]⟩,
    ⟨rfl, rfl, List.forall_mem_nil _, fun _ => rfl, hs⟩⟩

/-- A transition that changes nothing that the tasks share. -/
theorem Phase.does_nothing {setup : Setup} {now : Instant} {p p' : Phase} {w : Shared}
    (wf : w.index.WF) (ha : p.applies = []) (hl : p'.load = p.load)
    (hs : (∀ s x, p ≠ .withdrawing s x) → p'.unsent = p.unsent) :
    ∃ e, e.Acts w w ∧ e.Moves p.load p'.load {} ∧ p.Does setup now p' e :=
  does_apply wf (ha ▸ w.table.applies_refl) hl fun h => by
    rw [ha, hs h]
    exact .refl _

/-- Every transition has an effect that claims and resolves nothing. -/
theorem Transition.effect {now : Instant} {accepted : Bool} {p p' : Phase} {w w' : Shared}
    (wf : w.index.WF) (hw : ∀ q ∈ w.index.waiting, q.round = cur) (hok : p.Ok c src cur)
    (ht : Transition (Setup.ofConfig c src) now accepted p w p' w') :
    ∃ e, e.Acts w w' ∧ e.Moves p.load p'.load {} ∧ p.Does (Setup.ofConfig c src) now p' e := by
  cases ht with
  | quit | allow | leaveWaiting | pace | leavePausing | proceed | leaveChecking | skip | refuse
  | send | lose | resolve | abandon | leaveResting | wake =>
    exact Phase.does_nothing wf rfl rfl fun _ => rfl
  | visit s =>
    obtain ⟨load, unsent, -⟩ := idle_visit (Setup.ofConfig c src) w.table s
    exact Phase.does_nothing wf rfl load fun _ => unsent
  | miss s p => exact Phase.does_nothing wf rfl rfl fun h => (h s p rfl).elim
  | begin round =>
    exact Phase.does_apply wf (w.table.applies_beginRound round) rfl fun _ => .refl _
  | count s p =>
    exact Phase.does_apply wf (w.table.applies_recordSent p.flow p.ttl) rfl fun _ => .refl _
  | fail s flow ttl =>
    exact Phase.does_apply wf (w.table.applies_apply [.sendFailed flow ttl]) rfl fun _ => .refl _
  | publish s => exact Phase.does_apply wf w.table.applies_publish rfl fun _ => .refl _
  | breakOff s => exact Phase.does_apply wf w.table.applies_publish rfl fun _ => .refl _
  | complete s =>
    obtain ⟨load, unsent⟩ := idle_afterRound (Setup.ofConfig c src) s
    exact Phase.does_apply wf (w.table.applies_completeRound s.round) load fun _ => by
      rw [unsent]
      exact .refl _
  -- Registering is the one step that adds to the index, and withdrawing the one that takes out.
  | register s flow ttl _ x index hp hi =>
    have hx := Encoder.isProbe_of_encode hp
    refine ⟨{ registered := [pending (Setup.ofConfig c src) x s.round now] }, ?_,
      ⟨by simp [resolvedKeys, Phase.load], ?_⟩, rfl, rfl, ?_, fun _ => rfl, fun _ => .refl _⟩
    · refine ⟨(Outstanding.insert?_waiting hi).symm, fun r => ?_, Outstanding.insert?_length hi,
        wf.insert? hi, ⟨rfl, rfl, rfl, rfl⟩⟩
      rw [Outstanding.insert?_inRound hi]
      by_cases hs : s.round = r <;> simp [pending, hs]
    · simp [Phase.load]
    · intro q hq
      obtain rfl := List.mem_singleton.mp hq
      obtain rfl := hx.flow_eq
      obtain rfl := hx.ttl_eq
      exact ⟨s, x, rfl, rfl, hp, rfl⟩
  | withdraw s p _ q index h =>
    have claims := wf.claims_remove h
    have round : q.round = s.round := by
      rw [hw q (wf.remove_mem h).1, hok.1.round_eq]
    refine ⟨{ withdrawn := [q] }, ?_,
      ⟨by simp [resolvedKeys, Phase.load], by simp [Phase.load, round]⟩,
      rfl, rfl, List.forall_mem_nil _, fun h => (h s p rfl).elim, fun h => (h s p rfl).elim⟩
    exact ⟨claims.waiting, fun r => claims.inRound r, claims.length, claims.wf wf,
      ⟨rfl, rfl, rfl, rfl⟩⟩
  | release s p =>
    exact ⟨{ settled := [s.round] }, acts_settle wf [s.round],
      ⟨by simp [resolvedKeys, Phase.load], by simp [Phase.load]⟩,
      ⟨rfl, rfl, List.forall_mem_nil _, fun _ => rfl, fun _ => .refl _⟩⟩

/-- Only a failed send is withdrawn. -/
theorem Transition.failed {setup : Setup} {now : Instant} {accepted : Bool} {p p' : Phase}
    {w w' : Shared} (ht : Transition setup now accepted p w p' w') {s : Sweep} {x : EncodedProbe}
    (hp : p' = .withdrawing s x) : p = .sending s x ∧ accepted = false := by
  cases ht with
  | lose _ _ _ h =>
    obtain ⟨rfl, rfl⟩ : _ ∧ _ := by simpa using hp
    exact ⟨rfl, h⟩
  | visit s =>
    have idle := (idle_visit setup w.table s).2.1
    rw [hp] at idle
    cases idle
  | complete s =>
    have idle := (idle_afterRound setup s).2
    rw [hp] at idle
    cases idle
  | _ => cases hp

/-- A step between two phases begins a round. -/
def Phase.begins : Phase → Phase → Bool
  | .deciding _, .visiting _ => true
  | _, _ => false

theorem begins_self (p : Phase) : p.begins p = false := by cases p <;> rfl

theorem Phase.isQuiet_of_begins {p p' : Phase} (h : p.begins p' = true) :
    p.IsQuiet ∧ ¬ p'.IsQuiet := by
  unfold begins at h
  split at h
  · exact ⟨trivial, id⟩
  · cases h

/-- The round that began last, after a step between two phases. -/
def Phase.nextRound (p p' : Phase) (cur : UInt32) : UInt32 :=
  cur + UInt32.ofNat (p.begins p').toNat

theorem nextRound_of_begins {p p' : Phase} (h : p.begins p' = true) (cur : UInt32) :
    p.nextRound p' cur = cur + 1 := by
  rw [Phase.nextRound, h]
  rfl

theorem nextRound_of_not_begins {p p' : Phase} (h : p.begins p' = false) (cur : UInt32) :
    p.nextRound p' cur = cur := by
  rw [Phase.nextRound, h]
  exact UInt32.add_zero cur

/-- A new round begins with a new sweep. -/
theorem Transition.ok_of_begins {now : Instant} {accepted : Bool} {p p' : Phase} {w w' : Shared}
    (hok : p.Ok c src cur) (ht : Transition (Setup.ofConfig c src) now accepted p w p' w')
    (hb : p.begins p' = true) : p'.Ok c src (cur + 1) := by
  cases ht with
  | begin round =>
    obtain rfl : round = cur + 1 := hok
    exact ok_beginSweep src _ now
  | _ => cases hb

/-- Within a round a transition keeps what the scheduler keeps. -/
theorem Transition.ok {now : Instant} {accepted : Bool} {p p' : Phase} {w w' : Shared}
    (hf : w.table.state.Fits) (hm : w.table.state.maxTtl = c.maxTtl) (hok : p.Ok c src cur)
    (ht : Transition (Setup.ofConfig c src) now accepted p w p' w') (hb : p.begins p' = false) :
    p'.Ok c src cur := by
  cases ht with
  | quit | leaveResting | breakOff | abandon => trivial
  | begin => cases hb
  | visit s => exact ok_visit hf hm hok
  | allow | pace | proceed | send | lose | release | fail | publish | resolve | wake => exact hok
  | leaveWaiting | leavePausing | leaveChecking | skip | refuse | count | withdraw | miss =>
    exact hok.1
  | register s flow ttl _ x _ hp =>
    have hx := Encoder.isProbe_of_encode hp
    obtain rfl := hx.flow_eq
    obtain rfl := hx.ttl_eq
    exact ⟨hok.1, hok.2, hp⟩
  | complete s =>
    have next : s.round + 1 = cur + 1 := congrArg (· + 1) hok.round_eq
    exact afterRound_cases (P := fun p => p.Ok c src cur) next fun _ => next

/-- Within a round no hop limit comes back. -/
theorem Transition.ahead {now : Instant} {accepted : Bool} {p p' : Phase} {w w' : Shared}
    (hf : w.table.state.Fits) (hm : w.table.state.maxTtl = c.maxTtl)
    (ht : Transition (Setup.ofConfig c src) now accepted p w p' w') (hb : p.begins p' = false)
    {flow : UInt16} {ttl : UInt8} (h : p'.Ahead flow ttl) : p.Ahead flow ttl := by
  cases ht with
  | begin => cases hb
  | visit s => exact ahead_of_visit hf hm h
  | skip | refuse | register => exact .inl h
  | leaveWaiting | leavePausing | leaveChecking => exact h.elim
  | complete s =>
    exact (afterRound_cases (P := fun p => ¬ p.Ahead flow ttl) id (fun _ => id) h).elim
  | _ => exact h

/-- Between two rounds nothing is unsettled. -/
theorem Transition.quiet {now : Instant} {accepted : Bool} {p p' : Phase} {w w' : Shared}
    (hok : p.Ok c src cur) (hq : p.IsQuiet → w.index.inRound cur = 0)
    (ht : Transition (Setup.ofConfig c src) now accepted p w p' w') (h : p'.IsQuiet) :
    w'.index.inRound cur = 0 := by
  cases ht with
  | visit s => exact ((idle_visit _ _ s).2.2 h).elim
  | resolve s _ hr => exact hok.round_eq ▸ hr
  | complete | wake => exact hq trivial
  | _ => exact h.elim

end Scheduler

/-! ## The ledger -/

/-- The unsettled probes are those that wait and those that are on their way, all of one round. -/
structure Ledger (cur : UInt32) (load : Load) (w : Shared) : Prop where
  wf : w.index.WF
  waiting : ∀ q ∈ w.index.waiting, q.round = cur
  owed : ∀ r ∈ load.owed, r = cur
  count : ∀ r, w.index.inRound r =
    (w.index.waiting.map (·.round)).count r + load.owed.count r

/-- The unsettled probes are those that wait and those that are on their way. -/
theorem Ledger.count_eq {cur : UInt32} {load : Load} {w : Shared} (h : Ledger cur load w) :
    w.index.count = w.index.waiting.length + load.owed.length := by
  rw [h.wf.count_eq_sum, Finset.sum_congr rfl fun r _ => h.count r, Finset.sum_add_distrib,
    Outstanding.sum_count, Outstanding.sum_count, List.length_map]

/-- Where the round has no unsettled probes, nothing waits and nothing is on its way. -/
theorem Ledger.empty {cur : UInt32} {load : Load} {w : Shared} (h : Ledger cur load w)
    (hr : w.index.inRound cur = 0) : w.index.waiting = [] ∧ load.owed = [] := by
  have count := h.count cur
  refine ⟨List.eq_nil_iff_forall_not_mem.mpr fun q hq => ?_,
    List.eq_nil_iff_forall_not_mem.mpr fun r hr' => ?_⟩
  · have : cur ∈ w.index.waiting.map (·.round) := List.mem_map.mpr ⟨q, hq, h.waiting q hq⟩
    have := List.count_pos_iff.mpr this
    omega
  · have := List.count_pos_iff.mpr (h.owed r hr' ▸ hr')
    omega

/-- Where nothing waits and nothing is on its way, the index is empty. -/
theorem Ledger.settled {cur : UInt32} {load : Load} {w : Shared} (h : Ledger cur load w)
    (waiting : w.index.waiting = []) (owed : load.owed = []) :
    w.index.count = 0 ∧ (∀ s ∈ w.index.shards, s = []) ∧ w.index.perRound = [] := by
  have perRound := h.wf.perRound_eq_nil fun r => by
    rw [h.count r, waiting, owed]
    rfl
  refine ⟨?_, List.flatten_eq_nil_iff.mp waiting, perRound⟩
  rw [h.wf.total, perRound]
  rfl

/-- An empty ledger is one of every round. -/
theorem Ledger.of_empty {cur cur' : UInt32} {load : Load} {w : Shared} (h : Ledger cur load w)
    (waiting : w.index.waiting = []) (owed : load.owed = []) : Ledger cur' load w :=
  ⟨h.wf, by simp [waiting], by simp [owed], h.count⟩

/-- An effect keeps the ledger; what is lost stays in it. -/
theorem Ledger.step {cur : UInt32} {load load' lost lost' : Load} {w w' : Shared} {e : Effect}
    (h : Ledger cur (load ++ lost) w) (ha : e.Acts w w') (hm : e.Moves load load' lost')
    (hr : ∀ q ∈ e.registered, q.round = cur) : Ledger cur (load' ++ (lost' ++ lost)) w' := by
  have before (q : PendingProbe) (hq : q ∈ e.registered ++ w.index.waiting) : q.round = cur :=
    (List.mem_append.mp hq).elim (hr q) (h.waiting q)
  refine ⟨ha.wf, fun q hq => ?_, fun r hr' => ?_, fun r => ?_⟩
  · refine before q (ha.waiting.mem_iff.mpr ?_)
    exact List.mem_append_right _ (List.mem_append_right _ hq)
  · -- What is owed now was owed before, or belongs to a probe that the step has taken.
    have gone (q : PendingProbe) (hq : q ∈ e.claimed ∨ q ∈ e.withdrawn) : q.round = cur := by
      refine before q (ha.waiting.mem_iff.mpr ?_)
      simp only [List.mem_append]
      tauto
    have old := h.owed r
    have moved := hm.owed.mem_iff (a := r)
    simp only [Load.owed_append, List.mem_append, List.mem_map] at hr' old moved
    rcases hr' with hr' | hr' | hr'
    · rcases moved.mpr (.inr (.inl hr')) with ⟨q, hq, rfl⟩ | ⟨q, hq, rfl⟩ | hl
      · exact gone q (.inl hq)
      · exact gone q (.inr hq)
      · exact old (.inl hl)
    · rcases moved.mpr (.inr (.inr hr')) with ⟨q, hq, rfl⟩ | ⟨q, hq, rfl⟩ | hl
      · exact gone q (.inl hq)
      · exact gone q (.inr hq)
      · exact old (.inl hl)
    · exact old (.inr hr')
  · have waiting := (ha.waiting.map (·.round)).count_eq r
    have owed := hm.owed.count_eq r
    have count := h.count r
    rw [ha.inRound r]
    simp only [Load.owed_append, List.map_append, List.count_append] at *
    omega

end FlowTrace.Session
