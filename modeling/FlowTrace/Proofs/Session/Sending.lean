import FlowTrace.Proofs.HopTable.Tally
import FlowTrace.Proofs.Outstanding.Account
import FlowTrace.Proofs.Probe
import FlowTrace.Session.Scheduler

/-!
# What sending one probe leaves behind

The scheduler registers a probe, hands it to the transport and counts it; a probe that the transport
does not take is withdrawn. `Scheduler.attempt` runs these steps while no other task runs.

- **Index** (`Outstanding.Refuses`, `Outstanding.Registers`): a registration that is not refused
  adds one entry, and taking it back restores the index (`WF.settle_remove_insert?`).
- **Table** (`HopTable.FailsOnce`, `HopTable.SendsOnce`): what a failed and a successful send count.
- **Outcomes** (`attempt_of_refused`, `attempt_of_lost`, `attempt_of_sent`): the three ways in which
  an attempt ends.
- **Main result** (`attempt_leaves_its_outcome`): over every index and every table.
-/

namespace FlowTrace

/-! ## Registrations -/

namespace Outstanding

/-- One probe less undoes one probe more. -/
theorem decrement?_increment (r : UInt32) {l : List (UInt32 × Nat)} (hpos : ∀ x ∈ l, 0 < x.2) :
    decrement? r (increment r l) = some l := by
  induction l with
  | nil => simp [increment, decrement?]
  | cons x l ih =>
    obtain ⟨q, n⟩ := x
    have positive : 0 < n := hpos _ List.mem_cons_self
    have rest := ih fun y hy => hpos y (List.mem_cons_of_mem _ hy)
    by_cases here : q = r
    · have more : ¬ n + 1 ≤ 1 := by omega
      simp [increment, decrement?, here, more]
    · simp [increment, decrement?, here, rest]

/-- There is no place for a probe: its flow has no shard, or its token is waiting there. -/
def Refuses (o : Outstanding) (flow token : UInt16) : Prop :=
  o.shards.length ≤ flow.toNat ∨ ∃ q ∈ o.waiting, q.flow = flow ∧ q.token = token

/-- The probe `q` is registered, and nothing else changes. -/
structure Registers (o : Outstanding) (q : PendingProbe) (o' : Outstanding) : Prop where
  waiting : o'.waiting.Perm (q :: o.waiting)
  shard : ∀ flow,
    o'.shard? flow = (o.shard? flow).map fun s => if q.flow = flow then s ++ [q] else s
  count : o'.count = o.count + 1
  inRound : ∀ r, o'.inRound r = o.inRound r + if q.round = r then 1 else 0

variable {o o' : Outstanding} {q : PendingProbe}

theorem registers_insert? (h : o.insert? q = some o') : o.Registers q o' where
  waiting := insert?_waiting h
  shard flow := by
    obtain ⟨s, -, -, rfl⟩ := insert?_eq_some h
    simp only [shard?, List.getElem?_modify, UInt16.toNat_inj]
    cases o.shards[flow.toNat]? <;> rfl
  count := insert?_count h
  inRound := insert?_inRound h

/-- A registration that is withdrawn and settled leaves the index as it was before. -/
theorem WF.settle_remove_insert? (wf : o.WF) (h : o.insert? q = some o') :
    ∃ o'', o'.remove q.flow q.token = some (q, o'') ∧ o''.settle [q.round] = o := by
  have own : q ∈ o'.waiting := (insert?_waiting h).mem_iff.mpr List.mem_cons_self
  obtain ⟨o'', removed⟩ := (wf.insert? h).exists_remove own
  refine ⟨o'', removed, ?_⟩
  obtain ⟨s, hs, free, rfl⟩ := insert?_eq_some h
  obtain ⟨-, -, -, rfl⟩ := remove_eq_some removed
  -- The new entry stands at the end of its shard, and no other one there has its token.
  have shards : (o.shards.modify q.flow.toNat (· ++ [q])).modify q.flow.toNat (·.erase q.token) =
      o.shards := by
    have absent : Shard.find s q.token = none := by
      refine Shard.find_eq_none.mpr fun p hp hsame => ?_
      rw [Shard.contains_iff.mpr ⟨p, hp, hsame⟩] at free
      cases free
    have erased : Shard.erase (s ++ [q]) q.token = s := by
      rw [Shard.erase, List.filter_append]
      simpa using Shard.find_eq_none.mp absent
    refine List.ext_getElem? fun i => ?_
    simp only [List.getElem?_modify]
    by_cases here : q.flow.toNat = i
    · subst here
      simp only [shard?] at hs
      simp [hs, erased]
    · cases o.shards[i]? <;> simp [here]
  simp only [Outstanding.settle, List.foldl_cons, List.foldl_nil, Outstanding.settleOne,
    decrement?_increment _ wf.pos, shards, Nat.add_sub_cancel]

end Outstanding

/-! ## Counts of sends -/

namespace HopTable

/-- One more failed send is counted and published, and nothing else changes. -/
structure FailsOnce (t t' : HopTable) : Prop where
  state : t'.state = { t.state with
    counters := { t.state.counters with sendFailures := t.state.counters.sendFailures + 1 } }
  latest : t'.latest = t'.state.snapshot
  lastRound : t'.lastRound = t.lastRound

/-- One more send is counted, in all and for one hop, and nothing else changes. -/
structure SendsOnce (t : HopTable) (flow : UInt16) (ttl : UInt8) (t' : HopTable) : Prop where
  counters : t'.state.counters = { t.state.counters with sent := t.state.counters.sent + 1 }
  hop : ∃ h, t.state.cell? flow ttl = some h ∧
    t'.state.cell? flow ttl = some { h with sent := h.sent + 1 }
  others : ∀ f l, (f, l) ≠ (flow, ttl) → t'.state.cell? f l = t.state.cell? f l
  targetTtl : ∀ f, t'.targetTtl f = t.targetTtl f
  frames : t.state.Frames t'.state
  latest : t'.latest = t.latest
  lastRound : t'.lastRound = t.lastRound

theorem failsOnce_record (t : HopTable) (flow : UInt16) (ttl : UInt8) :
    t.FailsOnce (t.record (.sendFailed flow ttl)) := ⟨rfl, rfl, rfl⟩

theorem sendsOnce_recordSent {t : HopTable} {flow : UInt16} {ttl : UInt8} {h : HopRecord}
    (cell : t.state.cell? flow ttl = some h) : t.SendsOnce flow ttl (t.recordSent flow ttl) where
  counters := t.state.counters_apply (.sent flow ttl)
  hop := by
    refine ⟨h, cell, (t.state.cell?_apply (.sent flow ttl) flow ttl).trans ?_⟩
    simp [cell, Event.touch, HopRecord.recordSent]
  others f l other := by
    refine (t.state.cell?_apply (.sent flow ttl) f l).trans ?_
    have apart : ¬ (flow = f ∧ ttl = l) := by
      rintro ⟨rfl, rfl⟩
      exact other rfl
    have untouched : Event.touch (.sent flow ttl) f l = id :=
      funext fun _ => by simp [Event.touch, apart]
    rw [untouched, Option.map_id_fun, id]
  targetTtl f := HopState.targetTtl?_modifyCell ..
  frames := t.state.frames_apply (.sent flow ttl)
  latest := rfl
  lastRound := rfl

end HopTable

namespace Session.Scheduler

/-! ## Attempts -/

/-- The attempt to send one probe. -/
structure Attempt where
  scheduler : Scheduler
  shared : Shared
  /-- The probes that the transport was given. -/
  handed : List EncodedProbe

/-- One more step of the attempt. It is over once the scheduler goes on to the next flow. -/
def Attempt.step (setup : Setup) (now : Instant) (accepted : Bool) (a : Attempt) : Attempt :=
  match a.scheduler.phase with
  | .visiting _ => a
  | _ => (a.scheduler.step setup now accepted a.shared).elim a fun (d, w) =>
      ⟨d, w, a.handed ++ a.scheduler.sending?.toList⟩

/-- Some steps of an attempt, from the registration of the probe on. -/
def attempt (setup : Setup) (now : Instant) (accepted : Bool) (due : Instant) (s : Sweep)
    (flow : UInt16) (ttl : UInt8) (w : Shared) (steps : Nat) : Attempt :=
  (Attempt.step setup now accepted)^[steps] ⟨⟨.registering s flow ttl, due⟩, w, []⟩

/-- An attempt that is over stays as it is. -/
theorem iterate_of_visiting (setup : Setup) (now : Instant) (accepted : Bool) (due : Instant)
    (s : Sweep) (w : Shared) (handed : List EncodedProbe) (steps : Nat) :
    (Attempt.step setup now accepted)^[steps] ⟨⟨.visiting s, due⟩, w, handed⟩ =
      ⟨⟨.visiting s, due⟩, w, handed⟩ := Function.iterate_fixed rfl steps

section Outcomes

variable {setup : Setup} {now due : Instant} {s : Sweep} {flow : UInt16} {ttl : UInt8}
  {w : Shared} {p : EncodedProbe} (steps : Nat)

/-- A probe that is not registered is not sent. -/
theorem attempt_of_refused (accepted : Bool)
    (encoded : setup.encoder.encode flow s.round ttl = some p)
    (refused : w.index.insert? (pending setup p s.round now) = none) :
    attempt setup now accepted due s flow ttl w (steps + 2) =
      ⟨⟨.visiting s, due⟩, w.mapTable (·.record (.sendFailed flow ttl)), []⟩ := by
  have registering : register setup now s flow ttl w = (.failing s flow ttl, w) := by
    simp only [register, encoded, refused]
  rw [attempt, Function.iterate_add_apply]
  simp only [Function.iterate_succ_apply, Function.iterate_zero_apply, Attempt.step, step,
    registering, sending?, Option.elim_some, Option.toList_none, List.append_nil]
  exact iterate_of_visiting ..

theorem register_of_insert? {index : Outstanding}
    (encoded : setup.encoder.encode flow s.round ttl = some p)
    (registered : w.index.insert? (pending setup p s.round now) = some index) :
    register setup now s flow ttl w = (.sending s p, { w with index := index }) := by
  simp only [register, encoded, registered]

/-- A probe that the transport does not take is withdrawn and settled. -/
theorem attempt_of_lost (wf : w.index.WF) {index : Outstanding}
    (encoded : setup.encoder.encode flow s.round ttl = some p)
    (registered : w.index.insert? (pending setup p s.round now) = some index) :
    attempt setup now false due s flow ttl w (steps + 5) =
      ⟨⟨.visiting s, due⟩, w.mapTable (·.record (.sendFailed p.flow p.ttl)), [p]⟩ := by
  obtain ⟨rest, withdrawn, restored⟩ := wf.settle_remove_insert? registered
  have registering := register_of_insert? encoded registered
  have removing : index.remove p.flow p.token = some (pending setup p s.round now, rest) :=
    withdrawn
  have settling : rest.settle [s.round] = w.index := restored
  rw [attempt, Function.iterate_add_apply]
  simp only [Function.iterate_succ_apply, Function.iterate_zero_apply, Attempt.step, step,
    registering, removing, settling, sending?, Option.elim_some, Option.toList_none,
    Option.toList_some, List.append_nil, List.nil_append, Shared.mapIndex, Bool.false_eq_true,
    if_false]
  exact iterate_of_visiting ..

/-- A probe that the transport takes is counted as sent. -/
theorem attempt_of_sent {index : Outstanding}
    (encoded : setup.encoder.encode flow s.round ttl = some p)
    (registered : w.index.insert? (pending setup p s.round now) = some index) :
    attempt setup now true due s flow ttl w (steps + 3) =
      ⟨⟨.visiting s, due⟩, { w with index := index, table := w.table.recordSent p.flow p.ttl },
        [p]⟩ := by
  have registering := register_of_insert? encoded registered
  rw [attempt, Function.iterate_add_apply]
  simp only [Function.iterate_succ_apply, Function.iterate_zero_apply, Attempt.step, step,
    registering, sending?, Option.elim_some, Option.toList_none, Option.toList_some,
    List.append_nil, List.nil_append, Shared.mapTable, if_true]
  exact iterate_of_visiting ..

end Outcomes

open Outstanding.Account in
/-- With no other task running, an attempt to send a probe ends with one of three outcomes, whatever
is outstanding and whatever is in the table. Where the index refuses the probe, the transport is
given none; where the transport does not take the probe, it was given this one. In both cases the
index is what it was before, and the table counts one more failed send and nothing else. Where the
transport takes the probe, exactly one entry is added, with the token of the probe and with a
deadline one timeout after its send, and the table counts one more send, in all and for this hop. -/
theorem attempt_leaves_its_outcome (c : Config) (src : Address) (flows : UInt16)
    (calls : List Outstanding.Call) (ops : List HopTable.Operation) (stop shutdown : Bool)
    (now due : Instant) (accepted : Bool) (s : Sweep) (steps : Nat) (flow : UInt16) (ttl : UInt8)
    (hf : flow.toNat < c.flows.toNat) (ht : 1 ≤ ttl.toNat ∧ ttl.toNat ≤ c.maxTtl.toNat) :
    let w : Shared := ⟨indexAfter flows calls, HopTable.after c ops, stop, shutdown⟩
    let a := attempt (.ofConfig c src) now accepted due s flow ttl w (steps + 5)
    ∃ p, (Setup.ofConfig c src).encoder.encode flow s.round ttl = some p ∧
      a.scheduler = ⟨.visiting s, due⟩ ∧ a.shared.stop = stop ∧ a.shared.shutdown = shutdown ∧
      (w.index.Refuses flow p.token →
        a.handed = [] ∧ a.shared.index = w.index ∧ w.table.FailsOnce a.shared.table) ∧
      (¬ w.index.Refuses flow p.token → accepted = false →
        a.handed = [p] ∧ a.shared.index = w.index ∧ w.table.FailsOnce a.shared.table) ∧
      (¬ w.index.Refuses flow p.token → accepted = true →
        a.handed = [p] ∧ w.table.SendsOnce flow ttl a.shared.table ∧
        ∃ q : PendingProbe, w.index.Registers q a.shared.index ∧
          q.flow = flow ∧ q.round = s.round ∧ q.ttl = ttl ∧ q.token = p.token ∧ q.sentAt = now ∧
          q.deadline.nanos = q.sentAt.nanos + c.timeout.nanos) := by
  intro w a
  obtain ⟨p, encoded⟩ := Encoder.exists_encode c src hf s.round ttl
  have probe := Encoder.isProbe_of_encode encoded
  obtain ⟨wf, -⟩ := wf_indexAfter flows calls
  let q := pending (.ofConfig c src) p s.round now
  have flow_eq : q.flow = flow := probe.flow_eq
  have refuses_iff : w.index.insert? q = none ↔ w.index.Refuses flow p.token :=
    flow_eq ▸ wf.insert?_eq_none_iff
  refine ⟨p, encoded, ?_⟩
  cases registered : w.index.insert? q with
  | none =>
    have refused := refuses_iff.mp registered
    have ended : a = _ := attempt_of_refused (steps + 3) accepted encoded registered
    rw [ended]
    exact ⟨rfl, rfl, rfl, fun _ => ⟨rfl, rfl, HopTable.failsOnce_record ..⟩,
      fun free => (free refused).elim, fun free => (free refused).elim⟩
  | some index =>
    have free : ¬ w.index.Refuses flow p.token := by
      rw [← refuses_iff, registered]
      exact nofun
    cases accepted with
    | false =>
      have ended : a = _ := attempt_of_lost steps wf encoded registered
      rw [ended]
      exact ⟨rfl, rfl, rfl, fun refused => (free refused).elim,
        fun _ _ => ⟨rfl, rfl, HopTable.failsOnce_record ..⟩, fun _ => nofun⟩
    | true =>
      have ended : a = _ := attempt_of_sent (steps + 2) encoded registered
      rw [ended, probe.flow_eq, probe.ttl_eq]
      have inside : c.HasCell flow ttl :=
        ⟨hf.trans_le (Nat.le_max_left ..), ht.1, ht.2.trans (Nat.le_max_left ..)⟩
      have tallies := HopTable.tallies_of_applies (HopTable.applies_after c ops)
      obtain ⟨hop, cell, -⟩ := tallies.counts flow ttl inside
      exact ⟨rfl, rfl, rfl, fun refused => (free refused).elim, fun _ => nofun,
        fun _ _ => ⟨rfl, HopTable.sendsOnce_recordSent cell, q,
          Outstanding.registers_insert? registered, flow_eq, rfl, probe.ttl_eq, rfl, rfl, rfl⟩⟩

/-- The tasks of a session of two flows, before anything is sent. -/
def pairStart : Shared :=
  ⟨Outstanding.Account.indexAfter 2 [], HopTable.after Encoder.pairConfig [], false, false⟩

/-- The transport does not take the first probe of the second flow. -/
def lostAttempt : Attempt :=
  attempt (.ofConfig Encoder.pairConfig (.ofOctets4 10 0 0 1)) ⟨7⟩ false ⟨0⟩
    ⟨0, ⟨0⟩, [1, 1], [], true⟩ 1 1 pairStart 5

/-- This failure is counted, and the index is what it was. -/
theorem lostAttempt_leaves_failure : lostAttempt.handed.length = 1 ∧
    lostAttempt.shared.index = pairStart.index ∧
    lostAttempt.shared.table.state.counters.sendFailures = 1 := by
  obtain ⟨p, -, -, -, -, -, lost, -⟩ := attempt_leaves_its_outcome Encoder.pairConfig
    (.ofOctets4 10 0 0 1) 2 [] [] false false ⟨7⟩ ⟨0⟩ false ⟨0, ⟨0⟩, [1, 1], [], true⟩ 0 1 1
    (by decide) (by decide)
  have free : ¬ pairStart.index.Refuses 1 p.token := by
    rintro (outside | ⟨q, waits, -⟩)
    · exact absurd outside (by decide)
    · cases waits
  obtain ⟨handed, index, fails⟩ := lost free rfl
  refine ⟨congrArg List.length handed, index, ?_⟩
  exact congrArg (fun state => state.counters.sendFailures) fails.state

end Session.Scheduler

end FlowTrace
