import FlowTrace.Session.Scheduler

/-!
# What the scheduler can do

- **Next phases** (`visit_cases`, `afterRound_cases`): where a visit and the end of a round lead to.
- **Transitions** (`Scheduler.Transition`): all steps of the scheduler, each with its guard.
  `transition_of_step` reads a step as one of them, so later proofs go by cases on the transition.
-/

namespace FlowTrace.Session

namespace Scheduler

/-- A visit goes on to another flow, ends the round or leads to a probe, all in the same round. -/
theorem visit_cases {P : Phase → Prop} {setup : Setup} {t : HopTable} {s : Sweep}
    (visiting : ∀ s', s'.round = s.round → P (.visiting s')) (publishing : P (.publishing s true))
    (waiting : ∀ s' flow ttl, s'.round = s.round → P (.waiting s' flow ttl)) :
    P (visit setup t s) := by
  unfold visit
  split
  · split
    · exact visiting _ rfl
    · exact publishing
  · simp only
    split
    · exact visiting _ rfl
    · exact waiting _ _ _ rfl

/-- After a round the next one is decided upon, perhaps after a rest. -/
theorem afterRound_cases {P : Phase → Prop} {setup : Setup} {s : Sweep}
    (deciding : P (.deciding (s.round + 1))) (resting : ∀ wake, P (.resting (s.round + 1) wake)) :
    P (afterRound setup s) := by
  unfold afterRound
  split
  · exact deciding
  · exact resting _

/-- One step of the scheduler: the phase and the shared state before and after it. -/
inductive Transition (setup : Setup) (now : Instant) (accepted : Bool) :
    Phase → Shared → Phase → Shared → Prop
  | quit (round : UInt32) (w : Shared) (h : w.stop = true ∨ isLast setup round = true) :
    Transition setup now accepted (.deciding round) w (.finished round) w
  | begin (round : UInt32) (w : Shared) (h : w.stop = false ∧ isLast setup round = false) :
    Transition setup now accepted (.deciding round) w (.visiting (beginSweep setup round now))
      (w.mapTable (·.beginRound round))
  | visit (s : Sweep) (w : Shared) :
    Transition setup now accepted (.visiting s) w (visit setup w.table s) w
  | allow (s : Sweep) (flow : UInt16) (ttl : UInt8) (w : Shared)
      (h : w.index.count < setup.config.maxInFlight) :
    Transition setup now accepted (.waiting s flow ttl) w (.pausing s flow ttl) w
  | leaveWaiting (s : Sweep) (flow : UInt16) (ttl : UInt8) (w : Shared) (h : w.stop = true) :
    Transition setup now accepted (.waiting s flow ttl) w (.publishing s false) w
  | pace (s : Sweep) (flow : UInt16) (ttl : UInt8) (w : Shared) :
    Transition setup now accepted (.pausing s flow ttl) w (.checking s flow ttl) w
  | leavePausing (s : Sweep) (flow : UInt16) (ttl : UInt8) (w : Shared) (h : w.stop = true) :
    Transition setup now accepted (.pausing s flow ttl) w (.publishing s false) w
  | proceed (s : Sweep) (flow : UInt16) (ttl : UInt8) (w : Shared) (h : w.stop = false) :
    Transition setup now accepted (.checking s flow ttl) w (.registering s flow ttl) w
  | leaveChecking (s : Sweep) (flow : UInt16) (ttl : UInt8) (w : Shared) (h : w.stop = true) :
    Transition setup now accepted (.checking s flow ttl) w (.publishing s false) w
  | skip (s : Sweep) (flow : UInt16) (ttl : UInt8) (w : Shared)
      (h : setup.encoder.encode flow s.round ttl = none) :
    Transition setup now accepted (.registering s flow ttl) w (.visiting s) w
  | refuse (s : Sweep) (flow : UInt16) (ttl : UInt8) (w : Shared) (p : EncodedProbe)
      (hp : setup.encoder.encode flow s.round ttl = some p)
      (h : w.index.insert? (pending setup p s.round now) = none) :
    Transition setup now accepted (.registering s flow ttl) w (.failing s flow ttl) w
  | register (s : Sweep) (flow : UInt16) (ttl : UInt8) (w : Shared) (p : EncodedProbe)
      (index : Outstanding) (hp : setup.encoder.encode flow s.round ttl = some p)
      (h : w.index.insert? (pending setup p s.round now) = some index) :
    Transition setup now accepted (.registering s flow ttl) w (.sending s p)
      { w with index := index }
  | send (s : Sweep) (p : EncodedProbe) (w : Shared) (h : accepted = true) :
    Transition setup now accepted (.sending s p) w (.counting s p) w
  | lose (s : Sweep) (p : EncodedProbe) (w : Shared) (h : accepted = false) :
    Transition setup now accepted (.sending s p) w (.withdrawing s p) w
  | count (s : Sweep) (p : EncodedProbe) (w : Shared) :
    Transition setup now accepted (.counting s p) w (.visiting s)
      (w.mapTable (·.recordSent p.flow p.ttl))
  | withdraw (s : Sweep) (p : EncodedProbe) (w : Shared) (q : PendingProbe) (index : Outstanding)
      (h : w.index.remove p.flow p.token = some (q, index)) :
    Transition setup now accepted (.withdrawing s p) w (.releasing s p) { w with index := index }
  | miss (s : Sweep) (p : EncodedProbe) (w : Shared)
      (h : w.index.remove p.flow p.token = none) :
    Transition setup now accepted (.withdrawing s p) w (.failing s p.flow p.ttl) w
  | release (s : Sweep) (p : EncodedProbe) (w : Shared) :
    Transition setup now accepted (.releasing s p) w (.failing s p.flow p.ttl)
      (w.mapIndex (·.settle [s.round]))
  | fail (s : Sweep) (flow : UInt16) (ttl : UInt8) (w : Shared) :
    Transition setup now accepted (.failing s flow ttl) w (.visiting s)
      (w.mapTable (·.record (.sendFailed flow ttl)))
  | publish (s : Sweep) (w : Shared) :
    Transition setup now accepted (.publishing s true) w (.resolving s) (w.mapTable (·.publish))
  | breakOff (s : Sweep) (w : Shared) :
    Transition setup now accepted (.publishing s false) w (.finished s.round)
      (w.mapTable (·.publish))
  | resolve (s : Sweep) (w : Shared) (h : w.index.inRound s.round = 0) :
    Transition setup now accepted (.resolving s) w (.completing s) w
  | abandon (s : Sweep) (w : Shared) (h : w.stop = true) :
    Transition setup now accepted (.resolving s) w (.finished s.round) w
  | complete (s : Sweep) (w : Shared) :
    Transition setup now accepted (.completing s) w (afterRound setup s)
      (w.mapTable (·.completeRound s.round))
  | leaveResting (round : UInt32) (wake : Instant) (w : Shared) (h : w.stop = true) :
    Transition setup now accepted (.resting round wake) w (.finished round) w
  | wake (round : UInt32) (wake : Instant) (w : Shared) (h : wake.nanos ≤ now.nanos) :
    Transition setup now accepted (.resting round wake) w (.deciding round) w

variable {setup : Setup} {now : Instant} {accepted : Bool} {d d' : Scheduler} {w w' : Shared}

theorem phase_of_rounds? {n : UInt32} (h : d.rounds? = some n) : d.phase = .finished n := by
  unfold rounds? at h
  split at h
  · obtain rfl := Option.some.inj h
    assumption
  · cases h

/-- A registration is one of three transitions. -/
theorem transition_of_register (s : Sweep) (flow : UInt16) (ttl : UInt8) :
    Transition setup now accepted (.registering s flow ttl) w
      (register setup now s flow ttl w).1 (register setup now s flow ttl w).2 := by
  unfold register
  cases hp : setup.encoder.encode flow s.round ttl with
  | none => exact .skip s flow ttl w hp
  | some p =>
    cases hi : w.index.insert? (pending setup p s.round now) with
    | none => simpa [hi] using .refuse s flow ttl w p hp hi
    | some index => simpa [hi] using .register s flow ttl w p index hp hi

/-- Every step is a transition. -/
theorem transition_of_step (h : d.step setup now accepted w = some (d', w')) :
    Transition setup now accepted d.phase w d'.phase w' := by
  obtain ⟨phase, due⟩ := d
  -- Phase by phase. A branch in which the scheduler waits gives no step.
  cases phase <;> simp only [step] at h
  case deciding round =>
    split at h <;> obtain ⟨rfl, rfl⟩ := Prod.mk.inj (Option.some.inj h)
    · exact .quit round w (by simp_all)
    · exact .begin round w (by simp_all)
  case visiting s =>
    obtain ⟨rfl, rfl⟩ := Prod.mk.inj (Option.some.inj h)
    exact .visit s w
  case waiting s flow ttl =>
    split at h
    · obtain ⟨rfl, rfl⟩ := Prod.mk.inj (Option.some.inj h)
      exact .allow s flow ttl w ‹_›
    · split at h
      · obtain ⟨rfl, rfl⟩ := Prod.mk.inj (Option.some.inj h)
        exact .leaveWaiting s flow ttl w ‹_›
      · cases h
  case pausing s flow ttl =>
    split at h
    · obtain ⟨rfl, rfl⟩ := Prod.mk.inj (Option.some.inj h)
      exact .pace s flow ttl w
    · split at h
      · obtain ⟨rfl, rfl⟩ := Prod.mk.inj (Option.some.inj h)
        exact .leavePausing s flow ttl w ‹_›
      · split at h
        · obtain ⟨rfl, rfl⟩ := Prod.mk.inj (Option.some.inj h)
          exact .pace s flow ttl w
        · cases h
  case checking s flow ttl =>
    split at h <;> obtain ⟨rfl, rfl⟩ := Prod.mk.inj (Option.some.inj h)
    · exact .leaveChecking s flow ttl w ‹_›
    · exact .proceed s flow ttl w (by simp_all)
  case registering s flow ttl =>
    obtain ⟨rfl, rfl⟩ := Prod.mk.inj (Option.some.inj h)
    exact transition_of_register s flow ttl
  case sending s p =>
    obtain ⟨rfl, rfl⟩ := Prod.mk.inj (Option.some.inj h)
    cases ha : accepted
    · exact .lose s p w rfl
    · exact .send s p w rfl
  case counting s p =>
    obtain ⟨rfl, rfl⟩ := Prod.mk.inj (Option.some.inj h)
    exact .count s p w
  case withdrawing s p =>
    split at h <;> obtain ⟨rfl, rfl⟩ := Prod.mk.inj (Option.some.inj h)
    · exact .withdraw s p w _ _ ‹_›
    · exact .miss s p w ‹_›
  case releasing s p =>
    obtain ⟨rfl, rfl⟩ := Prod.mk.inj (Option.some.inj h)
    exact .release s p w
  case failing s flow ttl =>
    obtain ⟨rfl, rfl⟩ := Prod.mk.inj (Option.some.inj h)
    exact .fail s flow ttl w
  case publishing s complete =>
    obtain ⟨rfl, rfl⟩ := Prod.mk.inj (Option.some.inj h)
    cases complete
    · exact .breakOff s w
    · exact .publish s w
  case resolving s =>
    split at h
    · obtain ⟨rfl, rfl⟩ := Prod.mk.inj (Option.some.inj h)
      exact .resolve s w ‹_›
    · split at h
      · obtain ⟨rfl, rfl⟩ := Prod.mk.inj (Option.some.inj h)
        exact .abandon s w ‹_›
      · cases h
  case completing s =>
    obtain ⟨rfl, rfl⟩ := Prod.mk.inj (Option.some.inj h)
    exact .complete s w
  case resting round wake =>
    split at h
    · obtain ⟨rfl, rfl⟩ := Prod.mk.inj (Option.some.inj h)
      exact .leaveResting round wake w ‹_›
    · split at h
      · obtain ⟨rfl, rfl⟩ := Prod.mk.inj (Option.some.inj h)
        exact .wake round wake w ‹_›
      · cases h
  case finished => cases h

end Scheduler

end FlowTrace.Session
