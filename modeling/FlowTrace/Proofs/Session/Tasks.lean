import FlowTrace.Proofs.Session.Scheduler
import FlowTrace.Session.World

/-!
# What the tasks of a session can do

- **Tasks** (`Listener.Transition`, `Sweeper.Transition`, `Supervisor.Transition`): all steps of
  each task, with their guards. Those of a listener carry the event that is heard.
- **Sessions** (`World.Transition`): one step of one task. `transition_of_step?` reads a step as one
  of them, so later proofs go by cases on the transition.
-/

namespace FlowTrace.Session

/-! ## Listeners -/

namespace Listener

/-- The listener has broken down. -/
def Phase.HasCrashed : Phase → Prop
  | .ended (some (.crashed _)) => True
  | _ => False

instance : DecidablePred Phase.HasCrashed
  | .ended (some (.crashed _)) => .isTrue trivial
  | .ended (some (.readErrors _ _)) | .ended none => .isFalse id
  | .idle | .draining _ | .applying _ _ | .settling _ _ => .isFalse id

/-- The events that a listener hears in its next step. -/
def hears (setup : Setup) (now : Instant) (read : Read) (l : Listener) (w : Shared) : List Event :=
  match l.phase, read with
  | .draining _, .packet data length source framing =>
    match hear setup now w.index ((fill l.buffer data).take length) source framing with
    | .ok (e, _) => [e]
    | .error _ => []
  | _, _ => []

/-- One step of a listener: the phase and the shared state before and after it, and what is heard
in it. -/
inductive Transition (setup : Setup) (now : Instant) :
    Phase → Shared → List Event → Phase → Shared → Prop
  | leave (w : Shared) (h : w.shutdown = true) : Transition setup now .idle w [] (.ended none) w
  | look (w : Shared) (h : w.shutdown = false) : Transition setup now .idle w [] (.draining []) w
  | hear (batch : List Event) (w : Shared) (data : Bytes) (source : Address) (framing : Framing)
      (e : Event) (index : Outstanding)
      (h : hear setup now w.index data source framing = .ok (e, index)) :
    Transition setup now (.draining batch) w [e] (addEvent batch e) { w with index := index }
  | close (batch : List Event) (failure : Option ListenerError) (w : Shared) :
    Transition setup now (.draining batch) w [] (closeBatch batch failure) w
  | crash (batch : List Event) (text : Option String) (w : Shared) :
    Transition setup now (.draining batch) w [] (.ended (some (.crashed text))) w
  | apply (batch : List Event) (failure : Option ListenerError) (w : Shared) :
    Transition setup now (.applying batch failure) w [] (.settling (resolvedRounds batch) failure)
      (w.mapTable (·.apply batch))
  | settle (rounds : List UInt32) (failure : Option ListenerError) (w : Shared) :
    Transition setup now (.settling rounds failure) w [] (closeBatch [] failure)
      (w.mapIndex (·.settle rounds))

variable {setup : Setup} {now : Instant} {read : Read} {l l' : Listener} {w w' : Shared}

/-- A read is one of three transitions. -/
theorem transition_of_take {batch : List Event} (hp : l.phase = .draining batch)
    (h : take setup now read l batch w = (l', w')) :
    Transition setup now (.draining batch) w (l.hears setup now read w) l'.phase w' := by
  unfold hears
  rw [hp]
  cases read with
  | packet data length source framing =>
    simp only [take] at h
    split at h <;> obtain ⟨rfl, rfl⟩ := Prod.mk.inj h
    · rename_i e index heard
      simp only [heard]
      exact .hear batch w _ source framing e index heard
    · rename_i fault heard
      simp only [heard]
      exact .crash batch _ w
  | nothing =>
    obtain ⟨rfl, rfl⟩ := Prod.mk.inj h
    exact .close batch none w
  | failed text =>
    obtain ⟨rfl, rfl⟩ := Prod.mk.inj h
    exact .close batch _ w
  | crashed text =>
    obtain ⟨rfl, rfl⟩ := Prod.mk.inj h
    exact .crash batch text w

/-- Every step is a transition. -/
theorem transition_of_step (h : l.step setup now read w = some (l', w')) :
    Transition setup now l.phase w (l.hears setup now read w) l'.phase w' := by
  unfold step at h
  cases hp : l.phase <;> simp only [hp] at h
  case draining batch => exact transition_of_take hp (Option.some.inj h)
  case ended => cases h
  all_goals
    have silent : l.hears setup now read w = [] := by simp only [hears, hp]
    rw [silent]
    obtain ⟨rfl, rfl⟩ := Prod.mk.inj (Option.some.inj h)
  case idle =>
    cases hs : w.shutdown
    · exact .look w hs
    · exact .leave w hs
  case applying batch failure => exact .apply batch failure w
  case settling rounds failure => exact .settle rounds failure w

/-- A listener that has broken down stays so. -/
theorem Transition.crashed {p p' : Phase} {es : List Event}
    (ht : Transition setup now p w es p' w') : ¬ p.HasCrashed := by
  cases ht <;> exact id

end Listener

/-! ## The sweeper -/

/-- One step of the sweeper. -/
inductive Sweeper.Transition (now : Instant) (leave : Bool) :
    Sweeper → Shared → Sweeper → Shared → Prop
  | leave (w : Shared) (h : leave = true ∧ w.shutdown = true) :
    Transition now leave .sleeping w .ended w
  | idle (w : Shared) (h : leave = false ∧ (w.index.expire now).1 = []) :
    Transition now leave .sleeping w .sleeping w
  | expire (w : Shared) (h : leave = false) :
    Transition now leave .sleeping w (.applying (w.index.expire now).1)
      { w with index := (w.index.expire now).2 }
  | apply (expired : List PendingProbe) (w : Shared) :
    Transition now leave (.applying expired) w (.settling (expired.map (·.round)))
      (w.mapTable (·.apply (expired.map (·.timedOut))))
  | settle (rounds : List UInt32) (w : Shared) :
    Transition now leave (.settling rounds) w .sleeping (w.mapIndex (·.settle rounds))

theorem Sweeper.transition_of_step {now : Instant} {leave : Bool} {s s' : Sweeper} {w w' : Shared}
    (h : s.step now leave w = some (s', w')) : Sweeper.Transition now leave s w s' w' := by
  cases s with
  | sleeping =>
    simp only [step] at h
    split at h
    · split at h
      · obtain ⟨rfl, rfl⟩ := Prod.mk.inj (Option.some.inj h)
        exact .leave w ⟨‹_›, ‹_›⟩
      · cases h
    · rename_i stays
      have stays : leave = false := Bool.not_eq_true _ ▸ stays
      split at h <;> obtain ⟨rfl, rfl⟩ := Prod.mk.inj (Option.some.inj h)
      · exact .idle w ⟨stays, List.isEmpty_iff.mp ‹_›⟩
      · exact .expire w stays
  | applying expired =>
    obtain ⟨rfl, rfl⟩ := Prod.mk.inj (Option.some.inj h)
    exact .apply expired w
  | settling rounds =>
    obtain ⟨rfl, rfl⟩ := Prod.mk.inj (Option.some.inj h)
    exact .settle rounds w
  | ended => cases h

/-! ## The supervisor -/

/-- One step of the supervisor, with the shared state after it. -/
inductive Supervisor.Transition (setup : Setup) (now : Instant) (w : World) :
    Supervisor → Supervisor → Shared → Prop
  | watch (h : w.scheduler.rounds?.isSome = true) :
    Transition setup now w .watching (.draining (World.drainEnd setup now))
      { w.shared with stop := true, table := w.shared.table.setStatus .draining }
  | drain (deadline : Instant) (h : w.shared.index.count = 0 ∨ deadline.nanos ≤ now.nanos) :
    Transition setup now w (.draining deadline) .joining { w.shared with shutdown := true }
  | join (failure : Option ListenerError)
      (h : w.sweeper = .ended ∧ World.joined? w.listeners = some failure) :
    Transition setup now w .joining (.claiming failure) w.shared
  | skip (failure : Option ListenerError) (h : w.shared.index.drainAll.1 = []) :
    Transition setup now w (.claiming failure) (.closing failure)
      { w.shared with index := w.shared.index.drainAll.2 }
  | claim (failure : Option ListenerError) :
    Transition setup now w (.claiming failure) (.applying w.shared.index.drainAll.1 failure)
      { w.shared with index := w.shared.index.drainAll.2 }
  | apply (left : List PendingProbe) (failure : Option ListenerError) :
    Transition setup now w (.applying left failure) (.settling (left.map (·.round)) failure)
      (w.shared.mapTable (·.apply (left.map (·.timedOut))))
  | settle (rounds : List UInt32) (failure : Option ListenerError) :
    Transition setup now w (.settling rounds failure) (.closing failure)
      (w.shared.mapIndex (·.settle rounds))
  | close (failure : Option ListenerError) :
    Transition setup now w (.closing failure) (.ended failure)
      (w.shared.mapTable (·.setStatus .terminated))

theorem Supervisor.transition_of_step {setup : Setup} {now : Instant} {w w' : World}
    (h : World.superviseStep setup now w = some w') : ∃ s shared,
      Supervisor.Transition setup now w w.supervisor s shared ∧
        w' = { w with supervisor := s, shared := shared } := by
  unfold World.superviseStep at h
  -- Each phase has at most one condition. Where it does not hold there is no step.
  cases hs : w.supervisor <;> simp only [hs] at h
  case watching =>
    split at h
    · cases h
    · rename_i rounds hr
      exact ⟨_, _, .watch (Option.isSome_of_eq_some hr), (Option.some.inj h).symm⟩
  case draining deadline =>
    split at h
    · exact ⟨_, _, .drain deadline ‹_›, (Option.some.inj h).symm⟩
    · cases h
  case joining =>
    split at h
    · rename_i failure hsweeper hjoined
      exact ⟨_, _, .join failure ⟨hsweeper, hjoined⟩, (Option.some.inj h).symm⟩
    · cases h
  case claiming failure =>
    split at h
    · exact ⟨_, _, .skip failure (List.isEmpty_iff.mp ‹_›), (Option.some.inj h).symm⟩
    · exact ⟨_, _, .claim failure, (Option.some.inj h).symm⟩
  case applying left failure => exact ⟨_, _, .apply left failure, (Option.some.inj h).symm⟩
  case settling rounds failure => exact ⟨_, _, .settle rounds failure, (Option.some.inj h).symm⟩
  case closing failure => exact ⟨_, _, .close failure, (Option.some.inj h).symm⟩
  case ended => cases h

/-! ## Sessions -/

namespace World

/-- One step of one task of a session. -/
inductive Transition (setup : Setup) (w : World) : Action → World → Prop
  | schedule (now : Instant) (accepted : Bool) (d : Scheduler) (shared : Shared)
      (h : Scheduler.Transition setup now accepted w.scheduler.phase w.shared d.phase shared) :
    Transition setup w (.schedule now accepted) { w with scheduler := d, shared := shared }
  | listen (i : Nat) (now : Instant) (read : Read) (l l' : Listener) (shared : Shared)
      (hl : w.listeners[i]? = some l)
      (h : Listener.Transition setup now l.phase w.shared (l.hears setup now read w.shared) l'.phase
        shared) :
    Transition setup w (.listen i now read)
      { w with listeners := w.listeners.set i l', shared := shared }
  | sweep (now : Instant) (leave : Bool) (s : Sweeper) (shared : Shared)
      (h : Sweeper.Transition now leave w.sweeper w.shared s shared) :
    Transition setup w (.sweep now leave) { w with sweeper := s, shared := shared }
  | supervise (now : Instant) (s : Supervisor) (shared : Shared)
      (h : Supervisor.Transition setup now w w.supervisor s shared) :
    Transition setup w (.supervise now) { w with supervisor := s, shared := shared }
  | stop : Transition setup w .stop { w with shared := { w.shared with stop := true } }

/-- Every step is a transition. -/
theorem transition_of_step? {setup : Setup} {w w' : World} {a : Action}
    (h : w.step? setup a = some w') : Transition setup w a w' := by
  cases a with
  | schedule now accepted =>
    obtain ⟨⟨d, shared⟩, hstep, rfl⟩ := Option.map_eq_some_iff.mp h
    exact .schedule now accepted d shared (Scheduler.transition_of_step hstep)
  | listen i now read =>
    obtain ⟨l, hl, h⟩ := Option.bind_eq_some_iff.mp h
    obtain ⟨⟨l', shared⟩, hstep, rfl⟩ := Option.map_eq_some_iff.mp h
    exact .listen i now read l l' shared hl (Listener.transition_of_step hstep)
  | sweep now leave =>
    obtain ⟨⟨s, shared⟩, hstep, rfl⟩ := Option.map_eq_some_iff.mp h
    exact .sweep now leave s shared (Sweeper.transition_of_step hstep)
  | supervise now =>
    obtain ⟨s, shared, ht, rfl⟩ := Supervisor.transition_of_step h
    exact .supervise now s shared ht
  | stop =>
    obtain rfl := Option.some.inj h
    exact .stop

end World

end FlowTrace.Session
