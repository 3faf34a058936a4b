import FlowTrace.Proofs.Session.History

/-!
# The end of a session

- **Teardown** (`Teardown`): how far the supervisor has brought the session to its end: scheduler,
  sweeper and listeners have ended one after the other, and what was left has been claimed. Every
  step keeps it (`Teardown.step`).
- **Statuses** (`statuses_after`): what readers see is running, then draining, then terminated.
- **The end** (`terminates_cleanly`): nothing is outstanding, every event is in the table, and the
  table stays as it is.
-/

namespace FlowTrace

/-- The statuses of a session that has come to a status: `r`, `d` and `t` times more than once. -/
def Status.life (r d t : Nat) : Status → List Status
  | .running => List.replicate (r + 1) .running
  | .draining => List.replicate (r + 1) .running ++ List.replicate (d + 1) .draining
  | .terminated =>
    List.replicate (r + 1) .running ++
      (List.replicate (d + 1) .draining ++ List.replicate (t + 1) .terminated)

namespace Session

/-! ## Teardown -/

namespace Supervisor

/-- The part of its life that the session is in. -/
def status : Supervisor → Status
  | .watching => .running
  | .ended _ => .terminated
  | _ => .draining

/-- The other tasks have ended. -/
def HasJoined : Supervisor → Prop
  | .watching | .draining _ | .joining => False
  | _ => True

/-- What was left has been claimed. -/
def HasClaimed : Supervisor → Prop
  | .watching | .draining _ | .joining | .claiming _ => False
  | _ => True

theorem HasJoined.status_ne {s : Supervisor} (h : s.HasJoined) : s.status ≠ .running := by
  cases s <;> first | exact h.elim | nofun

theorem HasClaimed.hasJoined {s : Supervisor} (h : s.HasClaimed) : s.HasJoined := by
  cases s <;> first | exact h.elim | trivial

theorem hasClaimed_of_terminated {s : Supervisor} (h : s.status = .terminated) : s.HasClaimed := by
  cases s <;> trivial

end Supervisor

/-- How far a session has been brought to its end. -/
structure Teardown (w : World) : Prop where
  status : w.shared.table.HasStatus w.supervisor.status
  scheduler : w.supervisor.status ≠ .running → ∃ n, w.scheduler.phase = .finished n
  sweeper : w.supervisor.HasJoined → w.sweeper = .ended
  listeners : w.supervisor.HasJoined → ∀ l ∈ w.listeners, ∃ failure, l.phase = .ended failure
  waiting : w.supervisor.HasClaimed → w.shared.index.waiting = []
  published : w.supervisor.status = .terminated →
    w.shared.table.latest = w.shared.table.state.snapshot

/-- Before the other tasks are joined, little has to hold. -/
theorem teardown_of_not_joined {w : World} (hearly : ¬ w.supervisor.HasJoined)
    (status : w.shared.table.HasStatus w.supervisor.status)
    (scheduler : w.supervisor.status ≠ .running → ∃ n, w.scheduler.phase = .finished n) :
    Teardown w where
  status := status
  scheduler := scheduler
  sweeper joined := (hearly joined).elim
  listeners joined := (hearly joined).elim
  waiting claimed := (hearly claimed.hasJoined).elim
  published closed := (hearly (Supervisor.hasClaimed_of_terminated closed).hasJoined).elim

variable {setup : Setup} {now : Instant} {s : Status}

theorem Scheduler.Transition.hasStatus {accepted : Bool} {p p' : Phase} {w w' : Shared}
    (ht : Transition setup now accepted p w p' w') (h : w.table.HasStatus s) :
    w'.table.HasStatus s := by
  cases ht with
  | begin round => exact h.beginRound round
  | count _ p => exact h.recordSent p.flow p.ttl
  | fail => exact h.apply _
  | publish | breakOff => exact h.publish
  | complete s => exact h.completeRound s.round
  | _ => exact h

theorem Listener.ended_of_result? {l : Listener} (h : l.result?.isSome = true) :
    ∃ failure, l.phase = .ended failure := by
  unfold result? at h
  split at h
  · exact ⟨_, ‹_›⟩
  · cases h

/-- Listeners are joined once all of them have ended. -/
theorem World.ended_of_joined? {ls : List Listener} {failure : Option ListenerError}
    (h : World.joined? ls = some failure) : ∀ l ∈ ls, ∃ failure, l.phase = .ended failure := by
  obtain ⟨results, hr, -⟩ := Option.map_eq_some_iff.mp h
  clear h
  induction ls generalizing results with
  | nil => exact List.forall_mem_nil _
  | cons l ls ih =>
    rw [List.mapM_cons] at hr
    obtain ⟨result, hl, hr⟩ := Option.bind_eq_some_iff.mp hr
    obtain ⟨rest, hls, -⟩ := Option.bind_eq_some_iff.mp hr
    exact List.forall_mem_cons.mpr
      ⟨Listener.ended_of_result? (Option.isSome_of_eq_some hl), ih rest hls⟩

section Tasks

variable {w w' : World} {a : Action}

/-- The scheduler takes steps only while the session is running. -/
theorem Teardown.running (h : Teardown w) {accepted : Bool} {p' : Scheduler.Phase} {shared : Shared}
    (ht : Scheduler.Transition setup now accepted w.scheduler.phase w.shared p' shared) :
    w.supervisor.status = .running := by
  by_contra closed
  obtain ⟨n, hn⟩ := h.scheduler closed
  rw [hn] at ht
  cases ht

/-- Listeners take steps only before they are joined. -/
theorem Teardown.not_joined_of_listen (h : Teardown w) {l : Listener} (hl : l ∈ w.listeners)
    {p' : Listener.Phase} {es : List Event} {shared : Shared}
    (ht : Listener.Transition setup now l.phase w.shared es p' shared) :
    ¬ w.supervisor.HasJoined := by
  intro joined
  obtain ⟨failure, hp⟩ := h.listeners joined l hl
  rw [hp] at ht
  cases ht

/-- So does the sweeper. -/
theorem Teardown.not_joined_of_sweep (h : Teardown w) {leave : Bool} {x : Sweeper} {shared : Shared}
    (ht : Sweeper.Transition now leave w.sweeper w.shared x shared) :
    ¬ w.supervisor.HasJoined := by
  intro joined
  rw [h.sweeper joined] at ht
  cases ht

/-- Every step keeps what the supervisor has reached. -/
theorem Teardown.step (h : Teardown w) (ht : World.Transition setup w a w') : Teardown w' := by
  cases ht with
  | schedule now accepted d shared ht =>
    have running := h.running ht
    exact teardown_of_not_joined (fun joined => joined.status_ne running) (ht.hasStatus h.status)
      fun closed => (closed running).elim
  | listen i now read l l' shared hl ht =>
    have hearly := h.not_joined_of_listen (List.mem_of_getElem? hl) ht
    exact teardown_of_not_joined hearly (ht.shows h.status) h.scheduler
  | sweep now leave x shared ht =>
    exact teardown_of_not_joined (h.not_joined_of_sweep ht) (ht.shows h.status) h.scheduler
  | supervise now x shared ht =>
    obtain ⟨shared₀, d, ls, sweeper, supervisor⟩ := w
    cases ht with
    | watch hr =>
      obtain ⟨n, hn⟩ := Option.isSome_iff_exists.mp hr
      exact teardown_of_not_joined id (HopTable.hasStatus_setStatus shared₀.table .draining)
        fun _ => ⟨n, Scheduler.phase_of_rounds? hn⟩
    | drain => exact teardown_of_not_joined id h.status h.scheduler
    | join _ hj =>
      exact ⟨h.status, h.scheduler, fun _ => hj.1, fun _ => World.ended_of_joined? hj.2, nofun,
        nofun⟩
    | skip | claim =>
      exact ⟨h.status, h.scheduler, h.sweeper, h.listeners,
        fun _ => Outstanding.drainAll_waiting _, nofun⟩
    | apply => exact ⟨h.status.apply _, h.scheduler, h.sweeper, h.listeners, h.waiting, nofun⟩
    | settle rounds =>
      exact ⟨h.status, h.scheduler, h.sweeper, h.listeners,
        fun claimed => (Outstanding.settle_waiting _ rounds).trans (h.waiting claimed), nofun⟩
    | close =>
      exact ⟨HopTable.hasStatus_setStatus shared₀.table .terminated, fun _ => h.scheduler nofun,
        h.sweeper, h.listeners, h.waiting, fun _ => rfl⟩
  | stop => exact ⟨h.status, h.scheduler, h.sweeper, h.listeners, h.waiting, h.published⟩

/-- Once a session has terminated, no step changes the table. -/
theorem Teardown.table_step (h : Teardown w) (closed : w.supervisor.status = .terminated)
    (ht : World.Transition setup w a w') :
    w'.supervisor.status = .terminated ∧ w'.shared.table = w.shared.table := by
  have joined := (Supervisor.hasClaimed_of_terminated closed).hasJoined
  cases ht with
  | schedule now accepted d shared ht => exact (joined.status_ne (h.running ht)).elim
  | listen i now read l l' shared hl ht =>
    exact (h.not_joined_of_listen (List.mem_of_getElem? hl) ht joined).elim
  | sweep now leave x shared ht => exact (h.not_joined_of_sweep ht joined).elim
  | supervise now x shared ht =>
    obtain ⟨shared₀, d, ls, sweeper, supervisor⟩ := w
    cases ht <;> cases closed
  | stop => exact ⟨closed, rfl⟩

theorem Teardown.table_run (h : Teardown w) (closed : w.supervisor.status = .terminated)
    (later : List Action) : (w.run setup later).shared.table = w.shared.table := by
  induction later generalizing w with
  | nil => rfl
  | cons a later ih =>
    rw [show w.run setup (a :: later) = (w.step setup a).run setup later from rfl, World.step]
    cases hstep : w.step? setup a with
    | none => exact ih h closed
    | some w' =>
      have ht := World.transition_of_step? hstep
      obtain ⟨closed', hsame⟩ := h.table_step closed ht
      exact (ih (h.step ht) closed').trans hsame

/-- Once a session has terminated, no task has anything on its way. -/
theorem Teardown.load (h : Teardown w) (closed : w.supervisor.status = .terminated) :
    w.load = {} ∧ w.inHand = [] := by
  have joined := (Supervisor.hasClaimed_of_terminated closed).hasJoined
  obtain ⟨n, hd⟩ := h.scheduler (joined.status_ne)
  have sweeper := h.sweeper joined
  have supervisor : w.supervisor.load = {} ∧ w.supervisor.applies = [] := by
    cases hs : w.supervisor <;> rw [hs] at closed <;> cases closed
    exact ⟨rfl, rfl⟩
  have none {α : Type} (f : Listener.Phase → List α) (hf : ∀ failure, f (.ended failure) = []) :
      w.listeners.flatMap (f ·.phase) = [] := by
    refine List.flatMap_eq_nil_iff.mpr fun l hl => ?_
    obtain ⟨failure, hp⟩ := h.listeners joined l hl
    rw [hp, hf]
  refine ⟨?_, ?_⟩
  · simp only [World.load, none (·.load.held) fun _ => rfl, none (·.load.owed) fun _ => rfl,
      sweeper, supervisor, hd]
    rfl
  · simp only [World.inHand, none (·.batch) fun _ => rfl, sweeper, supervisor]
    rfl

end Tasks

theorem teardown_new (setup : Setup) (listeners : Nat) (start : Instant) :
    Teardown (World.new setup listeners start) :=
  teardown_of_not_joined id ⟨rfl, rfl⟩ fun closed => (closed rfl).elim

section Sessions

variable {c : Config} (src : Address) (listeners : Nat) (start : Instant) (as : List Action)

theorem teardown_after : Teardown (worldAfter c src listeners start as) := by
  refine run_induction (P := fun _ w => Teardown w) (teardown_new ..) ?_ ?_ as
  · exact fun as a w _ _ h => h
  · exact fun as a w w' _ steps h => h.step (World.transition_of_step? steps)

/-! ## What readers see -/

/-- A step leaves the status as it is or goes on to the next one. -/
theorem World.Transition.status {w w' : World} {a : Action} (ht : World.Transition setup w a w') :
    w'.supervisor.status = w.supervisor.status ∨
      (w.supervisor.status = .running ∧ w'.supervisor.status = .draining) ∨
      (w.supervisor.status = .draining ∧ w'.supervisor.status = .terminated) := by
  cases ht with
  | supervise now x shared ht =>
    obtain ⟨shared₀, d, ls, sweeper, supervisor⟩ := w
    cases ht with
    | watch => exact .inr (.inl ⟨rfl, rfl⟩)
    | close => exact .inr (.inr ⟨rfl, rfl⟩)
    | _ => exact .inl rfl
  | _ => exact .inl rfl

/-- The statuses that readers can see, at the start and after each step. -/
def statusesAfter (c : Config) (src : Address) (listeners : Nat) (start : Instant)
    (as : List Action) : List Status :=
  (HopTable.new c).latest.status ::
    notesAfter (fun _ _ w' => [w'.shared.table.latest.status]) c src listeners start as

/-- Readers see a session running, then draining, then terminated. -/
theorem statuses_after :
    ∃ r d t, statusesAfter c src listeners start as =
      Status.life r d t (worldAfter c src listeners start as).shared.table.latest.status := by
  rw [(teardown_after src listeners start as).status.latest]
  refine run_induction (P := fun as w => ∃ r d t, statusesAfter c src listeners start as =
    Status.life r d t w.supervisor.status) ⟨0, 0, 0, rfl⟩ ?_ ?_ as
  · rintro as a w rfl waits h
    rwa [statusesAfter, notesAfter_wait _ waits]
  · rintro as a w w' rfl steps ⟨r, d, t, h⟩
    have ht := World.transition_of_step? steps
    rw [statusesAfter, notesAfter_step _ steps, ← List.cons_append,
      ((teardown_after src listeners start as).step ht).status.latest]
    rw [statusesAfter] at h
    rw [h]
    -- The status stays, or goes on to the next one; it never goes back.
    rcases ht.status with hsame | ⟨was, is⟩ | ⟨was, is⟩
    · rw [hsame]
      cases (worldAfter c src listeners start as).supervisor.status with
      | running => exact ⟨r + 1, d, t, by simp [Status.life, ← List.replicate_succ']⟩
      | draining => exact ⟨r, d + 1, t, by simp [Status.life, ← List.replicate_succ']⟩
      | terminated => exact ⟨r, d, t + 1, by simp [Status.life, ← List.replicate_succ']⟩
    · rw [was, is]
      exact ⟨r, 0, t, rfl⟩
    · rw [was, is]
      exact ⟨r, d, 0, by simp [Status.life]⟩

/-! ## The end -/

/-- Readers see a session running, then draining, then terminated. Once it has terminated, the
table stays as it is. Unless a listener has broken down, nothing is outstanding then, and the table
and what readers see of it hold every event that a task has come upon. -/
theorem terminates_cleanly (hc : c.check = .ok ()) :
    (∃ r d t, statusesAfter c src listeners start as =
      Status.life r d t (worldAfter c src listeners start as).shared.table.latest.status) ∧
    ((worldAfter c src listeners start as).shared.table.latest.status = .terminated →
      (∀ later, (worldAfter c src listeners start (as ++ later)).shared.table =
        (worldAfter c src listeners start as).shared.table) ∧
      (¬ (worldAfter c src listeners start as).HasCrashed →
        ((worldAfter c src listeners start as).shared.index.count = 0 ∧
          (∀ s ∈ (worldAfter c src listeners start as).shared.index.shards, s = []) ∧
          (worldAfter c src listeners start as).shared.index.perRound = []) ∧
        (foundAfter c src listeners start as).Perm (appliedAfter c src listeners start as) ∧
        (HopTable.new c).Applies (appliedAfter c src listeners start as)
          (worldAfter c src listeners start as).shared.table ∧
        (worldAfter c src listeners start as).shared.table.latest =
          (worldAfter c src listeners start as).shared.table.state.snapshot)) := by
  have hb := Config.bounds_of_check hc
  have teardown : Teardown (worldAfter c src listeners start as) := teardown_after ..
  refine ⟨statuses_after src listeners start as, fun terminated => ?_⟩
  have closed := teardown.status.latest.symm.trans terminated
  refine ⟨fun later => ?_, fun intact => ?_⟩
  · rw [worldAfter, World.run_append]
    exact teardown.table_run closed later
  -- No task has anything left, so the ledger owes nothing and all that was found is applied.
  · obtain ⟨load, inHand⟩ := teardown.load closed
    obtain ⟨lost, inv, kept⟩ := inv_after hb src listeners start as
    have ledger := inv.ledger
    rw [load, kept intact] at ledger
    have found := found_after intact
    rw [inHand, List.append_nil] at found
    exact ⟨ledger.settled (teardown.waiting (Supervisor.hasClaimed_of_terminated closed)) rfl,
      found, applies_after hb src listeners start as, teardown.published closed⟩

end Sessions

/-- The only listener ends after fifty failed reads. The session is stopped while its first probe
waits, and the wait for it is cut short. -/
def cutShort : List Action :=
  turns ⟨0⟩ 9 ++ List.replicate 100 (.listen 0 ⟨0⟩ (.failed "down")) ++ .stop :: turns ⟨0⟩ 4 ++
    [.supervise ⟨0⟩, .supervise ⟨3500000000⟩, .sweep ⟨3500000000⟩ true] ++
    List.replicate 5 (.supervise ⟨3500000000⟩)

/-- Nothing is outstanding at the end, and the probe is in the table as timed out. -/
theorem terminates_cutShort :
    lonelyConfig.check = .ok () ∧
    (worldAfter lonelyConfig (.ofOctets4 10 0 0 100) 1 ⟨0⟩ cutShort).shared.index.count = 0 ∧
    (foundAfter lonelyConfig (.ofOctets4 10 0 0 100) 1 ⟨0⟩ cutShort).Perm
      [.sent 0 1, .timedOut 0 1 0] := by
  have terminated : (worldAfter lonelyConfig (.ofOctets4 10 0 0 100) 1 ⟨0⟩
      cutShort).shared.table.latest.status = .terminated := by decide +kernel
  have intact : ¬ (worldAfter lonelyConfig (.ofOctets4 10 0 0 100) 1 ⟨0⟩
      cutShort).HasCrashed := by decide +kernel
  have applied : appliedAfter lonelyConfig (.ofOctets4 10 0 0 100) 1 ⟨0⟩ cutShort =
      [.sent 0 1, .timedOut 0 1 0] := by decide +kernel
  obtain ⟨settled, found, -⟩ :=
    ((terminates_cleanly (.ofOctets4 10 0 0 100) 1 ⟨0⟩ cutShort rfl).2 terminated).2 intact
  exact ⟨rfl, settled.1, applied ▸ found⟩

end Session

end FlowTrace
