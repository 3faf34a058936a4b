import FlowTrace.Proofs.HopTable.Progress
import FlowTrace.Proofs.Session.Itinerary

/-!
# What one round sends

`Tour` is the scheduler from the first visit of a round on. Between its steps other tasks may do
anything to the index and apply any operations to the table, and the session may be stopped.

- **Targets** (`HopTable.limits_le`): whatever is done to a table, a target is only found nearer.
- **Course** (`Phase.Course`): what was sent, together with the probe that is about to be sent, is
  the itinerary up to now. Every step keeps the course (`Transition.onward`).
- **Progress** (`Scheduler.rank`): every step lowers a rank, so a round takes a bounded number of
  steps, and the scheduler only waits for room or for the send interval (`waits_of_step`).
- **Main result** (`Tour.follows_itinerary`): at any moment what was sent begins an itinerary, and
  at the end of the round it is one.
-/

namespace FlowTrace

/-- The largest hop limit that a flow is worth probing with. -/
def HopTable.limits (c : Config) (t : HopTable) (flow : UInt16) : Nat :=
  ((t.targetTtl flow).getD c.maxTtl).toNat

section Limits

variable {c : Config} {t t' : HopTable} {es es' : List Event}

theorem HopTable.Applies.targetTtl (h : (HopTable.new c).Applies es t) (flow : UInt16) :
    t.targetTtl flow = (arrivals c flow es).min? :=
  (tallies_of_applies h).targetTtl flow

theorem Config.Bounds.tableHops_eq (hb : c.Bounds) : c.tableHops = c.maxTtl.toNat :=
  Nat.max_eq_left hb.ttl_pos

theorem HopTable.limits_le_max (hb : c.Bounds) (h : (HopTable.new c).Applies es t)
    (flow : UInt16) : t.limits c flow ≤ c.maxTtl.toNat := by
  rw [limits, h.targetTtl]
  cases least : (arrivals c flow es).min? with
  | none => exact Nat.le_refl _
  | some ttl => exact hb.tableHops_eq ▸ arrivals_le (List.min?_mem least)

/-- Whatever is done to a table, no target gets farther away. -/
theorem HopTable.limits_le (hb : c.Bounds) (h : (HopTable.new c).Applies es t)
    (more : t.Applies es' t') (flow : UInt16) : t'.limits c flow ≤ t.limits c flow := by
  have later := h.trans more
  cases least : (arrivals c flow es).min? with
  | none =>
    have hfar : t.limits c flow = c.maxTtl.toNat := by rw [limits, h.targetTtl, least]; rfl
    exact hfar ▸ limits_le_max hb later flow
  | some ttl =>
    obtain ⟨ttl', least', le⟩ := arrivals_min_le c flow (List.prefix_append es es') least
    rw [limits, limits, later.targetTtl, h.targetTtl, least, least']
    exact UInt8.le_iff_toNat_le.mp le

end Limits

namespace Session

/-! ## Phases of a round -/

namespace Scheduler

/-- The sweep of a phase in which a round is sent. -/
def Phase.sweep? : Phase → Option Sweep
  | .visiting s | .waiting s _ _ | .pausing s _ _ | .checking s _ _ | .registering s _ _
  | .sending s _ | .counting s _ | .withdrawing s _ | .releasing s _ | .failing s _ _
  | .publishing s _ => some s
  | _ => none

/-- The probe that the next step sets out to send. -/
def Phase.attempts : Phase → List ProbeKey
  | .registering s flow ttl => [⟨flow, s.round, ttl⟩]
  | _ => []

/-- The round is sent, or broken off. -/
def Phase.isOver : Phase → Bool
  | .publishing .. => true
  | _ => false

/-- `rest` is the probe that a visit led to, until the scheduler sets out to send it. -/
def Phase.Expects (rest : List ProbeKey) : Phase → Prop
  | .waiting s flow ttl | .pausing s flow ttl | .checking s flow ttl | .registering s flow ttl =>
    rest = [⟨flow, s.round, ttl⟩]
  | .publishing _ false => True
  | _ => rest = []

/-- The steps that follow a visit at most before the next one. -/
def Phase.place : Phase → Nat
  | .visiting _ => 1
  | .waiting .. => 9
  | .pausing .. => 8
  | .checking .. => 7
  | .registering .. => 6
  | .sending .. => 5
  | .counting .. | .withdrawing .. => 4
  | .releasing .. => 3
  | .failing .. => 2
  | _ => 0

/-- How many probes of a round are left at most. -/
def unsent (c : Config) (s : Sweep) : Nat :=
  c.flows.toNat * c.maxTtl.toNat - (itinerary c s.round s.taken).length

/-- How many steps of a round are left at most: each probe may take nine steps and another pass
through all flows. -/
def rank (c : Config) (p : Phase) (s : Sweep) : Nat :=
  unsent c s * (c.flows.toNat + 9) + s.queue.length + (if s.active then c.flows.toNat + 1 else 0) +
    p.place

/-- The scheduler is on its way through a round, and has visited the flows `done` in pass `i`. The
events `es` have been applied to the table, `first` are the largest hop limits at the start, and
`sent` are the probes that the scheduler has set out to send. -/
structure Phase.Course (c : Config) (round : UInt32) (first : UInt16 → Nat) (p : Phase) (w : Shared)
    (sent : List ProbeKey) (s : Sweep) (i : Nat) (done : List UInt16) (rest : List ProbeKey)
    (es : List Event) : Prop where
  applies : (HopTable.new c).Applies es w.table
  sweep : p.sweep? = some s
  round_eq : s.round = round
  inPass : s.InPass c (w.table.limits c) i done
  nearer : ∀ f, w.table.limits c f ≤ first f
  within : ∀ f ∈ c.flowNumbers, s.taken f ≤ first f
  log : sent ++ rest = itinerary c round s.taken
  expects : p.Expects rest
  ended : p = .publishing s true → ∀ f ∈ c.flowNumbers, w.table.limits c f ≤ s.taken f
  broken : p = .publishing s false → w.stop = true

variable {c : Config} {src : Address} {round : UInt32} {first : UInt16 → Nat} {p p' : Phase}
  {w w' : Shared} {sent : List ProbeKey} {s : Sweep} {i : Nat} {done : List UInt16}
  {rest : List ProbeKey} {es es' : List Event} {limit : UInt16 → Nat} {flow : UInt16}
  {queue : List UInt16}

theorem length_itinerary_le (c : Config) (round : UInt32) (last : UInt16 → Nat) :
    (itinerary c round last).length ≤ c.flows.toNat * c.maxTtl.toNat := by
  have most := length_passes_le round last c.flowNumbers c.maxTtl.toNat
  rwa [c.length_flowNumbers, Nat.mul_comm] at most

/-- What happens to the table and to the signals does not lead a round off its course. -/
theorem Phase.Course.shared (hb : c.Bounds) (h : p.Course c round first w sent s i done rest es)
    (more : w.table.Applies es' w'.table) (stop : w.stop = true → w'.stop = true) :
    p.Course c round first w' sent s i done rest (es ++ es') :=
  have nearer := HopTable.limits_le hb h.applies more
  { h with
    applies := h.applies.trans more
    inPass := h.inPass.mono nearer
    nearer := fun f => (nearer f).trans (h.nearer f)
    ended := fun closed f hf => (nearer f).trans (h.ended closed f hf)
    broken := fun closed => stop (h.broken closed) }

/-- A step that keeps the sweep. -/
theorem Phase.Course.goes (h : p.Course c round first w sent s i done rest es)
    {sent' rest' : List ProbeKey} (sweep : p'.sweep? = some s) (log : sent' ++ rest' = sent ++ rest)
    (expects : p'.Expects rest') (going : p' ≠ .publishing s true)
    (broken : p' = .publishing s false → w.stop = true) :
    p'.Course c round first w sent' s i done rest' es :=
  { h with
    sweep := sweep
    log := log.trans h.log
    expects := expects
    ended := fun closed => (going closed).elim
    broken := broken }

/-- The course goes on after a step, and less is left of it. -/
def Phase.Onward (c : Config) (round : UInt32) (first : UInt16 → Nat) (p : Phase) (s : Sweep)
    (p' : Phase) (w' : Shared) (sent' : List ProbeKey) : Prop :=
  ∃ s' i' done' rest' es', p'.Course c round first w' sent' s' i' done' rest' es' ∧
    rank c p' s' < rank c p s

/-- With one more probe sent, one less is left. -/
theorem unsent_advance (h : s.InPass c limit i done) (next : s.queue = flow :: queue)
    (more : s.taken flow < limit flow) (inside : i < c.maxTtl.toNat) :
    unsent c s = unsent c (s.advance flow queue) + 1 := by
  have longer : (itinerary c s.round (s.advance flow queue).taken).length =
      (itinerary c s.round s.taken).length + 1 := by
    rw [itinerary, h.passes_advance next more inside, List.length_append]
    rfl
  have most := length_itinerary_le c s.round (s.advance flow queue).taken
  have round : (s.advance flow queue).round = s.round := rfl
  unfold unsent
  rw [round]
  omega

/-- A visit leads to the next probe, past a flow, to the next pass or to the end of the round. -/
theorem onward_visit (hb : c.Bounds) (src : Address)
    (h : (Phase.visiting s).Course c round first w sent s i done rest es) :
    (Phase.visiting s).Onward c round first s (visit (Setup.ofConfig c src) w.table s) w sent := by
  obtain ⟨applies, -, round_eq, inPass, nearer, within, log, expects, -, -⟩ := h
  obtain rfl : rest = [] := expects
  unfold visit
  split
  -- The queue is empty. There is another pass if a flow was probed in this one.
  · rename_i empty
    split
    · rename_i active
      rw [flowNumbers_ofConfig]
      refine ⟨_, i + 1, [], [], es, ⟨applies, rfl, round_eq, inPass.turn empty, nearer, within, log,
        rfl, nofun, nofun⟩, ?_⟩
      -- What `active` stands for in the rank pays for the new queue.
      have hsame : unsent c { s with queue := c.flowNumbers, active := false } = unsent c s := rfl
      simp only [rank, hsame, empty, active, c.length_flowNumbers, Phase.place, List.length_nil,
        if_true, Bool.false_eq_true, if_false]
      omega
    · rename_i idle
      refine ⟨s, i, done, [], es, ⟨applies, rfl, round_eq, inPass, nearer, within, log, rfl,
        fun _ f hf => inPass.ended empty (Bool.not_eq_true _ ▸ idle) hf, nofun⟩, ?_⟩
      exact Nat.lt_succ_self _
  -- The next flow of the queue is at its end, or its probe is set out for.
  · rename_i flow queue next
    obtain ⟨-, -, mem⟩ := inPass.ne_of_next next
    have ttl := inPass.next_eq (Config.mem_flowNumbers.mp mem)
    simp only [ttl]
    split
    · rename_i ended
      have ended : w.table.limits c flow ≤ s.taken flow := Nat.le_of_lt_succ ended
      refine ⟨_, i, done ++ [flow], [], es, ⟨applies, rfl, round_eq, inPass.skip next ended, nearer,
        within, log, rfl, nofun, nofun⟩, ?_⟩
      have hsame : unsent c { s with queue := queue } = unsent c s := rfl
      simp only [rank, hsame, next, List.length_cons, Phase.place]
      omega
    · rename_i more
      have more : s.taken flow < w.table.limits c flow := Nat.lt_of_succ_le (Nat.le_of_not_lt more)
      have own := inPass.taken_of_next next more
      have most := HopTable.limits_le_max hb applies flow
      have inside : i < c.maxTtl.toNat := by omega
      have taken := inPass.taken_advance (Config.mem_flowNumbers.mp mem) queue
      have advance : s.advance flow queue = { s with
          queue := queue, active := true
          next := s.next.set flow.toNat (s.taken flow + 1 + 1) } := by
        rw [Sweep.advance, ttl]
      rw [← advance]
      refine ⟨s.advance flow queue, i, done ++ [flow], [⟨flow, round, UInt8.ofNat (i + 1)⟩], es,
        ⟨applies, rfl, round_eq, inPass.step next more, nearer, fun f hf => ?_, ?_, ?_, nofun,
          nofun⟩, ?_⟩
      · rw [taken]
        split
        · rename_i hsame
          exact hsame ▸ Nat.le_trans more (nearer flow)
        · exact within f hf
      · rw [itinerary, inPass.passes_advance next more inside, ← itinerary, ← log, List.append_nil]
      · rw [← own, ← round_eq]
        rfl
      · -- One probe less is left, which pays for its steps and for another pass.
        have less := unsent_advance inPass next more inside
        have queue' : (s.advance flow queue).queue = queue := rfl
        have active : (s.advance flow queue).active = true := rfl
        simp only [rank, less, next, queue', active, List.length_cons, Phase.place, if_true,
          Nat.succ_mul]
        omega

/-- A step that keeps the sweep comes nearer to the next visit. -/
theorem Phase.Course.onward (hb : c.Bounds) (h : p.Course c round first w sent s i done rest es)
    {sent' rest' : List ProbeKey} (place : p'.place < p.place) (sweep : p'.sweep? = some s)
    (log : sent' ++ rest' = sent ++ rest) (expects : p'.Expects rest')
    (going : p' ≠ .publishing s true) (broken : p' = .publishing s false → w.stop = true)
    (more : w.table.Applies es' w'.table) (stop : w'.stop = w.stop) :
    p.Onward c round first s p' w' sent' :=
  ⟨s, i, done, rest', es ++ es', (h.goes sweep log expects going broken).shared hb more stop.trans,
    Nat.add_lt_add_left place _⟩

/-- Every step of a round keeps its course. -/
theorem Transition.onward (hb : c.Bounds) {now : Instant} {accepted : Bool}
    (h : p.Course c round first w sent s i done rest es) (going : p.isOver = false)
    (ht : Transition (.ofConfig c src) now accepted p w p' w') :
    p.Onward c round first s p' w' (sent ++ p.attempts) := by
  have keep := w.table.applies_refl
  have none_sent (rest : List ProbeKey) : sent ++ [] ++ rest = sent ++ rest := by
    rw [List.append_nil]
  cases ht with
  | quit | begin | resolve | abandon | complete | leaveResting | wake => cases h.sweep
  | publish | breakOff => cases going
  | visit =>
    obtain rfl := Option.some.inj h.sweep
    have visited := onward_visit hb src h
    rwa [← List.append_nil sent] at visited
  | allow | pace | proceed =>
    exact h.onward hb (by simp [Phase.place]) h.sweep (none_sent rest) h.expects nofun nofun
      keep rfl
  | leaveWaiting _ _ _ _ stop | leavePausing _ _ _ _ stop | leaveChecking _ _ _ _ stop =>
    exact h.onward hb (by simp [Phase.place]) h.sweep (none_sent rest) trivial nofun (fun _ => stop)
      keep rfl
  | skip | refuse | register =>
    obtain rfl := Option.some.inj h.sweep
    obtain rfl : rest = _ := h.expects
    exact h.onward hb (by simp [Phase.place]) rfl (List.append_nil _) rfl nofun nofun keep rfl
  | send | lose | withdraw | miss | release =>
    exact h.onward hb (by simp [Phase.place]) h.sweep (none_sent rest) h.expects nofun nofun
      keep rfl
  | count =>
    exact h.onward hb (by simp [Phase.place]) h.sweep (none_sent rest) h.expects nofun nofun
      (w.table.applies_recordSent ..) rfl
  | fail =>
    exact h.onward hb (by simp [Phase.place]) h.sweep (none_sent rest) h.expects nofun nofun
      (w.table.applies_apply _) rfl

/-- A round goes on unless there is no room for one more probe or its time has not come. -/
theorem waits_of_step {setup : Setup} {now : Instant} {accepted : Bool} {d : Scheduler}
    (going : d.phase.isOver = false) (sending : d.phase.sweep? = some s)
    (h : d.step setup now accepted w = none) :
    w.stop = false ∧
      (setup.config.maxInFlight ≤ w.index.count ∨
        (setup.config.sendInterval.isZero = false ∧ now.nanos < d.due.nanos)) := by
  obtain ⟨phase, due⟩ := d
  -- Only two phases of a round can be without a step.
  cases phase with
  | deciding | resolving | completing | resting | finished => cases sending
  | publishing => cases going
  | visiting | registering | sending | counting | releasing | failing => cases h
  | checking | withdrawing =>
    simp only [step] at h
    split at h <;> cases h
  | waiting =>
    simp only [step] at h
    split at h
    · cases h
    · rename_i full
      split at h
      · cases h
      · rename_i stop
        exact ⟨Bool.not_eq_true _ ▸ stop, .inl (Nat.le_of_not_lt full)⟩
  | pausing =>
    simp only [step] at h
    split at h
    · cases h
    · rename_i paced
      split at h
      · cases h
      · rename_i stop
        split at h
        · cases h
        · rename_i hearly
          exact ⟨Bool.not_eq_true _ ▸ stop,
            .inr ⟨Bool.not_eq_true _ ▸ paced, Nat.lt_of_not_le hearly⟩⟩

end Scheduler

open Scheduler

/-! ## Tours -/

/-- The scheduler in the course of one round. -/
structure Tour where
  scheduler : Scheduler
  shared : Shared
  /-- The probes that the scheduler has set out to send. -/
  sent : List ProbeKey := []
  /-- The steps of the scheduler up to now. -/
  steps : Nat := 0
  /-- How many times the scheduler was to take a step and had to wait. -/
  waits : Nat := 0

/-- What may happen during a round. -/
inductive Tour.Move where
  /-- The scheduler takes a step or waits. -/
  | schedule (now : Instant) (accepted : Bool)
  /-- The other tasks leave some index behind, and do anything to the table. -/
  | others (index : Outstanding) (ops : List HopTable.Operation)
  /-- The session is stopped. -/
  | stop

namespace Tour

/-- The scheduler is to take a step. -/
def Move.isStep : Move → Bool
  | .schedule .. => true
  | _ => false

/-- The tour ends once the round is sent, or broken off. -/
def move (setup : Setup) (t : Tour) (m : Move) : Tour :=
  if t.scheduler.phase.isOver then t
  else
    match m with
    | .schedule now accepted =>
      match t.scheduler.step setup now accepted t.shared with
      | none => { t with waits := t.waits + 1 }
      | some (d, w) =>
        { t with
          scheduler := d, shared := w, sent := t.sent ++ t.scheduler.phase.attempts
          steps := t.steps + 1 }
    | .others index ops =>
      { t with shared := { t.shared with index := index, table := t.shared.table.run ops } }
    | .stop => { t with shared := { t.shared with stop := true } }

/-- The tour of a round, from its beginning on. -/
def after (c : Config) (src : Address) (round : UInt32) (startedAt due : Instant) (w : Shared)
    (moves : List Move) : Tour :=
  let setup := Setup.ofConfig c src
  let scheduler : Scheduler := ⟨.visiting (beginSweep setup round startedAt), due⟩
  moves.foldl (move setup) { scheduler := scheduler, shared := w }

/-- The round has been sent without being broken off. -/
def IsComplete (t : Tour) : Prop := ∃ s, t.scheduler.phase = .publishing s true

/-- The tour is on course, and there are not too many steps left. -/
def OnCourse (c : Config) (round : UInt32) (first : UInt16 → Nat) (most : Nat) (t : Tour) : Prop :=
  ∃ s i done rest es,
    t.scheduler.phase.Course c round first t.shared t.sent s i done rest es ∧
    t.steps + rank c t.scheduler.phase s ≤ most

/-- The most steps that the tour of a round takes. -/
def mostSteps (c : Config) : Nat :=
  c.flows.toNat * c.maxTtl.toNat * (c.flows.toNat + 9) + c.flows.toNat + 1

variable {c : Config} {src : Address} {round : UInt32} {first : UInt16 → Nat} {most : Nat}
  {t : Tour}

theorem onCourse_move (hb : c.Bounds) (h : t.OnCourse c round first most) (m : Move) :
    (t.move (.ofConfig c src) m).OnCourse c round first most := by
  obtain ⟨s, i, done, rest, es, course, bound⟩ := h
  unfold move
  split
  · exact ⟨s, i, done, rest, es, course, bound⟩
  · rename_i going
    cases m with
    | schedule now accepted =>
      cases taken : t.scheduler.step (.ofConfig c src) now accepted t.shared with
      | none =>
        simp only [taken]
        exact ⟨s, i, done, rest, es, course, bound⟩
      | some next =>
        simp only [taken]
        obtain ⟨s', i', done', rest', es', course', less⟩ :=
          (transition_of_step taken).onward hb course (Bool.not_eq_true _ ▸ going)
        refine ⟨s', i', done', rest', es', course', ?_⟩
        show t.steps + 1 + rank c next.1.phase s' ≤ most
        omega
    -- A course allows for whatever other tasks do to the index and to the table.
    | others index ops =>
      exact ⟨s, i, done, rest, _, course.shared hb (t.shared.table.applies_run ops) id, bound⟩
    | stop =>
      exact ⟨s, i, done, rest, _, course.shared hb t.shared.table.applies_refl fun _ => rfl, bound⟩

/-- The beginning of a round. -/
theorem onCourse_begin {es : List Event} (src : Address) (round : UInt32) (startedAt due : Instant)
    {w : Shared} (applies : (HopTable.new c).Applies es w.table) :
    (after c src round startedAt due w []).OnCourse c round (w.table.limits c) (mostSteps c) := by
  have start := Sweep.InPass.start c src (w.table.limits c) round startedAt
  have queue := start.split
  have hfresh : ∀ f ∈ c.flowNumbers,
      (beginSweep (.ofConfig c src) round startedAt).taken f ≤ 0 := by
    rw [queue]
    exact fun f hf => start.taken_queue_le hf
  have nothing : itinerary c round (beginSweep (.ofConfig c src) round startedAt).taken = [] :=
    passes_of_le hfresh (Nat.zero_le _)
  refine ⟨_, 0, [], [], es, ⟨applies, rfl, rfl, start, fun f => Nat.le_refl _,
    fun f hf => (hfresh f hf).trans (Nat.zero_le _), nothing.symm, rfl, nofun, nofun⟩, ?_⟩
  have length : (beginSweep (.ofConfig c src) round startedAt).queue.length = c.flows.toNat := by
    rw [← List.nil_append (Sweep.queue _), ← queue, c.length_flowNumbers]
  -- No probe is sent yet, so the rank of the round is the largest there is.
  have less : unsent c (beginSweep (.ofConfig c src) round startedAt) * (c.flows.toNat + 9) ≤
      c.flows.toNat * c.maxTtl.toNat * (c.flows.toNat + 9) :=
    Nat.mul_le_mul_right _ (Nat.sub_le ..)
  show 0 + (_ + _ + 0 + 1) ≤ _
  rw [length, mostSteps]
  omega

/-- A scheduled step takes place or is waited for. -/
theorem counts_move (setup : Setup) (m : Move)
    (going : (t.move setup m).scheduler.phase.isOver = false) :
    t.scheduler.phase.isOver = false ∧
      (t.move setup m).steps + (t.move setup m).waits = t.steps + t.waits + m.isStep.toNat := by
  unfold move at going ⊢
  split
  · rename_i closed
    rw [if_pos closed, closed] at going
    cases going
  · rename_i going
    refine ⟨Bool.not_eq_true _ ▸ going, ?_⟩
    cases m with
    | schedule now accepted =>
      cases taken : t.scheduler.step setup now accepted t.shared with
      | none =>
        simp only [taken]
        exact (Nat.add_assoc ..).symm
      | some next =>
        simp only [taken]
        exact Nat.add_right_comm ..
    | others | stop => rfl

theorem after_concat (c : Config) (src : Address) (round : UInt32) (startedAt due : Instant)
    (w : Shared) (moves : List Move) (m : Move) :
    after c src round startedAt due w (moves ++ [m]) =
      (after c src round startedAt due w moves).move (.ofConfig c src) m := List.foldl_concat ..

theorem onCourse_after (hb : c.Bounds) {es : List Event} (src : Address) (round : UInt32)
    (startedAt due : Instant) {w : Shared} (applies : (HopTable.new c).Applies es w.table)
    (moves : List Move) :
    (after c src round startedAt due w moves).OnCourse c round (w.table.limits c)
      (mostSteps c) := by
  induction moves using List.reverseRecOn with
  | nil => exact onCourse_begin src round startedAt due applies
  | append_singleton moves m ih => exact after_concat .. ▸ onCourse_move hb ih m

theorem counts_after (c : Config) (src : Address) (round : UInt32) (startedAt due : Instant)
    (w : Shared) (moves : List Move)
    (going : (after c src round startedAt due w moves).scheduler.phase.isOver = false) :
    (after c src round startedAt due w moves).steps +
      (after c src round startedAt due w moves).waits = moves.countP Move.isStep := by
  induction moves using List.reverseRecOn with
  | nil => rfl
  | append_singleton moves m ih =>
    rw [after_concat] at going ⊢
    obtain ⟨before, counts⟩ := counts_move _ m going
    rw [counts, ih before, List.countP_append, List.countP_singleton]
    cases m.isStep <;> rfl

end Tour

/-! ## One round -/

/-- How far a flow goes in a round, given the table at the beginning of the round and at its end: no
farther than the target was known to be at the beginning, and at least as far as it is known to be
at the end. -/
structure LastHop (c : Config) (before after : HopTable) (flow : UInt16) (last : Nat) : Prop where
  le : last ≤ c.maxTtl.toNat
  known : ∀ ttl, before.targetTtl flow = some ttl → last ≤ ttl.toNat
  found : ∀ ttl, after.targetTtl flow = some ttl → ttl.toNat ≤ last
  unfound : after.targetTtl flow = none → last = c.maxTtl.toNat

theorem lastHop_of_limits {c : Config} {before after : HopTable} {flow : UInt16} {last : Nat}
    (inside : before.limits c flow ≤ c.maxTtl.toNat) (le : last ≤ before.limits c flow)
    (ge : after.limits c flow ≤ last) : LastHop c before after flow last where
  le := le.trans inside
  known ttl h := by rwa [HopTable.limits, h] at le
  found ttl h := by rwa [HopTable.limits, h] at ge
  unfound h := by
    rw [HopTable.limits, h] at ge
    exact (le.trans inside).antisymm ge

namespace Tour

variable {c : Config} {src : Address} {round : UInt32} {first : UInt16 → Nat} {most : Nat}
  {t : Tour}

/-- A tour that goes on has at least one step left. -/
theorem OnCourse.isOver (h : t.OnCourse c round first most) (all : most ≤ t.steps) :
    t.scheduler.phase.isOver = true := by
  obtain ⟨s, i, done, rest, es, course, bound⟩ := h
  have zero : rank c t.scheduler.phase s = 0 := by omega
  have placed : t.scheduler.phase.place = 0 := (Nat.add_eq_zero_iff.mp zero).2
  cases phase : t.scheduler.phase with
  | publishing => rfl
  | deciding | resolving | completing | resting | finished =>
    rw [phase] at course
    cases course.sweep
  | _ =>
    rw [phase] at placed
    cases placed

/-- A round that is over is complete or broken off. -/
theorem OnCourse.stop (h : t.OnCourse c round first most) (closed : t.scheduler.phase.isOver = true)
    (broken : ¬ t.IsComplete) : t.shared.stop = true := by
  obtain ⟨s, i, done, rest, es, course, -⟩ := h
  cases phase : t.scheduler.phase with
  | publishing s' complete =>
    cases complete with
    | true => exact (broken ⟨s', phase⟩).elim
    | false =>
      have sweep := course.sweep
      rw [phase] at sweep
      obtain rfl := Option.some.inj sweep
      exact course.broken phase
  | _ =>
    rw [phase] at closed
    cases closed

theorem OnCourse.length_le (h : t.OnCourse c round first most) :
    t.sent.length ≤ c.flows.toNat * c.maxTtl.toNat := by
  obtain ⟨s, i, done, rest, es, course, -⟩ := h
  have all := congrArg List.length course.log
  rw [List.length_append] at all
  have most := length_itinerary_le c round s.taken
  omega

/-- The next hop limit of a flow is in the range of a byte. -/
theorem OnCourse.next_lt (hb : c.Bounds) (h : t.OnCourse c round first most)
    (inside : ∀ flow, first flow ≤ c.maxTtl.toNat) {s : Sweep}
    (sweep : t.scheduler.phase.sweep? = some s) {n : Nat} (hn : n ∈ s.next) :
    n ≤ c.maxTtl.toNat + 1 ∧ n < 256 := by
  obtain ⟨s', i, done, rest, es, course, -⟩ := h
  obtain rfl : s' = s := Option.some.inj (course.sweep.symm.trans sweep)
  obtain ⟨flow, mem, rfl⟩ := course.inPass.eq_of_mem hn
  have taken := (course.within flow mem).trans (inside flow)
  have := hb.ttl_le
  omega

/-- What was sent begins an itinerary, and at the end of the round it is one. -/
theorem OnCourse.exists_itinerary {before : HopTable}
    (h : t.OnCourse c round (before.limits c) most)
    (inside : ∀ flow, before.limits c flow ≤ c.maxTtl.toNat) :
    ∃ last : UInt16 → Nat,
      (∀ flow ∈ c.flowNumbers, LastHop c before t.shared.table flow (last flow)) ∧
      t.sent <+: itinerary c round last ∧ (t.IsComplete → t.sent = itinerary c round last) := by
  obtain ⟨s, i, done, rest, es, course, -⟩ := h
  -- A flow that is not at its end yet would go on to the limit that the table sets now.
  let last flow := max (s.taken flow) (t.shared.table.limits c flow)
  refine ⟨last, fun flow mem => ?_, ?_, ?_⟩
  · exact lastHop_of_limits (inside flow) (max_le (course.within flow mem) (course.nearer flow))
      (le_max_right ..)
  · have part : itinerary c round s.taken <+: itinerary c round last :=
      course.inPass.isPrefix (fun flow _ => le_max_left ..) (fun flow _ => max_eq_left) _
    exact (course.log ▸ List.prefix_append t.sent rest).trans part
  · rintro ⟨s', phase⟩
    have sweep := course.sweep
    have expects := course.expects
    rw [phase] at sweep expects
    obtain rfl := Option.some.inj sweep
    obtain rfl : rest = [] := expects
    have ended := course.ended phase
    have hsame : itinerary c round s'.taken = itinerary c round last := by
      refine passes_congr fun flow mem j _ => ?_
      have own : last flow = s'.taken flow := max_eq_left (ended flow mem)
      rw [own]
    rw [← hsame, ← course.log, List.append_nil]

/-- What one round sends, whatever other tasks do to the index and to the table meanwhile. It goes
through the hop limits pass by pass and in each pass through the flows in order, up to the last hop
of each flow, and no flow goes back or leaves out a hop limit. What is sent up to any moment begins
such an itinerary. The round takes a bounded number of steps; besides, the scheduler only waits for
room or for the send interval, and only a stop breaks the round off. -/
theorem follows_itinerary {c : Config} (hc : c.check = .ok ()) (src : Address) (round : UInt32)
    (startedAt due : Instant) (index : Outstanding) (ops : List HopTable.Operation)
    (stop shutdown : Bool) (moves : List Move) :
    let w : Shared := ⟨index, HopTable.after c ops, stop, shutdown⟩
    let t := after c src round startedAt due w moves
    (∃ last : UInt16 → Nat,
      (∀ flow ∈ c.flowNumbers, LastHop c w.table t.shared.table flow (last flow)) ∧
      t.sent <+: itinerary c round last ∧
      (t.IsComplete → t.sent = itinerary c round last ∧
        ∀ flow ∈ c.flowNumbers, (t.sent.filter (·.flow = flow)).map (·.ttl.toNat) =
          List.range' 1 (last flow))) ∧
    t.sent.length ≤ c.flows.toNat * c.maxTtl.toNat ∧
    (∀ s, t.scheduler.phase.sweep? = some s →
      ∀ n ∈ s.next, n ≤ c.maxTtl.toNat + 1 ∧ n < 256) ∧
    (mostSteps c + t.waits ≤ moves.countP Move.isStep → t.scheduler.phase.isOver = true) ∧
    (∀ now accepted, t.scheduler.phase.isOver = false →
      t.scheduler.step (.ofConfig c src) now accepted t.shared = none →
      t.shared.stop = false ∧ (c.maxInFlight ≤ t.shared.index.count ∨
        (c.sendInterval.isZero = false ∧ now.nanos < t.scheduler.due.nanos))) ∧
    (t.scheduler.phase.isOver = true → ¬ t.IsComplete → t.shared.stop = true) := by
  intro w t
  have hb := Config.bounds_of_check hc
  have applies : (HopTable.new c).Applies (HopTable.events ops) w.table :=
    HopTable.applies_after c ops
  have inside := HopTable.limits_le_max hb applies
  have onCourse : t.OnCourse c round (w.table.limits c) (mostSteps c) :=
    onCourse_after hb src round startedAt due applies moves
  refine ⟨?_, onCourse.length_le, fun s sweep n hn => onCourse.next_lt hb inside sweep hn,
    fun enough => ?_, fun now accepted going waits => ?_, onCourse.stop⟩
  · obtain ⟨last, lastHop, part, whole⟩ := onCourse.exists_itinerary inside
    refine ⟨last, lastHop, part, fun complete => ⟨whole complete, fun flow mem => ?_⟩⟩
    have most : c.maxTtl.toNat ≤ 255 := hb.ttl_le.trans (by decide)
    rw [whole complete, itinerary, hopLimits_passes c.nodup_flowNumbers mem most,
      Nat.min_eq_left (lastHop flow mem).le]
  -- Were the round not over, every scheduled move would be a step or a wait.
  · by_contra going
    have counts := counts_after c src round startedAt due w moves (Bool.not_eq_true _ ▸ going)
    have all : mostSteps c ≤ t.steps := by
      have : t.steps + t.waits = moves.countP Move.isStep := counts
      omega
    exact going (onCourse.isOver all)
  · obtain ⟨s, i, done, rest, es, course, -⟩ := onCourse
    exact waits_of_step going course.sweep waits

/-- A session of two flows with two hop limits that sends without pause. -/
def shortPair : Config :=
  { Config.standard (.ofOctets4 192 0 2 1) .icmp 7 with
    flows := 2, maxTtl := 2, sendInterval := .zero }

/-- After the first pass the target answers the first flow. -/
def targetAnswers : List Move :=
  List.replicate 14 (.schedule ⟨0⟩ true) ++
    .others (.new 2)
      [.record (.answered ⟨0, 1, 0, .ofOctets4 192 0 2 1, .ofMillis 5, .echoReply, none, none⟩)] ::
    List.replicate 13 (.schedule ⟨0⟩ true)

def nearTarget : Tour :=
  after shortPair (.ofOctets4 10 0 0 100) 0 ⟨0⟩ ⟨0⟩
    ⟨.new 2, HopTable.after shortPair [], false, false⟩ targetAnswers

/-- The round is not broken off, and the second flow goes on to the largest hop limit. -/
theorem nearTarget_follows_itinerary : shortPair.check = .ok () ∧ nearTarget.IsComplete ∧
    nearTarget.sent = [⟨0, 0, 1⟩, ⟨1, 0, 1⟩, ⟨1, 0, 2⟩] ∧
    ∃ last, last 1 = 2 ∧ nearTarget.sent = itinerary shortPair 0 last := by
  have follows := follows_itinerary (c := shortPair) rfl (.ofOctets4 10 0 0 100) 0 ⟨0⟩ ⟨0⟩
    (.new 2) [] false false targetAnswers
  dsimp only at follows
  rw [← nearTarget] at follows
  obtain ⟨⟨last, lastHop, -, whole⟩, -, -, -, -, broken⟩ := follows
  have closed : nearTarget.scheduler.phase.isOver = true := by decide +kernel
  have going : nearTarget.shared.stop = false := by decide +kernel
  have unfound : nearTarget.shared.table.targetTtl 1 = none := by decide +kernel
  have complete : nearTarget.IsComplete := by
    by_contra incomplete
    exact absurd (going.symm.trans (broken closed incomplete)) nofun
  exact ⟨rfl, complete, by decide +kernel, last, (lastHop 1 (by decide)).unfound unfound,
    (whole complete).1⟩

end Tour

end Session

end FlowTrace
