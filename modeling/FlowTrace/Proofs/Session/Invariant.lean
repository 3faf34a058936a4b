import FlowTrace.Proofs.Session.Round

/-!
# What holds at every moment of a session

- **Steps** (`World.step?_cases`): a step of a task but the scheduler, seen on all tasks.
- **Invariant** (`Inv`): all waiting probes are probes of the round that began last, and the ledger
  of this round is right. It holds at the start (`inv_new`), is kept by every step (`Inv.step`), and
  so holds after every run (`Inv.run`). `World.roundsBegun` counts the rounds of a run.
- **Probes that are gone** (`Past.not_waits_run`): a probe that no longer waits never waits again.
-/

namespace FlowTrace.Session

open Effect

/-- A load consists of two. -/
structure Load.Splits (load l rest : Load) : Prop where
  held : load.held.Perm (l.held ++ rest.held)
  owed : load.owed.Perm (l.owed ++ rest.owed)

/-- One part of a load changes. -/
theorem Effect.Moves.frame {e : Effect} {l l' lost load load' rest : Load} (h : e.Moves l l' lost)
    (hl : load.Splits l rest) (hl' : load'.Splits l' rest) : e.Moves load load' lost where
  held := by
    rw [List.perm_iff_count]
    intro k
    have := h.held.count_eq k
    have := hl.held.count_eq k
    have := hl'.held.count_eq k
    simp only [List.count_append] at *
    omega
  owed := by
    rw [List.perm_iff_count]
    intro r
    have := h.owed.count_eq r
    have := hl.owed.count_eq r
    have := hl'.owed.count_eq r
    simp only [List.count_append] at *
    omega

theorem Effect.Passes.frame {w w' : Shared} {l l' load load' rest lost : Load} {es : List Event}
    (h : Passes w w' l l' es lost) (hl : load.Splits l rest) (hl' : load'.Splits l' rest) :
    Passes w w' load load' es lost := by
  obtain ⟨e, quiet, applied, acts, moves⟩ := h
  exact ⟨e, quiet, applied, acts, moves.frame hl hl'⟩

namespace World

/-! ## The load of a session -/

/-- What all tasks have on their way. -/
def load (w : World) : Load where
  held := w.listeners.flatMap (·.phase.load.held) ++
    (w.sweeper.load.held ++ (w.supervisor.load.held ++ w.scheduler.phase.load.held))
  owed := w.listeners.flatMap (·.phase.load.owed) ++
    (w.sweeper.load.owed ++ (w.supervisor.load.owed ++ w.scheduler.phase.load.owed))

theorem load_new (setup : Setup) (listeners : Nat) (start : Instant) :
    (new setup listeners start).load = {} := by
  simp [load, new, Listener.new, Listener.Phase.load, Sweeper.load, Supervisor.load,
    Scheduler.new, Scheduler.Phase.load]

theorem splits_listener (w : World) {i : Nat} {l : Listener} (hl : w.listeners[i]? = some l) :
    ∃ rest, w.load.Splits l.phase.load rest ∧ ∀ l' shared,
      (load { w with listeners := w.listeners.set i l', shared := shared }).Splits
        l'.phase.load rest := by
  obtain ⟨heldRest, held, held'⟩ := flatMap_set_perm (fun l : Listener => l.phase.load.held) hl
  obtain ⟨owedRest, owed, owed'⟩ := flatMap_set_perm (fun l : Listener => l.phase.load.owed) hl
  refine ⟨⟨heldRest ++ (w.sweeper.load.held ++ (w.supervisor.load.held ++
    w.scheduler.phase.load.held)), owedRest ++ (w.sweeper.load.owed ++ (w.supervisor.load.owed ++
    w.scheduler.phase.load.owed))⟩, ⟨?_, ?_⟩, fun l' _ => ⟨?_, ?_⟩⟩
  all_goals rw [← List.append_assoc]
  · exact held.append_right _
  · exact owed.append_right _
  · exact (held' l').append_right _
  · exact (owed' l').append_right _

theorem splits_sweeper (w : World) : ∃ rest, w.load.Splits w.sweeper.load rest ∧ ∀ s shared,
    (load { w with sweeper := s, shared := shared }).Splits s.load rest := by
  refine ⟨⟨w.listeners.flatMap (·.phase.load.held) ++
    (w.supervisor.load.held ++ w.scheduler.phase.load.held),
    w.listeners.flatMap (·.phase.load.owed) ++
    (w.supervisor.load.owed ++ w.scheduler.phase.load.owed)⟩, ⟨?_, ?_⟩, fun _ _ => ⟨?_, ?_⟩⟩
  all_goals exact List.perm_append_comm_assoc ..

theorem splits_supervisor (w : World) : ∃ rest, w.load.Splits w.supervisor.load rest ∧
    ∀ s shared, (load { w with supervisor := s, shared := shared }).Splits s.load rest := by
  refine ⟨⟨w.listeners.flatMap (·.phase.load.held) ++
    (w.sweeper.load.held ++ w.scheduler.phase.load.held),
    w.listeners.flatMap (·.phase.load.owed) ++
    (w.sweeper.load.owed ++ w.scheduler.phase.load.owed)⟩, ⟨?_, ?_⟩, fun _ _ => ⟨?_, ?_⟩⟩
  all_goals
    rw [List.perm_iff_count]
    intro x
    simp only [load, List.count_append]
    omega

theorem splits_scheduler (w : World) : ∃ rest, w.load.Splits w.scheduler.phase.load rest ∧
    ∀ d shared, (load { w with scheduler := d, shared := shared }).Splits d.phase.load rest := by
  refine ⟨⟨w.listeners.flatMap (·.phase.load.held) ++
    (w.sweeper.load.held ++ w.supervisor.load.held),
    w.listeners.flatMap (·.phase.load.owed) ++
    (w.sweeper.load.owed ++ w.supervisor.load.owed)⟩, ⟨?_, ?_⟩, fun _ _ => ⟨?_, ?_⟩⟩
  all_goals
    rw [List.perm_iff_count]
    intro x
    simp only [load, List.count_append]
    omega

/-- What is not applied is not settled either. -/
theorem ordered_load (w : World) : w.load.Ordered := by
  have listener (l : Listener) : l.phase.load.Ordered := by
    cases h : l.phase <;> first | exact Load.ordered_ofKeys _ | nofun
  have sweeper : w.sweeper.load.Ordered := by
    cases h : w.sweeper <;> first | exact Load.ordered_ofKeys _ | nofun
  have supervisor : w.supervisor.load.Ordered := by
    cases h : w.supervisor <;> first | exact Load.ordered_ofKeys _ | nofun
  have scheduler : w.scheduler.phase.load.Ordered := by
    cases h : w.scheduler.phase <;> nofun
  intro k hk
  simp only [load, List.mem_append, List.mem_flatMap] at hk ⊢
  rcases hk with ⟨l, hl, hk⟩ | hk | hk | hk
  · exact .inl ⟨l, hl, listener l k hk⟩
  · exact .inr (.inl (sweeper k hk))
  · exact .inr (.inr (.inl (supervisor k hk)))
  · exact .inr (.inr (.inr (scheduler k hk)))

/-! ## Steps -/

/-- A listener has broken down. -/
def HasCrashed (w : World) : Prop := ∃ l ∈ w.listeners, l.phase.HasCrashed

instance (w : World) : Decidable w.HasCrashed :=
  inferInstanceAs (Decidable (∃ l ∈ w.listeners, l.phase.HasCrashed))

/-- The events that a step applies to the table. -/
def appliesIn (w : World) : Action → List Event
  | .schedule _ _ => w.scheduler.phase.applies
  | .listen i _ _ => (w.listeners[i]?.map (·.phase.applies)).getD []
  | .sweep _ _ => w.sweeper.applies
  | .supervise _ => w.supervisor.applies
  | .stop => []

/-- A task but the scheduler has taken a step, in which `lost` was lost. -/
structure Passage (w : World) (a : Action) (w' : World) (lost : Load) : Prop where
  effect : Passes w.shared w'.shared w.load w'.load (w.appliesIn a) lost
  ordered : lost.Ordered
  lost : ¬ w'.HasCrashed → lost = {}
  scheduler : w'.scheduler = w.scheduler
  silent : ∀ l ∈ w'.listeners, l.phase.IsSilent

variable {setup : Setup} {w w' : World}

/-- Any step but one of the scheduler is a passage. -/
theorem step?_cases {a : Action} (wf : w.shared.index.WF)
    (hs : ∀ l ∈ w.listeners, l.phase.IsSilent) (h : w.step? setup a = some w') :
    (∃ now accepted, a = .schedule now accepted) ∨ ∃ lost, Passage w a w' lost := by
  cases transition_of_step? h with
  | schedule now accepted => exact .inl ⟨now, accepted, rfl⟩
  | listen i now read l l' shared hl ht =>
    obtain ⟨lost, passes, ordered, crash, silent⟩ := ht.effect wf (hs l (List.mem_of_getElem? hl))
    obtain ⟨rest, splits, splits'⟩ := w.splits_listener hl
    have here : l' ∈ w.listeners.set i l' :=
      List.mem_set (List.getElem?_eq_some_iff.mp hl).1 l'
    refine .inr ⟨lost, ?_, ordered, fun hc => crash fun h => hc ⟨l', here, h⟩, rfl, fun x hx => ?_⟩
    · simp only [appliesIn, hl, Option.map_some, Option.getD_some]
      exact passes.frame splits (splits' l' shared)
    · rcases List.mem_or_eq_of_mem_set hx with hx | rfl
      · exact hs x hx
      · exact silent
  | sweep now leave s shared ht =>
    obtain ⟨rest, splits, splits'⟩ := w.splits_sweeper
    exact .inr ⟨{}, (ht.effect wf).frame splits (splits' s shared), nofun, fun _ => rfl, rfl, hs⟩
  | supervise now s shared ht =>
    obtain ⟨rest, splits, splits'⟩ := w.splits_supervisor
    exact .inr ⟨{}, (ht.effect wf).frame splits (splits' s shared), nofun, fun _ => rfl, rfl, hs⟩
  | stop => exact .inr ⟨{}, .of_same wf rfl rfl, nofun, fun _ => rfl, rfl, hs⟩

end World

/-! ## The invariant -/

variable {c : Config} {src : Address} {cur : UInt32} {lost : Load} {w w' : World}

/-- What holds at every moment; `cur` is the round that began last, and `lost` what tasks that broke
down had on their way. -/
structure Inv (c : Config) (src : Address) (cur : UInt32) (lost : Load) (w : World) : Prop where
  ledger : Ledger cur (w.load ++ lost) w.shared
  length : w.shared.index.shards.length = c.flows.toNat
  probe : ∀ q ∈ w.shared.index.waiting, q.IsProbe c src cur
  passed : ∀ q ∈ w.shared.index.waiting, ¬ w.scheduler.phase.Ahead q.flow q.ttl
  phase : w.scheduler.phase.Ok c src cur
  fits : w.shared.table.state.Fits
  maxTtl : w.shared.table.state.maxTtl = c.maxTtl
  silent : ∀ l ∈ w.listeners, l.phase.IsSilent
  lost : lost.Ordered
  quiet : w.scheduler.phase.IsQuiet → w.shared.index.inRound cur = 0

theorem Inv.ofRound (h : Inv c src cur lost w) : w.shared.index.OfRound c src cur :=
  ⟨h.ledger.wf, h.length, h.probe⟩

/-- Before the first round nothing is outstanding. -/
theorem inv_new (hb : c.Bounds) (src : Address) (listeners : Nat) (start : Instant) :
    Inv c src (0 - 1) {} (World.new (.ofConfig c src) listeners start) := by
  have empty : (World.new (.ofConfig c src) listeners start).shared.index.waiting = [] :=
    Outstanding.new_waiting c.flows
  have idle : (World.new (.ofConfig c src) listeners start).load.owed = [] := by
    rw [World.load_new]
  have flows : c.flows ≠ 0 := fun e => by
    have := hb.flows_pos
    simp [e] at this
  have ttl : c.maxTtl ≠ 0 := fun e => by
    have := hb.ttl_pos
    simp [e] at this
  refine ⟨⟨Outstanding.new_wf c.flows, ?_, ?_, fun r => ?_⟩, ?_, ?_, ?_, rfl, HopState.fits_new c,
    ?_, fun l hl => ?_, nofun, fun _ => rfl⟩
  · simp [empty]
  · simp [idle]
  · simp only [empty, Load.owed_append, idle]
    rfl
  · simp [World.new, Shared.new, Setup.ofConfig, Outstanding.new, flows]
  · simp [empty]
  · simp [empty]
  · simp [World.new, Shared.new, Setup.ofConfig, HopTable.new, HopState.new, ttl]
  · obtain rfl := (List.mem_replicate.mp hl).2
    rfl

/-- Probes that wait after an effect waited before or have been registered. -/
theorem Effect.Acts.mem_waiting {e : Effect} {w w' : Shared} (h : e.Acts w w') {q : PendingProbe}
    (hq : q ∈ w'.index.waiting) : q ∈ e.registered ∨ q ∈ w.index.waiting :=
  List.mem_append.mp
    (h.waiting.mem_iff.mpr (List.mem_append_right _ (List.mem_append_right _ hq)))

/-- A step of a task but the scheduler keeps the invariant. -/
theorem Inv.passes (h : Inv c src cur lost w) {a : Action} {lost' : Load}
    (hp : World.Passage w a w' lost') : Inv c src cur (lost' ++ lost) w' := by
  obtain ⟨e, quiet, -, acts, moves⟩ := hp.effect
  have old {q : PendingProbe} (hq : q ∈ w'.shared.index.waiting) : q ∈ w.shared.index.waiting := by
    simpa [quiet.registered] using acts.mem_waiting hq
  exact {
    ledger := h.ledger.step acts moves (by simp [quiet.registered])
    length := acts.length.trans h.length
    probe := fun q hq => h.probe q (old hq)
    passed := fun q hq => hp.scheduler ▸ h.passed q (old hq)
    phase := hp.scheduler ▸ h.phase
    fits := acts.table.fits h.fits
    maxTtl := acts.table.maxTtl_eq.trans h.maxTtl
    silent := hp.silent
    lost := hp.ordered.append h.lost
    quiet := fun hq => by
      have round := acts.inRound cur
      rw [h.quiet (hp.scheduler ▸ hq), quiet.registered] at round
      simpa using round }

/-- A step of the scheduler is a transition, whose effect is that on all tasks. -/
theorem Inv.transition (h : Inv c src cur lost w) {now : Instant} {accepted : Bool}
    (hs : w.step? (.ofConfig c src) (.schedule now accepted) = some w') :
    Scheduler.Transition (.ofConfig c src) now accepted w.scheduler.phase w.shared
      w'.scheduler.phase w'.shared ∧ w'.listeners = w.listeners ∧
    ∃ e, e.Acts w.shared w'.shared ∧ e.Moves w.load w'.load {} ∧
      w.scheduler.phase.Does (.ofConfig c src) now w'.scheduler.phase e := by
  obtain ⟨⟨d, shared⟩, hstep, rfl⟩ := Option.map_eq_some_iff.mp hs
  have trans := Scheduler.transition_of_step hstep
  obtain ⟨e, acts, moves, does⟩ := trans.effect h.ledger.wf h.ledger.waiting h.phase
  obtain ⟨rest, splits, splits'⟩ := w.splits_scheduler
  exact ⟨trans, rfl, e, acts, moves.frame splits (splits' d shared), does⟩

/-- A registered probe is the one that the sweep has come to. -/
theorem Inv.registered (hb : c.Bounds) (h : Inv c src cur lost w) {now : Instant} {e : Effect}
    {p' : Scheduler.Phase} (hd : w.scheduler.phase.Does (.ofConfig c src) now p' e)
    {q : PendingProbe} (hq : q ∈ e.registered) : q.IsProbe c src cur ∧
      ¬ p'.Ahead q.flow q.ttl ∧ w.scheduler.phase.Ahead q.flow q.ttl := by
  obtain ⟨s, x, hp, rfl, hx, hpending⟩ := hd.registered q hq
  have ok := h.phase
  rw [hp] at ok ⊢
  obtain ⟨sweep, issued⟩ := ok
  have round : s.round = cur := sweep.round_eq
  refine ⟨⟨?_, issued.ttl_pos, Nat.le_trans issued.ttl_le hb.ttl_le, x, round ▸ hx, ?_, ?_⟩,
    Nat.not_le.mpr issued.passed, .inr ⟨rfl, rfl⟩⟩
  · rw [hpending]
    exact round
  · rw [hpending]
    rfl
  · rw [hpending]
    rfl

/-- A step of the scheduler keeps the invariant. When a round begins, nothing is left of the one
before. -/
theorem Inv.schedule (hb : c.Bounds) (h : Inv c src cur lost w) {now : Instant} {accepted : Bool}
    (hs : w.step? (.ofConfig c src) (.schedule now accepted) = some w') :
    Inv c src (w.scheduler.phase.nextRound w'.scheduler.phase cur) lost w' := by
  obtain ⟨trans, hsame, e, acts, moves, does⟩ := h.transition hs
  have ledger := h.ledger.step acts moves fun q hq => (h.registered hb does hq).1.round_eq
  have silent : ∀ l ∈ w'.listeners, l.phase.IsSilent := by
    rw [hsame]
    exact h.silent
  have fits := acts.table.fits h.fits
  have maxTtl := acts.table.maxTtl_eq.trans h.maxTtl
  have length := acts.length.trans h.length
  -- The round number changes only where a round begins.
  cases hbegin : w.scheduler.phase.begins w'.scheduler.phase with
  | false =>
    rw [Scheduler.nextRound_of_not_begins hbegin]
    refine ⟨ledger, length, fun q hq => ?_, fun q hq => ?_,
      trans.ok h.fits h.maxTtl h.phase hbegin, fits, maxTtl, silent, h.lost,
      trans.quiet h.phase h.quiet⟩
    · rcases acts.mem_waiting hq with hq | hq
      · exact (h.registered hb does hq).1
      · exact h.probe q hq
    · rcases acts.mem_waiting hq with hq | hq
      · exact (h.registered hb does hq).2.1
      · exact fun ahead => h.passed q hq (trans.ahead h.fits h.maxTtl hbegin ahead)
  | true =>
    rw [Scheduler.nextRound_of_begins hbegin]
    obtain ⟨was, notNow⟩ := Scheduler.Phase.isQuiet_of_begins hbegin
    have none : e.registered = [] := List.eq_nil_iff_forall_not_mem.mpr fun q hq => by
      obtain ⟨s, x, hp, -⟩ := does.registered q hq
      rw [hp] at was
      exact was
    have settled : w'.shared.index.inRound cur = 0 := by
      have round := acts.inRound cur
      rw [h.quiet was, none] at round
      simpa using round
    obtain ⟨waiting, owed⟩ := ledger.empty settled
    exact ⟨ledger.of_empty waiting owed, length, by simp [waiting], by simp [waiting],
      trans.ok_of_begins h.phase hbegin, fits, maxTtl, silent, h.lost,
      fun hq => (notNow hq).elim⟩

/-! ## Runs -/

namespace World

/-- The number of rounds that a step begins. -/
def beginsIn (setup : Setup) (w : World) (a : Action) : Nat :=
  (w.scheduler.phase.begins (w.step setup a).scheduler.phase).toNat

theorem beginsIn_of_wait {setup : Setup} {w : World} {a : Action} (h : w.step? setup a = none) :
    w.beginsIn setup a = 0 := by
  simp [beginsIn, step, h, Scheduler.begins_self]

theorem beginsIn_of_step {setup : Setup} {w w' : World} {a : Action}
    (h : w.step? setup a = some w') :
    w.beginsIn setup a = (w.scheduler.phase.begins w'.scheduler.phase).toNat := by
  simp [beginsIn, step, h]

/-- The number of rounds that begin in a run. -/
def roundsBegun (setup : Setup) : World → List Action → Nat
  | _, [] => 0
  | w, a :: as => beginsIn setup w a + roundsBegun setup (w.step setup a) as

theorem run_append (setup : Setup) (w : World) (as bs : List Action) :
    w.run setup (as ++ bs) = (w.run setup as).run setup bs := List.foldl_append ..

theorem roundsBegun_append (setup : Setup) (w : World) (as bs : List Action) :
    roundsBegun setup w (as ++ bs) =
      roundsBegun setup w as + roundsBegun setup (w.run setup as) bs := by
  induction as generalizing w with
  | nil => exact (Nat.zero_add _).symm
  | cons a as ih => simp only [List.cons_append, roundsBegun, ih, Nat.add_assoc]; rfl

end World

theorem toUInt32_add (cur : UInt32) (m n : Nat) :
    cur + UInt32.ofNat (m + n) = cur + UInt32.ofNat m + UInt32.ofNat n := by
  rw [UInt32.ofNat_add, UInt32.add_assoc]

/-- Every step keeps the invariant. Only a breakdown loses anything. -/
theorem Inv.step (hb : c.Bounds) (h : Inv c src cur lost w) (a : Action) :
    ∃ lost', (¬ (w.step (.ofConfig c src) a).HasCrashed → lost' = {}) ∧
      Inv c src (cur + UInt32.ofNat (w.beginsIn (.ofConfig c src) a)) (lost' ++ lost)
        (w.step (.ofConfig c src) a) := by
  unfold World.beginsIn World.step
  cases hstep : w.step? (.ofConfig c src) a with
  | none => exact ⟨{}, fun _ => rfl, by simpa [Scheduler.begins_self] using h⟩
  | some w' =>
    simp only [Option.getD_some]
    rcases World.step?_cases h.ledger.wf h.silent hstep with
      ⟨now, accepted, rfl⟩ | ⟨lost', passage⟩
    · exact ⟨{}, fun _ => rfl, h.schedule hb hstep⟩
    · rw [passage.scheduler, Scheduler.begins_self]
      exact ⟨lost', passage.lost, by simpa using h.passes passage⟩

/-- Every run keeps the invariant. -/
theorem Inv.run (hb : c.Bounds) (h : Inv c src cur lost w) (as : List Action) :
    ∃ lost', Inv c src (cur + UInt32.ofNat (World.roundsBegun (.ofConfig c src) w as)) lost'
      (w.run (.ofConfig c src) as) := by
  induction as generalizing w cur lost with
  | nil => exact ⟨lost, by simpa [World.roundsBegun, World.run] using h⟩
  | cons a as ih =>
    obtain ⟨lost₁, -, h₁⟩ := h.step hb a
    obtain ⟨lost₂, h₂⟩ := ih h₁
    refine ⟨lost₂, ?_⟩
    rw [World.roundsBegun, toUInt32_add]
    exact h₂

/-- A session after some steps. -/
def worldAfter (c : Config) (src : Address) (listeners : Nat) (start : Instant)
    (as : List Action) : World :=
  (World.new (.ofConfig c src) listeners start).run (.ofConfig c src) as

/-- The number of rounds that begin in the steps `as` of a session after the steps `before`. -/
def roundsAfter (c : Config) (src : Address) (listeners : Nat) (start : Instant)
    (before as : List Action) : Nat :=
  World.roundsBegun (.ofConfig c src) (worldAfter c src listeners start before) as

/-- A longer run has no fewer rounds. -/
theorem roundsAfter_le_append (c : Config) (src : Address) (listeners : Nat) (start : Instant)
    (before as bs : List Action) : roundsAfter c src listeners start before as ≤
      roundsAfter c src listeners start before (as ++ bs) := by
  rw [roundsAfter, roundsAfter, World.roundsBegun_append]
  exact Nat.le_add_right ..

/-- What a step registers was still ahead in the round, and within a round nothing comes back. -/
theorem Inv.effect_of_step (hb : c.Bounds) (h : Inv c src cur lost w) {a : Action}
    (hstep : w.step? (.ofConfig c src) a = some w') : ∃ e : Effect, e.Acts w.shared w'.shared ∧
      (∀ q ∈ e.registered, q.round = cur ∧ w.scheduler.phase.Ahead q.flow q.ttl) ∧
      (w.scheduler.phase.begins w'.scheduler.phase = false → ∀ {flow ttl},
        w'.scheduler.phase.Ahead flow ttl → w.scheduler.phase.Ahead flow ttl) := by
  rcases World.step?_cases h.ledger.wf h.silent hstep with
    ⟨now, accepted, rfl⟩ | ⟨_, passage⟩
  · obtain ⟨trans, -, e, acts, -, does⟩ := h.transition hstep
    refine ⟨e, acts, fun q hq => ?_, fun hbegin _ _ => trans.ahead h.fits h.maxTtl hbegin⟩
    obtain ⟨isProbe, -, ahead⟩ := h.registered hb does hq
    exact ⟨isProbe.round_eq, ahead⟩
  · obtain ⟨e, quiet, -, acts, -⟩ := passage.effect
    refine ⟨e, acts, by simp [quiet.registered], fun _ _ _ ahead => ?_⟩
    rwa [passage.scheduler] at ahead

/-! ## Probes that are gone -/

/-- A probe of `d` rounds ago, which is not registered again. -/
structure Past (k : ProbeKey) (cur : UInt32) (d : Nat) (w : World) : Prop where
  round_eq : k.round + UInt32.ofNat d = cur
  passed : d = 0 → ¬ w.scheduler.phase.Ahead k.flow k.ttl

theorem Past.step {k : ProbeKey} {d : Nat} (hb : c.Bounds) (h : Inv c src cur lost w)
    (hk : Past k cur d w) (a : Action) :
    Past k (cur + UInt32.ofNat (w.beginsIn (.ofConfig c src) a))
      (d + w.beginsIn (.ofConfig c src) a) (w.step (.ofConfig c src) a) where
  round_eq := by rw [toUInt32_add, hk.round_eq]
  passed hd := by
    have zero : d = 0 := by omega
    have within : w.beginsIn (.ofConfig c src) a = 0 := by omega
    unfold World.beginsIn World.step at *
    cases hstep : w.step? (.ofConfig c src) a with
    | none => exact hk.passed zero
    | some w' =>
      rw [hstep, Option.getD_some, Bool.toNat_eq_zero] at within
      obtain ⟨-, -, -, ahead⟩ := h.effect_of_step hb hstep
      exact fun later => hk.passed zero (ahead within later)

/-- A step registers no probe of the past. -/
theorem Past.not_waits_step {k : ProbeKey} {d : Nat} (hb : c.Bounds) (h : Inv c src cur lost w)
    (hk : Past k cur d w) (hd : d < 4294967296) (hw : ¬ w.shared.index.Waits k) (a : Action) :
    ¬ (w.step (.ofConfig c src) a).shared.index.Waits k := by
  unfold World.step
  cases hstep : w.step? (.ofConfig c src) a with
  | none => exact hw
  | some w' =>
    obtain ⟨e, acts, registered, -⟩ := h.effect_of_step hb hstep
    rintro ⟨q, hq, rfl⟩
    rcases acts.mem_waiting hq with hq | hq
    · obtain ⟨round, ahead⟩ := registered q hq
      -- Registered in round `cur`, which is `d` rounds after its own: `d` is zero.
      have hsame : q.round + UInt32.ofNat d = q.round := hk.round_eq.trans round.symm
      have value := congrArg UInt32.toNat hsame
      rw [FlowPlan.toNat_add_ofNat] at value
      have := q.round.toNat_lt
      exact hk.passed (by omega) ahead
    · exact hw ⟨q, hq, rfl⟩

/-- A probe of the past that no longer waits never waits again, up to the wrap of the round
number. -/
theorem Past.not_waits_run {k : ProbeKey} {d : Nat} (hb : c.Bounds) (h : Inv c src cur lost w)
    (hk : Past k cur d w) (as : List Action)
    (hd : d + World.roundsBegun (.ofConfig c src) w as < 4294967296)
    (hw : ¬ w.shared.index.Waits k) : ¬ (w.run (.ofConfig c src) as).shared.index.Waits k := by
  induction as generalizing w cur lost d with
  | nil => exact hw
  | cons a as ih =>
    rw [World.roundsBegun] at hd
    obtain ⟨lost', -, h'⟩ := h.step hb a
    exact ih h' (hk.step hb h a) (by omega) (hk.not_waits_step hb h (by omega) hw a)

theorem Past.run {k : ProbeKey} {d : Nat} (hb : c.Bounds) (h : Inv c src cur lost w)
    (hk : Past k cur d w) (as : List Action) :
    Past k (cur + UInt32.ofNat (World.roundsBegun (.ofConfig c src) w as))
      (d + World.roundsBegun (.ofConfig c src) w as) (w.run (.ofConfig c src) as) := by
  induction as generalizing w cur lost d with
  | nil => simpa [World.roundsBegun, World.run] using hk
  | cons a as ih =>
    obtain ⟨lost', -, h'⟩ := h.step hb a
    rw [World.roundsBegun, toUInt32_add, ← Nat.add_assoc]
    exact ih h' (hk.step hb h a)

/-- A probe that is being sent is one of the past. -/
theorem Inv.past_of_sending (h : Inv c src cur lost w) {s : Sweep} {p : EncodedProbe}
    (hs : w.scheduler.phase = .sending s p) : Past (p.keyIn s.round) cur 0 w := by
  have ok := h.phase
  rw [hs] at ok
  obtain ⟨sweep, issued, -⟩ := ok
  refine ⟨?_, fun _ => ?_⟩
  · rw [← sweep.round_eq]
    exact UInt32.add_zero _
  · rw [hs]
    exact Nat.not_le.mpr issued.passed

/-! ## Sessions at hand -/

/-- A session of one hop limit that sends without pause. -/
def briskConfig (target : Address) (protocol : Protocol) (multipath : Multipath) (flows : UInt16) :
    Config :=
  { Config.standard target protocol 7 with
    multipath := multipath
    flows := flows
    maxTtl := 1
    sendInterval := .zero
    cadence := .afterResolve }

/-- Such a session with one flow of echo requests. -/
def lonelyConfig : Config := briskConfig (.ofOctets4 192 0 2 1) .icmp .paris 1

/-- Some steps of the scheduler; the transport takes every probe. -/
def turns (now : Instant) (n : Nat) : List Action := List.replicate n (.schedule now true)

/-- The sweeper expires what is overdue. -/
def expiry (now : Instant) : List Action := List.replicate 3 (.sweep now false)

end FlowTrace.Session
