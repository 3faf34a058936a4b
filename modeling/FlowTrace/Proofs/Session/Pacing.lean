import FlowTrace.Proofs.Session.History

/-!
# How a session is paced

- **Rounds** (`Inv.empty_of_deciding`): when a round begins nothing is left of the one before.
- **Tokens** (`Inv.insert?_isSome`): the index refuses no probe of a session.
- **Cap** (`Phase.Capped`): never are more probes unsettled than allowed. The scheduler looks before
  it registers a probe, and meanwhile nobody else registers any.
- **Number of rounds** (`Phase.Counts`): rounds are numbered one by one and complete in turn, so the
  number that the scheduler ends with is that of the complete rounds.
-/

namespace FlowTrace.Session

open Effect

variable {c : Config} {src : Address} {cur : UInt32} {lost : Load} {w w' : World}

/-! ## Rounds and tokens -/

/-- When a round begins, nothing is outstanding. -/
theorem Inv.empty_of_deciding (h : Inv c src cur lost w) {round : UInt32}
    (hp : w.scheduler.phase = .deciding round) :
    (∀ s ∈ w.shared.index.shards, s = []) ∧ w.shared.index.perRound = [] := by
  have quiet : w.scheduler.phase.IsQuiet := by
    rw [hp]
    trivial
  obtain ⟨waiting, owed⟩ := h.ledger.empty (h.quiet quiet)
  exact (h.ledger.settled waiting owed).2

/-- A probe that is about to be registered is not refused: no waiting probe of its flow has its
token. -/
theorem Inv.insert?_isSome (hb : c.Bounds) (h : Inv c src cur lost w) {s : Sweep} {flow : UInt16}
    {ttl : UInt8} (hp : w.scheduler.phase = .registering s flow ttl) {p : EncodedProbe}
    (he : (Setup.ofConfig c src).encoder.encode flow s.round ttl = some p) (now : Instant) :
    (w.shared.index.insert? (Scheduler.pending (.ofConfig c src) p s.round now)).isSome = true := by
  have hx := Encoder.isProbe_of_encode he
  obtain rfl := hx.flow_eq
  obtain rfl := hx.ttl_eq
  have ok := h.phase
  rw [hp] at ok
  obtain ⟨sweep, issued⟩ := ok
  rw [Option.isSome_iff_ne_none, ne_eq, h.ledger.wf.insert?_eq_none_iff]
  -- The flow has a shard, and a waiting probe with the token would be one that is still ahead.
  rintro (outside | ⟨q, hq, flow, token⟩)
  · have := issued.flow_lt
    rw [h.length] at outside
    exact absurd outside (Nat.not_le.mpr this)
  · have probe := sweep.round_eq.symm ▸ h.probe q hq
    have key := probe.key_of_token he ⟨issued.ttl_pos, issued.ttl_le.trans hb.ttl_le⟩ flow token
    have hsame : q.flow = p.flow ∧ q.ttl = p.ttl :=
      ⟨congrArg ProbeKey.flow key, congrArg ProbeKey.ttl key⟩
    refine h.passed q hq ?_
    rw [hp]
    exact .inr hsame

/-! ## The cap -/

namespace Scheduler

/-- The scheduler has seen that there is room for one more probe. -/
def Phase.HasRoom : Phase → Prop
  | .pausing .. | .checking .. | .registering .. => True
  | _ => False

/-- No more probes are unsettled than allowed. -/
structure Phase.Capped (p : Phase) (most : Nat) (o : Outstanding) : Prop where
  le : o.count ≤ most
  lt : p.HasRoom → o.count < most

theorem not_hasRoom_visit (setup : Setup) (t : HopTable) (s : Sweep) :
    ¬ (visit setup t s).HasRoom :=
  visit_cases (P := fun p => ¬ p.HasRoom) (fun _ _ => id) id fun _ _ _ _ => id

theorem not_hasRoom_afterRound (setup : Setup) (s : Sweep) : ¬ (afterRound setup s).HasRoom :=
  afterRound_cases (P := fun p => ¬ p.HasRoom) id fun _ => id

/-- A step of the scheduler keeps the cap. -/
theorem Transition.capped {setup : Setup} {now : Instant} {accepted : Bool} {p p' : Phase}
    {w w' : Shared} (wf : w.index.WF) (h : p.Capped setup.config.maxInFlight w.index)
    (ht : Transition setup now accepted p w p' w') :
    p'.Capped setup.config.maxInFlight w'.index := by
  cases ht with
  | visit s => exact ⟨h.le, fun hroom => (not_hasRoom_visit _ _ _ hroom).elim⟩
  | complete s => exact ⟨h.le, fun hroom => (not_hasRoom_afterRound _ _ hroom).elim⟩
  | allow _ _ _ _ hroom => exact ⟨h.le, fun _ => hroom⟩
  | pace | proceed => exact ⟨h.le, fun _ => h.lt trivial⟩
  | register _ _ _ _ _ _ _ hi =>
    have hroom := h.lt trivial
    refine ⟨?_, False.elim⟩
    rw [Outstanding.insert?_count hi]
    exact hroom
  | withdraw _ _ _ _ _ hr =>
    refine ⟨?_, False.elim⟩
    rw [(wf.claims_remove hr).count wf]
    exact h.le
  | release s => exact ⟨(Outstanding.settle_count_le _ _).trans h.le, False.elim⟩
  | _ => exact ⟨h.le, False.elim⟩

end Scheduler

/-- A task that registers nothing leaves no more unsettled than before. -/
theorem Effect.Acts.count_le {e : Effect} {w w' : Shared} (h : e.Acts w w') (wf : w.index.WF)
    (hr : e.registered = []) : w'.index.count ≤ w.index.count := by
  rw [h.wf.count_eq_sum, wf.count_eq_sum]
  refine Finset.sum_le_sum fun r _ => ?_
  rw [h.inRound r, hr]
  exact Nat.sub_le ..

/-- Every step keeps the cap. -/
theorem Inv.capped (h : Inv c src cur lost w) {a : Action}
    (hstep : w.step? (.ofConfig c src) a = some w')
    (hc : w.scheduler.phase.Capped c.maxInFlight w.shared.index) :
    w'.scheduler.phase.Capped c.maxInFlight w'.shared.index := by
  rcases World.step?_cases h.ledger.wf h.silent hstep with
    ⟨now, accepted, rfl⟩ | ⟨lost', passage⟩
  · obtain ⟨trans, -⟩ := h.transition hstep
    exact trans.capped h.ledger.wf hc
  · obtain ⟨e, quiet, -, acts, -⟩ := passage.effect
    have fewer := acts.count_le h.ledger.wf quiet.registered
    rw [passage.scheduler]
    exact ⟨fewer.trans hc.le, fun hroom => fewer.trans_lt (hc.lt hroom)⟩

/-! ## The number of rounds -/

namespace Scheduler

/-- The round that the scheduler is in, or has come to; this is the number of complete rounds. -/
def Phase.round : Phase → UInt32
  | .deciding round | .resting round _ | .finished round => round
  | .visiting s | .waiting s _ _ | .pausing s _ _ | .checking s _ _ | .registering s _ _
  | .sending s _ | .counting s _ | .withdrawing s _ | .releasing s _ | .failing s _ _
  | .publishing s _ | .resolving s | .completing s => s.round

/-- Rounds are numbered one by one, as far as allowed; `n` rounds have begun. -/
def Phase.Counts (c : Config) (n : Nat) : Phase → Prop
  | .deciding round | .resting round _ => round.toNat = n ∧ ∀ m ∈ c.maxRounds, round ≤ m
  | .visiting s | .waiting s _ _ | .pausing s _ _ | .checking s _ _ | .registering s _ _
  | .sending s _ | .counting s _ | .withdrawing s _ | .releasing s _ | .failing s _ _
  | .publishing s _ | .resolving s | .completing s =>
    s.round.toNat + 1 = n ∧ ∀ m ∈ c.maxRounds, s.round < m
  | .finished round => ∀ m ∈ c.maxRounds, round ≤ m

variable {setup : Setup} {n : Nat}

theorem round_visit (setup : Setup) (t : HopTable) (s : Sweep) :
    (visit setup t s).round = s.round :=
  visit_cases (P := fun p => p.round = s.round) (fun _ hsame => hsame) rfl fun _ _ _ hsame => hsame

theorem counts_visit {t : HopTable} {s : Sweep}
    (h : s.round.toNat + 1 = n ∧ ∀ m ∈ c.maxRounds, s.round < m) :
    (visit setup t s).Counts c n := by
  have kept (s' : Sweep) (hsame : s'.round = s.round) :
      s'.round.toNat + 1 = n ∧ ∀ m ∈ c.maxRounds, s'.round < m := hsame ▸ h
  exact visit_cases (P := fun p => p.Counts c n) kept h fun s' _ _ => kept s'

theorem round_afterRound (setup : Setup) (s : Sweep) :
    (afterRound setup s).round = s.round + 1 :=
  afterRound_cases (P := fun p => p.round = s.round + 1) rfl fun _ => rfl

/-- The round after a round that began has the next number. -/
theorem toNat_succ_round {round : UInt32} (hn : n < 4294967296) (h : round.toNat + 1 = n) :
    (round + 1).toNat = n := by
  rw [UInt32.toNat_add, UInt32.toNat_one]
  omega

/-- A step of the scheduler numbers a round that it begins. -/
theorem Transition.counts {now : Instant} {accepted : Bool} {p p' : Phase} {w w' : Shared}
    (hn : n < 4294967296) (h : p.Counts c n)
    (ht : Transition (Setup.ofConfig c src) now accepted p w p' w') :
    p'.Counts c (n + (p.begins p').toNat) := by
  cases ht with
  | quit => exact h.2
  | begin round _ hr =>
    refine ⟨congrArg (· + 1) h.1, fun m hm => ?_⟩
    have more : ¬ m ≤ round := by
      simpa [isLast, Setup.ofConfig, Option.mem_def.mp hm] using hr.2
    exact UInt32.not_le.mp more
  | visit s => exact counts_visit h
  | breakOff | abandon => exact fun m hm => UInt32.le_of_lt (h.2 m hm)
  | complete s =>
    have next := toNat_succ_round hn h.1
    -- The round was below the allowed number when it began, so the next one is not above it.
    have fits (m : UInt32) (hm : m ∈ c.maxRounds) : s.round + 1 ≤ m := by
      have := UInt32.lt_iff_toNat_lt.mp (h.2 m hm)
      have := h.1
      exact UInt32.le_iff_toNat_le.mpr (by omega)
    exact afterRound_cases (P := fun p => p.Counts c n) ⟨next, fits⟩ fun _ => ⟨next, fits⟩
  | leaveResting => exact h.2
  | _ => exact h

/-- A step of the scheduler notes each round that is complete. -/
theorem Transition.completed {now : Instant} {accepted : Bool} {p p' : Phase} {w w' : Shared}
    (hn : n < 4294967296) (h : p.Counts c n) (hc : w.table.HasCompleted p.round)
    (ht : Transition (Setup.ofConfig c src) now accepted p w p' w') :
    w'.table.HasCompleted p'.round := by
  cases ht with
  | begin round => exact hc.beginRound round
  | visit s =>
    rw [round_visit]
    exact hc
  | count _ p => exact hc.recordSent p.flow p.ttl
  | fail => exact hc.apply _
  | publish | breakOff => exact hc.publish
  | complete s =>
    rw [round_afterRound]
    refine hc.completeRound (UInt32.le_iff_toNat_le.mpr ?_)
    have := h.1
    have := toNat_succ_round hn h.1
    show s.round.toNat ≤ (s.round + 1).toNat
    omega
  | _ => exact hc

end Scheduler

/-- No step of the supervisor completes a round. -/
theorem Supervisor.Transition.completed {setup : Setup} {now : Instant} {s s' : Supervisor}
    {shared : Shared} {n : UInt32} (ht : Supervisor.Transition setup now w s s' shared)
    (h : w.shared.table.HasCompleted n) : shared.table.HasCompleted n := by
  cases ht with
  | watch => exact h.setStatus .draining
  | close => exact h.setStatus .terminated
  | apply => exact h.apply _
  | _ => exact h

/-- The scheduler and the table agree on the number of rounds. -/
structure Counted (c : Config) (n : Nat) (w : World) : Prop where
  counts : w.scheduler.phase.Counts c n
  completed : w.shared.table.HasCompleted w.scheduler.phase.round

/-- Every step keeps the number of rounds. -/
theorem Counted.step {n : Nat} (hn : n < 4294967296) (h : Counted c n w) {a : Action}
    (ht : World.Transition (.ofConfig c src) w a w') :
    Counted c (n + (w.scheduler.phase.begins w'.scheduler.phase).toNat) w' := by
  cases ht with
  | schedule now accepted d shared ht =>
    exact ⟨ht.counts hn h.counts, ht.completed hn h.counts h.completed⟩
  | listen i now read l l' shared hl ht =>
    rw [Scheduler.begins_self]
    exact ⟨h.counts, ht.shows h.completed⟩
  | sweep now leave x shared ht =>
    rw [Scheduler.begins_self]
    exact ⟨h.counts, ht.shows h.completed⟩
  | supervise now x shared ht =>
    rw [Scheduler.begins_self]
    exact ⟨h.counts, ht.completed h.completed⟩
  | stop =>
    rw [Scheduler.begins_self]
    exact ⟨h.counts, h.completed⟩

/-! ## Runs -/

section Runs

variable (src : Address) (listeners : Nat) (start : Instant) (as : List Action)

theorem capped_after (hb : c.Bounds) : (worldAfter c src listeners start as).scheduler.phase.Capped
    c.maxInFlight (worldAfter c src listeners start as).shared.index := by
  refine run_induction (P := fun _ w => w.scheduler.phase.Capped c.maxInFlight w.shared.index)
    ⟨Nat.zero_le _, False.elim⟩ ?_ ?_ as
  · exact fun as a w _ _ h => h
  · rintro as a w w' rfl steps h
    obtain ⟨lost, inv, -⟩ := inv_after hb src listeners start as
    exact inv.capped steps h

theorem counted_after (hr : roundsAfter c src listeners start [] as < 4294967296) :
    Counted c (roundsAfter c src listeners start [] as) (worldAfter c src listeners start as) := by
  revert hr
  refine run_induction (P := fun as w => roundsAfter c src listeners start [] as < 4294967296 →
    Counted c (roundsAfter c src listeners start [] as) w) ?_ ?_ ?_ as
  · exact fun _ => ⟨⟨rfl, fun m _ => UInt32.le_iff_toNat_le.mpr (Nat.zero_le _)⟩, rfl, rfl⟩
  · rintro as a w rfl waits h
    rw [roundsAfter_concat, World.beginsIn_of_wait waits]
    exact h
  · rintro as a w w' rfl steps h hr
    rw [roundsAfter_concat, World.beginsIn_of_step steps] at hr ⊢
    have before := Nat.lt_of_le_of_lt (Nat.le_add_right ..) hr
    exact (h before).step before (World.transition_of_step? steps)

/-- When a round begins, nothing is outstanding. The index refuses no probe. Never are more probes
registered and not settled than allowed. The scheduler ends with the number of complete rounds, and
with no more than allowed, if the number of rounds does not wrap. -/
theorem keeps_pace (hc : c.check = .ok ()) :
    (∀ round, (worldAfter c src listeners start as).scheduler.phase = .deciding round →
      (∀ s ∈ (worldAfter c src listeners start as).shared.index.shards, s = []) ∧
        (worldAfter c src listeners start as).shared.index.perRound = []) ∧
    (∀ s flow ttl p now,
      (worldAfter c src listeners start as).scheduler.phase = .registering s flow ttl →
      (Setup.ofConfig c src).encoder.encode flow s.round ttl = some p →
      ((worldAfter c src listeners start as).shared.index.insert?
        (Scheduler.pending (.ofConfig c src) p s.round now)).isSome = true) ∧
    ((worldAfter c src listeners start as).shared.index.waiting.length +
        (worldAfter c src listeners start as).load.owed.length ≤
      (worldAfter c src listeners start as).shared.index.count ∧
      (worldAfter c src listeners start as).shared.index.count ≤ c.maxInFlight) ∧
    (roundsAfter c src listeners start [] as < 4294967295 →
      ∀ n, (worldAfter c src listeners start as).scheduler.rounds? = some n →
        n = (worldAfter c src listeners start as).shared.table.state.roundsCompleted ∧
        n = (worldAfter c src listeners start as).shared.table.latest.roundsCompleted ∧
        ∀ m ∈ c.maxRounds, n ≤ m) := by
  have hb := Config.bounds_of_check hc
  obtain ⟨lost, inv, -⟩ := inv_after hb src listeners start as
  refine ⟨fun round => inv.empty_of_deciding,
    fun s flow ttl p now hp he => inv.insert?_isSome hb hp he now,
    ⟨?_, (capped_after src listeners start as hb).le⟩, fun hr n hn => ?_⟩
  · rw [inv.ledger.count_eq, Load.owed_append, List.length_append]
    omega
  -- The number of complete rounds is that of the rounds begun, as long as it does not wrap.
  · have counted := counted_after src listeners start as (hr.trans (by decide))
    have counts := counted.counts
    have completed := counted.completed
    rw [Scheduler.phase_of_rounds? hn] at counts completed
    exact ⟨completed.state.symm, completed.latest.symm, counts⟩

end Runs

/-- A session of one round with two flows. -/
def singleConfig : Config :=
  { briskConfig (.ofOctets4 192 0 2 1) .icmp .paris 2 with maxRounds := some 1 }

/-- Both probes expire, and the scheduler ends. -/
def singleRound : List Action :=
  turns ⟨0⟩ 21 ++ (expiry ⟨3000000000⟩ ++ turns ⟨3000000000⟩ 3)

/-- The scheduler ends with one round, which is complete. -/
theorem keeps_pace_singleRound :
    singleConfig.check = .ok () ∧
    (worldAfter singleConfig (.ofOctets4 10 0 0 100) 0 ⟨0⟩ singleRound).scheduler.rounds? =
      some 1 ∧
    (worldAfter singleConfig (.ofOctets4 10 0 0 100) 0 ⟨0⟩
      singleRound).shared.table.latest.roundsCompleted = 1 := by
  have ends : (worldAfter singleConfig (.ofOctets4 10 0 0 100) 0 ⟨0⟩
      singleRound).scheduler.rounds? = some 1 := by decide +kernel
  have few : roundsAfter singleConfig (.ofOctets4 10 0 0 100) 0 ⟨0⟩ [] singleRound <
      4294967295 := by decide +kernel
  have rounds := (keeps_pace (.ofOctets4 10 0 0 100) 0 ⟨0⟩ singleRound rfl).2.2.2 few 1 ends
  exact ⟨rfl, ends, rounds.2.1.symm⟩

end FlowTrace.Session
