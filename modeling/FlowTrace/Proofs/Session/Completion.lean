import FlowTrace.Proofs.Session.Invariant

/-!
# Snapshots of complete rounds

- **Balance** (`Balance`): for each cell of the hop table, the probes counted as sent and the one
  that is about to be are the answered, the timed out, the waiting and the claimed ones. Every step
  of a session in which no send fails keeps it (`Balance.step`).
- **Complete rounds** (`isComplete_of_completing`): when a round is complete nothing waits and
  nothing is on its way, so the snapshot that is kept of it has an outcome for every probe.
-/

namespace FlowTrace

/-- Every probe that a snapshot counts as sent has its outcome in it. -/
structure Snapshot.IsComplete (s : Snapshot) : Prop where
  hops : ∀ f ∈ s.flows, ∀ h ∈ f.hops, h.sent = h.received + h.timeouts
  counters : s.counters.sent = s.counters.answered + s.counters.timedOut

namespace Session

open Effect

/-- Sent probes are resolved, waiting or on their way, cell by cell and in all. A probe that is
registered and not counted as sent yet is in `unsent`. -/
structure Balance (held : List ProbeKey) (unsent : List (UInt16 × UInt8)) (w : Shared) : Prop where
  cells : ∀ flow ttl h, w.table.state.cell? flow ttl = some h →
    h.sent + unsent.count (flow, ttl) =
      h.resolved + ((w.index.waiting.map (·.key) ++ held).map ProbeKey.cell).count (flow, ttl)
  counters : w.table.state.counters.sent + unsent.length =
    w.table.state.counters.answered + w.table.state.counters.timedOut +
      (w.index.waiting.length + held.length)

/-- An effect that withdraws nothing keeps the balance, if what it registers is sent sooner or
later. -/
theorem Balance.step {load load' lost lost' : Load} {unsent unsent' : List (UInt16 × UInt8)}
    {w w' : Shared} {e : Effect} (h : Balance (load ++ lost).held unsent w) (ha : e.Acts w w')
    (hm : e.Moves load load' lost') (hw : e.withdrawn = [])
    (hs : (e.registered.map (·.key.cell) ++ unsent).Perm (sentCells e.applied ++ unsent')) :
    Balance (load' ++ (lost' ++ lost)).held unsent' w' where
  -- Both parts count the same moves: for one cell, and over the whole table.
  cells flow ttl h' hc := by
    rw [ha.table.cell?] at hc
    obtain ⟨h₀, hc₀, sent, resolved⟩ := HopState.cell?_foldl hc
    have balance := h.cells flow ttl h₀ hc₀
    have waiting := (ha.waiting.map (·.key.cell)).count_eq (flow, ttl)
    have held := (hm.held.map ProbeKey.cell).count_eq (flow, ttl)
    have sends := hs.count_eq (flow, ttl)
    simp only [hw, Load.held_append, List.map_append, List.map_map, List.count_append,
      Function.comp_def, List.nil_append] at *
    omega
  counters := by
    obtain ⟨sent, resolved⟩ := HopState.counters_foldl w.table.state e.applied
    have balance := h.counters
    have waiting := ha.waiting.length_eq
    have held := hm.held.length_eq
    have sends := hs.length_eq
    simp only [ha.table.counters, hw, Load.held_append, List.length_append, List.length_map,
      List.length_nil] at *
    omega

namespace World

/-- The number of probes that the transport refuses in a step. -/
def failsIn (w : World) : Action → Nat
  | .schedule _ accepted => if w.scheduler.sending?.isSome ∧ accepted = false then 1 else 0
  | _ => 0

/-- The number of probes that the transport refuses in a run. -/
def failedSends (setup : Setup) : World → List Action → Nat
  | _, [] => 0
  | w, a :: as => w.failsIn a + failedSends setup (w.step setup a) as

end World

variable {c : Config} {src : Address} {cur : UInt32} {lost : Load} {w w' : World}

/-- The balance of a session in which no send has failed. -/
structure Tally (lost : Load) (w : World) : Prop where
  balance : Balance (w.load ++ lost).held w.scheduler.phase.unsent w.shared
  sending : ∀ s x, w.scheduler.phase ≠ .withdrawing s x

theorem tally_new (c : Config) (src : Address) (listeners : Nat) (start : Instant) :
    Tally {} (World.new (.ofConfig c src) listeners start) where
  balance := by
    have waiting : (World.new (.ofConfig c src) listeners start).shared.index.waiting = [] :=
      Outstanding.new_waiting c.flows
    refine ⟨fun flow ttl h hc => ?_, ?_⟩
    · obtain ⟨sent, resolved⟩ := HopState.counts_of_cell?_new hc
      rw [World.load_new, waiting, sent, resolved]
      rfl
    · rw [World.load_new, waiting]
      rfl
  sending _ _ h := Scheduler.Phase.noConfusion h

/-- A step in which no send fails keeps invariant and tally. -/
theorem Tally.step (hb : c.Bounds) (h : Inv c src cur lost w) (ht : Tally lost w) (a : Action)
    (hf : w.failsIn a = 0) : ∃ cur' lost',
      Inv c src cur' lost' (w.step (.ofConfig c src) a) ∧
        Tally lost' (w.step (.ofConfig c src) a) := by
  unfold World.step
  cases hstep : w.step? (.ofConfig c src) a with
  | none => exact ⟨cur, lost, h, ht⟩
  | some w' =>
    simp only [Option.getD_some]
    -- Steps of the scheduler send; steps of the others claim and resolve.
    rcases World.step?_cases h.ledger.wf h.silent hstep with
      ⟨now, accepted, rfl⟩ | ⟨lost', passage⟩
    · obtain ⟨trans, -, e, acts, moves, does⟩ := h.transition hstep
      refine ⟨_, lost, h.schedule hb hstep, ?_, fun s x hp => ?_⟩
      · exact ht.balance.step acts moves (does.withdrawn ht.sending) (does.sent ht.sending)
      · obtain ⟨was, refused⟩ := trans.failed hp
        simp [World.failsIn, Scheduler.sending?, was, refused] at hf
    · obtain ⟨e, quiet, -, acts, moves⟩ := passage.effect
      refine ⟨cur, lost' ++ lost, h.passes passage, ?_, ?_⟩
      · rw [passage.scheduler]
        exact ht.balance.step acts moves quiet.withdrawn (by
          rw [quiet.registered, quiet.sent]
          exact .refl _)
      · rw [passage.scheduler]
        exact ht.sending

theorem Tally.run (hb : c.Bounds) (h : Inv c src cur lost w) (ht : Tally lost w)
    (as : List Action) (hf : World.failedSends (.ofConfig c src) w as = 0) : ∃ cur' lost',
      Inv c src cur' lost' (w.run (.ofConfig c src) as) ∧
        Tally lost' (w.run (.ofConfig c src) as) := by
  induction as generalizing w cur lost with
  | nil => exact ⟨cur, lost, h, ht⟩
  | cons a as ih =>
    rw [World.failedSends] at hf
    obtain ⟨cur', lost', h', ht'⟩ := ht.step hb h a (by omega)
    exact ih h' ht' (by omega)

/-- A balanced table without unsettled probes has an outcome for every probe. -/
theorem Balance.isComplete {held : List ProbeKey} {w : Shared} (h : Balance held [] w)
    (fits : w.table.state.Fits) (waiting : w.index.waiting = []) (none : held = [])
    (round : UInt32) : (w.table.completeRound round).lastRound.IsComplete where
  hops f hf hop hh := by
    obtain ⟨flow, ttl, hc⟩ := fits.cell?_of_snapshot hf hh
    have cell : hop.sent = hop.resolved := by
      simpa [waiting, none] using h.cells flow ttl hop hc
    exact cell
  counters := by
    have counters := h.counters
    simp only [waiting, none, List.length_nil, Nat.add_zero] at counters
    exact counters

/-- In a session in which no send fails, the snapshot that is kept when a round is complete has an
outcome for every probe that it counts as sent. -/
theorem isComplete_of_completing {c : Config} (hc : c.check = .ok ()) (src : Address)
    (listeners : Nat) (start : Instant) (as : List Action)
    (hf : World.failedSends (.ofConfig c src) (World.new (.ofConfig c src) listeners start) as = 0)
    {s : Sweep} (hs : (worldAfter c src listeners start as).scheduler.phase = .completing s)
    (now : Instant) (accepted : Bool) :
    ((worldAfter c src listeners start as).step (.ofConfig c src)
        (.schedule now accepted)).shared.table =
      (worldAfter c src listeners start as).shared.table.completeRound s.round ∧
    ((worldAfter c src listeners start as).shared.table.completeRound
      s.round).lastRound.IsComplete := by
  have hb := Config.bounds_of_check hc
  obtain ⟨cur, lost, inv, tally⟩ :=
    (tally_new c src listeners start).run hb (inv_new hb src listeners start) as hf
  change Inv c src cur lost (worldAfter c src listeners start as) at inv
  change Tally lost (worldAfter c src listeners start as) at tally
  refine ⟨?_, ?_⟩
  · simp [World.step, World.step?, Scheduler.step, hs, Shared.mapTable]
  · have quiet : (worldAfter c src listeners start as).scheduler.phase.IsQuiet := by
      rw [hs]
      trivial
    obtain ⟨waiting, owed⟩ := inv.ledger.empty (inv.quiet quiet)
    have held : ((worldAfter c src listeners start as).load ++ lost).held = [] := by
      have ordered := (World.ordered_load (worldAfter c src listeners start as)).append inv.lost
      refine List.eq_nil_iff_forall_not_mem.mpr fun k hk => ?_
      have := ordered k hk
      rw [owed] at this
      cases this
    have balance := tally.balance
    rw [hs] at balance
    exact balance.isComplete inv.fits waiting held s.round

/-- The first round of a session with one flow, whose probe expires. -/
def lonelyRound : List Action := turns ⟨0⟩ 12 ++ (expiry ⟨3000000000⟩ ++ turns ⟨3000000000⟩ 1)

/-- The snapshot of the round has the probe as timed out. -/
theorem isComplete_lonelyRound :
    ((worldAfter lonelyConfig (.ofOctets4 10 0 0 100) 1 ⟨0⟩
      lonelyRound).shared.table.completeRound 0).lastRound.IsComplete := by
  have sent : World.failedSends (.ofConfig lonelyConfig (.ofOctets4 10 0 0 100))
      (World.new (.ofConfig lonelyConfig (.ofOctets4 10 0 0 100)) 1 ⟨0⟩) lonelyRound = 0 := rfl
  have completing : (worldAfter lonelyConfig (.ofOctets4 10 0 0 100) 1 ⟨0⟩
      lonelyRound).scheduler.phase = .completing ⟨0, ⟨0⟩, [2], [], false⟩ := rfl
  exact (isComplete_of_completing rfl _ 1 ⟨0⟩ lonelyRound sent completing ⟨3000000000⟩ true).2

end Session

end FlowTrace
