import FlowTrace.Proofs.Session.Invariant

/-!
# What has happened in a session

- **Runs** (`run_induction`): what holds at the start, and is kept by every step, holds after every
  run. So does the invariant (`inv_after`), with nothing lost unless a listener has broken down.
- **Notes** (`notesAfter`): what the steps of a run give, one after the other. `appliedAfter` are
  the events that the hop table has taken (`applies_after`), `foundAfter` those that the tasks have
  come upon.
- **In hand** (`found_after`): what the tasks have come upon is in the table or in hand.
- **Outcomes** (`Past.not_found_run`): a probe that no longer waits has no further outcome.
-/

namespace FlowTrace.Session

/-! ## Runs -/

/-- A listener that has broken down stays so. -/
theorem World.Transition.hasCrashed {setup : Setup} {w w' : World} {a : Action}
    (ht : World.Transition setup w a w') (h : w.HasCrashed) : w'.HasCrashed := by
  cases ht with
  | listen i now read l l' shared hl ht =>
    obtain ⟨x, hx, crashed⟩ := h
    obtain ⟨j, hj⟩ := List.getElem?_of_mem hx
    have other : i ≠ j := by
      rintro rfl
      obtain rfl : l = x := Option.some.inj (hl.symm.trans hj)
      exact ht.crashed crashed
    refine ⟨x, List.mem_of_getElem? (i := j) ?_, crashed⟩
    rw [List.getElem?_set_ne other]
    exact hj
  | _ => exact h

section Runs

variable {c : Config} {src : Address} {listeners : Nat} {start : Instant}

/-- A step at the end of a run: the task has to wait, or takes it. -/
theorem worldAfter_cases (as : List Action) (a : Action) :
    ((worldAfter c src listeners start as).step? (.ofConfig c src) a = none ∧
      worldAfter c src listeners start (as ++ [a]) = worldAfter c src listeners start as) ∨
    (worldAfter c src listeners start as).step? (.ofConfig c src) a =
      some (worldAfter c src listeners start (as ++ [a])) := by
  rw [show worldAfter c src listeners start (as ++ [a]) =
      (worldAfter c src listeners start as).step (.ofConfig c src) a from
    World.run_append _ _ as [a], World.step]
  cases h : (worldAfter c src listeners start as).step? (.ofConfig c src) a with
  | none => exact .inl ⟨rfl, rfl⟩
  | some w' => exact .inr rfl

/-- The rounds that have begun after one more step. -/
theorem roundsAfter_concat (as : List Action) (a : Action) :
    roundsAfter c src listeners start [] (as ++ [a]) =
      roundsAfter c src listeners start [] as +
        (worldAfter c src listeners start as).beginsIn (.ofConfig c src) a :=
  World.roundsBegun_append _ _ as [a]

/-- What holds at the start, and is kept by every step, holds after every run. -/
theorem run_induction {P : List Action → World → Prop}
    (new : P [] (World.new (.ofConfig c src) listeners start))
    (wait : ∀ as a w, w = worldAfter c src listeners start as →
      w.step? (.ofConfig c src) a = none → P as w → P (as ++ [a]) w)
    (step : ∀ as a w w', w = worldAfter c src listeners start as →
      w.step? (.ofConfig c src) a = some w' → P as w → P (as ++ [a]) w')
    (as : List Action) : P as (worldAfter c src listeners start as) := by
  induction as using List.reverseRecOn with
  | nil => exact new
  | append_singleton as a ih =>
    rcases worldAfter_cases as a with ⟨waits, hsame⟩ | steps
    · rw [hsame]
      exact wait as a _ rfl waits ih
    · exact step as a _ _ rfl steps ih

/-- Every run keeps the invariant. Only a breakdown loses anything. -/
theorem inv_after (hb : c.Bounds) (src : Address) (listeners : Nat) (start : Instant)
    (as : List Action) : ∃ lost,
    Inv c src (0 - 1 + UInt32.ofNat (roundsAfter c src listeners start [] as)) lost
      (worldAfter c src listeners start as) ∧
    (¬ (worldAfter c src listeners start as).HasCrashed → lost = {}) := by
  induction as using List.reverseRecOn with
  | nil => exact ⟨{}, inv_new hb src listeners start, fun _ => rfl⟩
  | append_singleton as a ih =>
    obtain ⟨lost, inv, intact⟩ := ih
    obtain ⟨lost', crash, inv'⟩ := inv.step hb a
    have last : worldAfter c src listeners start (as ++ [a]) =
      (worldAfter c src listeners start as).step (.ofConfig c src) a := World.run_append _ _ as [a]
    rw [last, roundsAfter_concat, toUInt32_add]
    refine ⟨lost' ++ lost, inv', fun hc => ?_⟩
    rw [crash hc, intact fun h => hc ?_]
    · rfl
    · rcases worldAfter_cases as a with ⟨-, hsame⟩ | steps
      · rwa [← last, hsame]
      · rw [← last]
        exact (World.transition_of_step? steps).hasCrashed h

end Runs

/-! ## Notes -/

/-- What the steps of a run give, one after the other. A task that has to wait gives nothing. -/
def World.notes {α : Type} (f : World → Action → World → List α) (setup : Setup) :
    World → List Action → List α
  | _, [] => []
  | w, a :: as =>
    match w.step? setup a with
    | none => notes f setup w as
    | some w' => f w a w' ++ notes f setup w' as

theorem World.notes_append {α : Type} (f : World → Action → World → List α) (setup : Setup)
    (w : World) (as bs : List Action) :
    notes f setup w (as ++ bs) = notes f setup w as ++ notes f setup (w.run setup as) bs := by
  induction as generalizing w with
  | nil => rfl
  | cons a as ih =>
    have run : w.run setup (a :: as) = (w.step setup a).run setup as := rfl
    rw [List.cons_append, notes, notes, run, step]
    cases w.step? setup a with
    | none => exact ih w
    | some w' => simp only [Option.getD_some, ih w', List.append_assoc]

/-- The notes of a session. -/
def notesAfter {α : Type} (f : World → Action → World → List α) (c : Config) (src : Address)
    (listeners : Nat) (start : Instant) (as : List Action) : List α :=
  World.notes f (.ofConfig c src) (World.new (.ofConfig c src) listeners start) as

section Notes

variable {c : Config} {src : Address} {listeners : Nat} {start : Instant} {as : List Action}
  {a : Action} {w' : World} {α : Type} (f : World → Action → World → List α)

theorem notesAfter_wait
    (h : (worldAfter c src listeners start as).step? (.ofConfig c src) a = none) :
    notesAfter f c src listeners start (as ++ [a]) = notesAfter f c src listeners start as := by
  change (World.run _ _ as).step? _ a = none at h
  simp only [notesAfter, World.notes_append, World.notes, h, List.append_nil]

theorem notesAfter_step
    (h : (worldAfter c src listeners start as).step? (.ofConfig c src) a = some w') :
    notesAfter f c src listeners start (as ++ [a]) =
      notesAfter f c src listeners start as ++ f (worldAfter c src listeners start as) a w' := by
  change (World.run _ _ as).step? _ a = some w' at h
  simp only [notesAfter, World.notes_append, World.notes, h, List.append_nil]
  rfl

end Notes

/-- The events that the hop table has taken. -/
def appliedAfter (c : Config) (src : Address) (listeners : Nat) (start : Instant)
    (as : List Action) : List Event :=
  notesAfter (fun w a _ => w.appliesIn a) c src listeners start as

/-- What the sweeper claims in a step, as events. -/
def Sweeper.finds (now : Instant) (leave : Bool) (s : Sweeper) (w : Shared) : List Event :=
  match s with
  | .sleeping => if leave then [] else (w.index.expire now).1.map (·.timedOut)
  | _ => []

/-- What the supervisor claims in a step, as events. -/
def Supervisor.finds (s : Supervisor) (w : Shared) : List Event :=
  match s with
  | .claiming _ => w.index.drainAll.1.map (·.timedOut)
  | _ => []

/-- The events that a step comes upon: what is heard, what is claimed as lost, and the outcome of a
send, which the scheduler applies at once. -/
def World.findsIn (setup : Setup) (w : World) : Action → List Event
  | .schedule _ _ => w.scheduler.phase.applies
  | .listen i now read => (w.listeners[i]?.map (·.hears setup now read w.shared)).getD []
  | .sweep now leave => w.sweeper.finds now leave w.shared
  | .supervise _ => w.supervisor.finds w.shared
  | .stop => []

/-- The events that the tasks have come upon. -/
def foundAfter (c : Config) (src : Address) (listeners : Nat) (start : Instant)
    (as : List Action) : List Event :=
  notesAfter (fun w a _ => w.findsIn (.ofConfig c src) a) c src listeners start as

/-! ## The table -/

section Table

variable {c : Config} {src : Address} {cur : UInt32} {lost : Load} {w w' : World}

/-- The table takes what a step applies. -/
theorem Inv.applies (h : Inv c src cur lost w) {a : Action}
    (hstep : w.step? (.ofConfig c src) a = some w') :
    w.shared.table.Applies (w.appliesIn a) w'.shared.table := by
  rcases World.step?_cases h.ledger.wf h.silent hstep with
    ⟨now, accepted, rfl⟩ | ⟨lost', passage⟩
  · obtain ⟨-, -, e, acts, -, does⟩ := h.transition hstep
    have table := acts.table
    rw [does.applied] at table
    exact table
  · obtain ⟨e, -, applied, acts, -⟩ := passage.effect
    rw [← applied]
    exact acts.table

/-- The table holds what has been applied. -/
theorem applies_after (hb : c.Bounds) (src : Address) (listeners : Nat) (start : Instant)
    (as : List Action) : (HopTable.new c).Applies (appliedAfter c src listeners start as)
      (worldAfter c src listeners start as).shared.table := by
  refine run_induction (P := fun as w => (HopTable.new c).Applies
    (appliedAfter c src listeners start as) w.shared.table) ?_ ?_ ?_ as
  · exact HopTable.applies_refl _
  · rintro as a w rfl waits h
    rwa [appliedAfter, notesAfter_wait _ waits]
  · rintro as a w w' rfl steps h
    obtain ⟨lost, inv, -⟩ := inv_after hb src listeners start as
    rw [appliedAfter, notesAfter_step _ steps]
    exact h.trans (inv.applies steps)

end Table

section Shows

variable {now : Instant} {w w' : Shared} {α : Type} {f : Status → UInt32 → α} {x : α}

/-- Listeners change neither the status nor the number of complete rounds. -/
theorem Listener.Transition.shows {setup : Setup} {p p' : Phase} {es : List Event}
    (ht : Transition setup now p w es p' w') (h : w.table.Shows f x) : w'.table.Shows f x := by
  cases ht with
  | apply batch => exact h.apply batch
  | _ => exact h

/-- Neither does the sweeper. -/
theorem Sweeper.Transition.shows {leave : Bool} {s s' : Sweeper}
    (ht : Sweeper.Transition now leave s w s' w') (h : w.table.Shows f x) :
    w'.table.Shows f x := by
  cases ht with
  | apply expired => exact h.apply _
  | _ => exact h

end Shows

/-! ## Events in hand -/

/-- The events that tasks have come upon and not applied yet. -/
def World.inHand (w : World) : List Event :=
  w.listeners.flatMap (·.phase.batch) ++ (w.sweeper.applies ++ w.supervisor.applies)

theorem Listener.Transition.found {setup : Setup} {now : Instant} {p p' : Phase} {w w' : Shared}
    {es : List Event} (ht : Transition setup now p w es p' w') (hc : ¬ p'.HasCrashed) :
    (es ++ p.batch).Perm (p.applies ++ p'.batch) := by
  cases ht with
  | hear batch _ _ _ _ e =>
    rw [batch_addEvent]
    exact List.perm_append_comm
  | close batch failure =>
    rw [batch_closeBatch]
    exact .refl _
  | crash => exact (hc trivial).elim
  | settle rounds failure =>
    rw [batch_closeBatch]
    exact .refl _
  | apply batch => exact (List.append_nil batch).symm ▸ .refl _
  | _ => exact .refl _

theorem Sweeper.Transition.found {now : Instant} {leave : Bool} {s s' : Sweeper} {w w' : Shared}
    (ht : Sweeper.Transition now leave s w s' w') :
    s.finds now leave w ++ s.applies = s.applies ++ s'.applies := by
  cases ht with
  | leave _ h => simp [finds, applies, h.1]
  | idle _ h => simp [finds, applies, h.1, h.2]
  | expire _ h => simp [finds, applies, h]
  | apply | settle => simp [finds, applies]

theorem Supervisor.Transition.found {setup : Setup} {now : Instant} {w : World} {s s' : Supervisor}
    {shared : Shared} (ht : Supervisor.Transition setup now w s s' shared) :
    s.finds w.shared ++ s.applies = s.applies ++ s'.applies := by
  cases ht with
  | skip failure h => simp [finds, applies, h]
  | _ => simp [finds, applies]

/-- What a step comes upon is applied or kept in hand, unless a listener breaks down. -/
theorem World.Transition.found {setup : Setup} {w w' : World} {a : Action}
    (ht : World.Transition setup w a w') (hc : ¬ w'.HasCrashed) :
    (w.findsIn setup a ++ w.inHand).Perm (w.appliesIn a ++ w'.inHand) := by
  rw [List.perm_iff_count]
  intro e
  cases ht with
  -- A listener may keep what it finds. The batches of all the others stay as they are.
  | listen i now read l l' shared hl ht =>
    obtain ⟨rest, before, after⟩ := flatMap_set_perm (fun l : Listener => l.phase.batch) hl
    have here : l' ∈ w.listeners.set i l' :=
      List.mem_set (List.getElem?_eq_some_iff.mp hl).1 l'
    have one := (ht.found fun h => hc ⟨l', here, h⟩).count_eq e
    have before := before.count_eq e
    have after := (after l').count_eq e
    simp only [findsIn, appliesIn, inHand, hl, Option.map_some, Option.getD_some,
      List.count_append] at *
    omega
  | sweep now leave s shared ht =>
    have one := congrArg (List.count e) ht.found
    simp only [findsIn, appliesIn, inHand, List.count_append] at *
    omega
  | supervise now s shared ht =>
    have one := congrArg (List.count e) ht.found
    simp only [findsIn, appliesIn, inHand, List.count_append] at *
    omega
  | _ => rfl

/-- Unless a listener has broken down, what the tasks have come upon is in the table or in hand. -/
theorem found_after {c : Config} {src : Address} {listeners : Nat} {start : Instant}
    {as : List Action} (hc : ¬ (worldAfter c src listeners start as).HasCrashed) :
    (foundAfter c src listeners start as).Perm
      (appliedAfter c src listeners start as ++ (worldAfter c src listeners start as).inHand) := by
  revert hc
  -- On the run. The hypothesis goes into the induction, because a listener that has broken down
  -- stays so.
  refine run_induction (P := fun as w => ¬ w.HasCrashed →
    (foundAfter c src listeners start as).Perm
      (appliedAfter c src listeners start as ++ w.inHand)) ?_ ?_ ?_ as
  · intro _
    have none : (World.new (.ofConfig c src) listeners start).inHand = [] := by
      simp [World.inHand, World.new, Listener.new, Listener.Phase.batch, Sweeper.applies,
        Supervisor.applies]
    rw [none]
    exact .refl _
  · rintro as a w rfl waits h hc
    rw [foundAfter, appliedAfter, notesAfter_wait _ waits, notesAfter_wait _ waits]
    exact h hc
  · rintro as a w w' rfl steps h hc
    have ht := World.transition_of_step? steps
    have one := ht.found hc
    have before := h fun crashed => hc (ht.hasCrashed crashed)
    rw [foundAfter, appliedAfter, notesAfter_step _ steps, notesAfter_step _ steps,
      List.append_assoc]
    refine (before.append_right _).trans ?_
    rw [List.append_assoc]
    exact (List.perm_append_comm.trans one).append_left _

/-! ## Outcomes -/

/-- Events resolve probes that can be claimed. -/
def Claimable (o : Outstanding) (es : List Event) : Prop :=
  ∃ ps o', Outstanding.Claims o ps o' ∧ resolvedKeys es = ps.map (·.key)

theorem claimable_of_no_outcome (o : Outstanding) {es : List Event} (h : resolvedKeys es = []) :
    Claimable o es := ⟨[], o, .refl o, h⟩

theorem Listener.Transition.claimable {setup : Setup} {now : Instant} {p p' : Phase}
    {w w' : Shared} {es : List Event} (wf : w.index.WF) (ht : Transition setup now p w es p' w') :
    Claimable w.index es := by
  cases ht with
  | hear batch _ data source framing e index heard =>
    obtain ⟨ps, claims, keys, -⟩ := claims_of_hear wf heard
    exact ⟨ps, index, claims, keys⟩
  | _ => exact claimable_of_no_outcome _ rfl

theorem Sweeper.claimable_finds (now : Instant) (leave : Bool) (s : Sweeper) (w : Shared) :
    Claimable w.index (s.finds now leave w) := by
  unfold finds
  split
  · split
    · exact claimable_of_no_outcome _ rfl
    · exact ⟨_, _, Outstanding.claims_expire w.index now, resolvedKeys_timedOut _⟩
  · exact claimable_of_no_outcome _ rfl

theorem Supervisor.claimable_finds (s : Supervisor) (w : Shared) :
    Claimable w.index (s.finds w) := by
  unfold finds
  split
  · exact ⟨_, _, Outstanding.claims_drainAll w.index, resolvedKeys_timedOut _⟩
  · exact claimable_of_no_outcome _ rfl

/-- The outcomes that a step comes upon are those of waiting probes. -/
theorem World.Transition.claimable {setup : Setup} {w w' : World} {a : Action}
    (wf : w.shared.index.WF) (ht : World.Transition setup w a w') :
    Claimable w.shared.index (w.findsIn setup a) := by
  cases ht with
  | schedule => exact claimable_of_no_outcome _ w.scheduler.phase.resolvedKeys_applies
  | listen i now read l l' shared hl ht =>
    simp only [findsIn, hl, Option.map_some, Option.getD_some]
    exact ht.claimable wf
  | sweep now leave => exact w.sweeper.claimable_finds now leave w.shared
  | supervise => exact w.supervisor.claimable_finds w.shared
  | stop => exact claimable_of_no_outcome _ rfl

/-- A probe waits until its outcome is come upon. -/
theorem World.Transition.waits {setup : Setup} {w w' : World} {a : Action}
    (wf : w.shared.index.WF) (ht : World.Transition setup w a w') {e : Event}
    (he : e ∈ w.findsIn setup a) {k : ProbeKey} (hk : e.resolved? = some k) :
    w.shared.index.Waits k := by
  obtain ⟨ps, o', claims, keys⟩ := ht.claimable wf
  have resolved : k ∈ resolvedKeys (w.findsIn setup a) := List.mem_filterMap.mpr ⟨e, he, hk⟩
  rw [keys] at resolved
  obtain ⟨q, hq, key⟩ := List.mem_map.mp resolved
  exact ⟨q, claims.waiting.mem_iff.mpr (List.mem_append_left _ hq), key⟩

/-- A probe of the past that no longer waits has no outcome any more, up to the wrap of the round
number. -/
theorem Past.not_found_run {c : Config} {src : Address} {cur : UInt32} {lost : Load} {w : World}
    {k : ProbeKey} {d : Nat} (hb : c.Bounds) (h : Inv c src cur lost w) (hk : Past k cur d w)
    (as : List Action) (hd : d + World.roundsBegun (.ofConfig c src) w as < 4294967296)
    (hw : ¬ w.shared.index.Waits k) :
    ∀ e ∈ World.notes (fun w a _ => w.findsIn (.ofConfig c src) a) (.ofConfig c src) w as,
      e.resolved? ≠ some k := by
  induction as generalizing w cur lost d with
  | nil => exact List.forall_mem_nil _
  | cons a as ih =>
    rw [World.roundsBegun] at hd
    obtain ⟨lost', -, h'⟩ := h.step hb a
    -- The probe stays in the past and out of the index, so the hypothesis of the induction applies.
    have rest := ih h' (hk.step hb h a) (by omega) (hk.not_waits_step hb h (by omega) hw a)
    rw [World.notes]
    cases hstep : w.step? (.ofConfig c src) a with
    | none =>
      rw [World.step, hstep] at rest
      exact rest
    | some w' =>
      rw [World.step, hstep] at rest
      intro e he
      rcases List.mem_append.mp he with he | he
      · exact fun key => hw ((World.transition_of_step? hstep).waits h.ledger.wf he key)
      · exact rest e he

end FlowTrace.Session
