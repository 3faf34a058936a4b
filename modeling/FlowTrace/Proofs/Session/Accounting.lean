import FlowTrace.Proofs.Session.Pacing
import FlowTrace.Proofs.Session.Termination

/-!
# The outcomes of probes

- **Marks** (`Scheduler.Phase.marks`): the probes that a step of the scheduler registers, counts as
  sent or as failed, and those of failed sends that it takes back or finds gone.
- **Books** (`Books`): a registered probe is sent, or its send fails, and what nobody takes back is
  resolved. Every step keeps the books (`Books.step`).
- **Accounts** (`accounts_unless_overtaken`): when a session has terminated, each registered probe
  is counted once and the sent ones have their outcomes, unless a probe was claimed while its send
  failed. Such a probe is counted as resolved and as failed.
-/

namespace FlowTrace.Session

open Effect

/-! ## Marks -/

/-- What the scheduler does with a probe. -/
inductive Mark where
  | registered
  /-- Counted as sent. -/
  | sent
  /-- Taken back after its send has failed. -/
  | withdrawn
  /-- Its send has failed, but somebody else has claimed it meanwhile. -/
  | overtaken
  /-- Counted as a failed send. -/
  | failed

namespace Scheduler

/-- The probes that a step between two phases marks. -/
def Phase.marks (p p' : Phase) (m : Mark) : List ProbeKey :=
  match m, p, p' with
  | .registered, .registering .., .sending s x => [x.keyIn s.round]
  | .sent, .counting s x, .visiting _ => [x.keyIn s.round]
  | .withdrawn, .withdrawing s x, .releasing .. => [x.keyIn s.round]
  | .overtaken, .withdrawing s x, .failing .. => [x.keyIn s.round]
  | .failed, .failing s flow ttl, .visiting _ => [⟨flow, s.round, ttl⟩]
  | _, _, _ => []

/-- The probe that is registered and whose send is not decided yet. -/
def Phase.inSend : Phase → List ProbeKey
  | .sending s x | .counting s x | .withdrawing s x => [x.keyIn s.round]
  | _ => []

/-- The probe whose failed send is not counted yet. -/
def Phase.refused : Phase → List ProbeKey
  | .releasing s x => [x.keyIn s.round]
  | .failing s flow ttl => [⟨flow, s.round, ttl⟩]
  | _ => []

theorem marks_self (p : Phase) (m : Mark) : p.marks p m = [] := by
  cases m <;> cases p <;> rfl

theorem inSend_visit (setup : Setup) (t : HopTable) (s : Sweep) :
    (visit setup t s).inSend = [] ∧ (visit setup t s).refused = [] :=
  visit_cases (P := fun p => p.inSend = [] ∧ p.refused = []) (fun _ _ => ⟨rfl, rfl⟩) ⟨rfl, rfl⟩
    fun _ _ _ _ => ⟨rfl, rfl⟩

theorem inSend_afterRound (setup : Setup) (s : Sweep) :
    (afterRound setup s).inSend = [] ∧ (afterRound setup s).refused = [] :=
  afterRound_cases (P := fun p => p.inSend = [] ∧ p.refused = []) ⟨rfl, rfl⟩ fun _ => ⟨rfl, rfl⟩

/-- The marks of a step account for what it does to the waiting probes and to the one in hand. -/
structure Phase.Enters (p p' : Phase) (w w' : Shared) : Prop where
  waiting : (p.marks p' .registered ++ w.index.waiting.map PendingProbe.key).Perm
    (p.marks p' .withdrawn ++ w'.index.waiting.map PendingProbe.key)
  sends : (p.marks p' .registered ++ p.inSend).Perm
    (p.marks p' .sent ++ (p.marks p' .withdrawn ++ (p.marks p' .overtaken ++ p'.inSend)))
  failures : (p.marks p' .withdrawn ++ (p.marks p' .overtaken ++ p.refused)).Perm
    (p.marks p' .failed ++ p'.refused)

/-- A step that marks nothing leaves the waiting probes and the one in hand as they are. -/
theorem Phase.enters_nothing {p p' : Phase} {w w' : Shared} (marks : ∀ m, p.marks p' m = [])
    (waiting : w'.index.waiting = w.index.waiting)
    (hand : p'.inSend = p.inSend ∧ p'.refused = p.refused) : p.Enters p' w w' := by
  refine ⟨?_, ?_, ?_⟩ <;>
    simp only [marks, waiting, hand.1, hand.2, List.nil_append, List.Perm.refl]

end Scheduler

variable {c : Config} {src : Address} {cur : UInt32} {lost : Load} {w w' : World}

/-- Every step of the scheduler is marked. It takes back the probe whose send has failed and no
other, and it has registered every probe whose send fails. -/
theorem Inv.enters (hb : c.Bounds) (h : Inv c src cur lost w) {now : Instant} {accepted : Bool}
    {p' : Scheduler.Phase} {shared : Shared} (ht : Scheduler.Transition (.ofConfig c src) now
      accepted w.scheduler.phase w.shared p' shared) :
    w.scheduler.phase.Enters p' w.shared shared := by
  -- The index never refuses a probe of a session, so that case does not arise.
  have free := @Inv.insert?_isSome c src cur lost w hb h
  have ok := h.phase
  generalize w.scheduler.phase = p at ht ok free
  cases ht with
  | visit s =>
    exact Scheduler.Phase.enters_nothing (fun m => by cases m <;> rfl) rfl
      (Scheduler.inSend_visit _ _ s)
  | complete s =>
    exact Scheduler.Phase.enters_nothing (fun m => by cases m <;> rfl) rfl
      (Scheduler.inSend_afterRound _ s)
  | refuse s flow ttl _ x hx hi =>
    have accepts := free rfl hx now
    rw [hi] at accepts
    cases accepts
  | register s flow ttl _ x index hx hi =>
    have waiting := (Outstanding.insert?_waiting hi).map PendingProbe.key
    exact ⟨waiting.symm, .refl _, .refl _⟩
  | withdraw s x _ q index hr =>
    obtain ⟨sweep, issued, hx⟩ := ok
    obtain ⟨hq, flow, token⟩ := h.ledger.wf.remove_mem hr
    -- Flow and token tell the probe, because all that waits is of one round.
    have key : q.key = x.keyIn s.round := (sweep.round_eq.symm ▸ h.probe q hq).key_of_token hx
      ⟨issued.ttl_pos, issued.ttl_le.trans hb.ttl_le⟩ flow token
    have waiting := (h.ledger.wf.claims_remove hr).waiting.map PendingProbe.key
    rw [List.map_append, List.map_singleton, key] at waiting
    exact ⟨waiting, .refl _, .refl _⟩
  | release s x =>
    refine ⟨?_, .refl _, .refl _⟩
    have settled : (w.shared.mapIndex (·.settle [s.round])).index.waiting =
      w.shared.index.waiting := Outstanding.settle_waiting ..
    rw [settled]
    exact .refl _
  | _ => exact ⟨.refl _, .refl _, .refl _⟩

/-! ## Books -/

/-- What has become of the registered probes: `marks` are those that the scheduler has marked so
far, `resolved` those whose outcome is in the table. -/
structure Books (marks : Mark → List ProbeKey) (resolved : List ProbeKey) (w : World) : Prop where
  claims : (marks .registered).Perm (resolved ++ (marks .withdrawn ++
    (w.shared.index.waiting.map PendingProbe.key ++ w.load.held)))
  sends : (marks .registered).Perm (marks .sent ++ (marks .withdrawn ++ (marks .overtaken ++
    w.scheduler.phase.inSend)))
  failures : (marks .withdrawn ++ marks .overtaken).Perm
    (marks .failed ++ w.scheduler.phase.refused)

/-- Every step in which no listener breaks down keeps the books. -/
theorem Books.step (hb : c.Bounds) (h : Inv c src cur lost w) {a : Action}
    (hstep : w.step? (.ofConfig c src) a = some w') (hc : ¬ w'.HasCrashed)
    {marks : Mark → List ProbeKey} {resolved : List ProbeKey} (books : Books marks resolved w) :
    Books (fun m => marks m ++ w.scheduler.phase.marks w'.scheduler.phase m)
      (resolved ++ resolvedKeys (w.appliesIn a)) w' := by
  rcases World.step?_cases h.ledger.wf h.silent hstep with
    ⟨now, accepted, rfl⟩ | ⟨lost', passage⟩
  · obtain ⟨trans, -, e, -, moves, does⟩ := h.transition hstep
    have enters := h.enters hb trans
    have held := moves.held
    have none : resolvedKeys (w.appliesIn (.schedule now accepted)) = [] :=
      w.scheduler.phase.resolvedKeys_applies
    rw [does.claimed, does.applied, w.scheduler.phase.resolvedKeys_applies] at held
    rw [none]
    refine ⟨List.perm_iff_count.mpr fun k => ?_, List.perm_iff_count.mpr fun k => ?_,
      List.perm_iff_count.mpr fun k => ?_⟩
    · have before := books.claims.count_eq k
      have waiting := enters.waiting.count_eq k
      have held := held.count_eq k
      simp only [List.map_nil, List.count_append, List.count_nil] at *
      omega
    · have before := books.sends.count_eq k
      have sends := enters.sends.count_eq k
      simp only [List.count_append] at *
      omega
    · have before := books.failures.count_eq k
      have failures := enters.failures.count_eq k
      simp only [List.count_append] at *
      omega
  · obtain ⟨e, quiet, applied, acts, moves⟩ := passage.effect
    have waiting := acts.waiting.map PendingProbe.key
    have held := moves.held
    rw [quiet.registered, quiet.withdrawn] at waiting
    rw [applied, passage.lost hc] at held
    simp only [passage.scheduler, Scheduler.marks_self, List.append_nil]
    refine ⟨List.perm_iff_count.mpr fun k => ?_, ?_, ?_⟩
    · have before := books.claims.count_eq k
      have waiting := waiting.count_eq k
      have held := held.count_eq k
      simp only [List.nil_append, List.map_append, List.append_nil, List.count_append] at *
      omega
    · rw [passage.scheduler]
      exact books.sends
    · rw [passage.scheduler]
      exact books.failures

/-- The probes that the scheduler has marked in a session. -/
def markedAfter (c : Config) (src : Address) (listeners : Nat) (start : Instant) (as : List Action)
    (m : Mark) : List ProbeKey :=
  notesAfter (fun w _ w' => w.scheduler.phase.marks w'.scheduler.phase m) c src listeners start as

section Sessions

variable {listeners : Nat} {start : Instant} {as : List Action} {a : Action}

theorem markedAfter_wait
    (h : (worldAfter c src listeners start as).step? (.ofConfig c src) a = none) :
    markedAfter c src listeners start (as ++ [a]) = markedAfter c src listeners start as :=
  funext fun _ => notesAfter_wait _ h

theorem markedAfter_step
    (h : (worldAfter c src listeners start as).step? (.ofConfig c src) a = some w') :
    markedAfter c src listeners start (as ++ [a]) = fun m =>
      markedAfter c src listeners start as m ++
        (worldAfter c src listeners start as).scheduler.phase.marks w'.scheduler.phase m :=
  funext fun _ => notesAfter_step _ h

variable (src listeners start as)

/-- Every session in which no listener breaks down keeps the books. -/
theorem books_after (hb : c.Bounds)
    (intact : ¬ (worldAfter c src listeners start as).HasCrashed) :
    Books (markedAfter c src listeners start as)
      (resolvedKeys (appliedAfter c src listeners start as))
      (worldAfter c src listeners start as) := by
  revert intact
  refine run_induction (P := fun as w => ¬ w.HasCrashed →
    Books (markedAfter c src listeners start as)
      (resolvedKeys (appliedAfter c src listeners start as)) w) ?_ ?_ ?_ as
  · intro _
    refine ⟨?_, .refl _, .refl _⟩
    rw [World.load_new, show (World.new (.ofConfig c src) listeners start).shared.index.waiting = []
      from Outstanding.new_waiting c.flows]
    exact .refl _
  · rintro as a w rfl waits h intact
    rw [markedAfter_wait waits, appliedAfter, notesAfter_wait _ waits]
    exact h intact
  · rintro as a w w' rfl steps h intact
    obtain ⟨lost, inv, -⟩ := inv_after hb src listeners start as
    have before := h fun crashed =>
      intact ((World.transition_of_step? steps).hasCrashed crashed)
    rw [markedAfter_step steps, appliedAfter, notesAfter_step _ steps, resolvedKeys_append]
    exact before.step hb inv steps intact

/-! ## Counters -/

/-- The events of sends are about the marked probes. -/
structure Noted (es : List Event) (marks : Mark → List ProbeKey) : Prop where
  sent : sentCells es = (marks .sent).map ProbeKey.cell
  failed : failedCells es = (marks .failed).map ProbeKey.cell

theorem Noted.append {es es' : List Event} {marks marks' : Mark → List ProbeKey}
    (h : Noted es marks) (h' : Noted es' marks') :
    Noted (es ++ es') fun m => marks m ++ marks' m where
  sent := by rw [sentCells_append, h.sent, h'.sent, List.map_append]
  failed := by
    rw [failedCells, List.filterMap_append, List.map_append]
    exact congrArg₂ _ h.failed h'.failed

/-- A task that does not send is not marked. -/
theorem noted_of_no_send {es : List Event} (h : ∀ e ∈ es, ¬ e.IsSend) (p : Scheduler.Phase) :
    Noted es (p.marks p) := by
  obtain ⟨sent, failed⟩ := cells_of_no_send h
  exact ⟨by rw [sent, Scheduler.marks_self]; rfl, by rw [failed, Scheduler.marks_self]; rfl⟩

theorem Scheduler.Transition.noted {setup : Setup} {now : Instant} {accepted : Bool} {p p' : Phase}
    {w w' : Shared} (ht : Transition setup now accepted p w p' w') :
    Noted p.applies (p.marks p') := by
  cases ht <;> exact ⟨rfl, rfl⟩

/-- A listener hears of no send. -/
theorem Listener.Transition.not_isSend {setup : Setup} {now : Instant} {p p' : Phase}
    {w w' : Shared} {es : List Event} (wf : w.index.WF) (ht : Transition setup now p w es p' w') :
    ∀ e ∈ es, ¬ e.IsSend := by
  cases ht with
  | hear batch _ data source framing e index heard =>
    obtain ⟨-, -, -, quiet⟩ := claims_of_hear wf heard
    exact List.forall_mem_singleton.mpr quiet
  | _ => exact List.forall_mem_nil _

theorem Sweeper.not_isSend (now : Instant) (leave : Bool) (s : Sweeper) (w : Shared) :
    ∀ e ∈ s.finds now leave w, ¬ e.IsSend := by
  unfold finds
  split
  · split
    · exact List.forall_mem_nil _
    · exact not_isSend_timedOut _
  · exact List.forall_mem_nil _

theorem Supervisor.not_isSend (s : Supervisor) (w : Shared) : ∀ e ∈ s.finds w, ¬ e.IsSend := by
  unfold finds
  split
  · exact not_isSend_timedOut _
  · exact List.forall_mem_nil _

/-- The sends that a step comes upon are those that the scheduler marks in it. -/
theorem World.Transition.noted {setup : Setup} {a : Action} (wf : w.shared.index.WF)
    (ht : World.Transition setup w a w') :
    Noted (w.findsIn setup a) (w.scheduler.phase.marks w'.scheduler.phase) := by
  cases ht with
  | schedule now accepted d shared ht => exact ht.noted
  | listen i now read l l' shared hl ht =>
    refine noted_of_no_send ?_ _
    simp only [findsIn, hl, Option.map_some, Option.getD_some]
    exact ht.not_isSend wf
  | sweep now leave => exact noted_of_no_send (w.sweeper.not_isSend now leave w.shared) _
  | supervise => exact noted_of_no_send (w.supervisor.not_isSend w.shared) _
  | stop => exact noted_of_no_send (List.forall_mem_nil _) _

/-- The sends that the tasks have come upon are those that the scheduler has marked. -/
theorem noted_after (hb : c.Bounds) :
    Noted (foundAfter c src listeners start as) (markedAfter c src listeners start as) := by
  refine @run_induction c src listeners start (fun as _ =>
    Noted (foundAfter c src listeners start as) (markedAfter c src listeners start as))
    ⟨rfl, rfl⟩ ?_ ?_ as
  · rintro as a w rfl waits h
    rw [foundAfter, notesAfter_wait _ waits, markedAfter_wait waits]
    exact h
  · rintro as a w w' rfl steps h
    obtain ⟨lost, inv, -⟩ := inv_after hb src listeners start as
    rw [foundAfter, notesAfter_step _ steps, markedAfter_step steps]
    exact h.append ((World.transition_of_step? steps).noted inv.ledger.wf)

end Sessions

/-! ## Accounts -/

/-- Each registered probe is counted once, as resolved or as failed, and each sent one is answered
or timed out; `ks` are the resolved ones. -/
structure Accounted (marks : Mark → List ProbeKey) (ks : List ProbeKey) (counters : Counters) :
    Prop where
  once : (marks .registered).Perm (ks ++ marks .failed)
  balance : counters.sent = counters.answered + counters.timedOut

/-- The outcomes of a session. A registered probe was sent, or it was taken back after its send had
failed, or it was claimed while its send failed. The last ones are both resolved and failed. -/
structure Outcomes (marks : Mark → List ProbeKey) (ks : List ProbeKey) (counters : Counters) :
    Prop where
  registered : (marks .registered).Perm
    (marks .sent ++ (marks .withdrawn ++ marks .overtaken))
  resolved : ks.Perm (marks .sent ++ marks .overtaken)
  failed : (marks .failed).Perm (marks .withdrawn ++ marks .overtaken)
  sent : counters.sent = (marks .sent).length
  sendFailures : counters.sendFailures = (marks .failed).length
  ends : counters.answered + counters.timedOut = ks.length

/-- All is accounted for unless a probe was claimed while its send failed. -/
theorem Outcomes.accounted_iff {marks : Mark → List ProbeKey} {ks : List ProbeKey}
    {counters : Counters} (h : Outcomes marks ks counters) :
    Accounted marks ks counters ↔ marks .overtaken = [] := by
  have sent := h.sent
  have ends := h.ends
  have resolved := h.resolved.length_eq
  rw [List.length_append] at resolved
  refine ⟨fun accounted => ?_, fun none => ⟨?_, ?_⟩⟩
  · have balance := accounted.balance
    exact List.length_eq_zero_iff.mp (by omega)
  · have registered := h.registered
    have resolved := h.resolved
    have failed := h.failed
    rw [none, List.append_nil] at registered resolved failed
    exact registered.trans (resolved.symm.append failed.symm)
  · rw [none, List.length_nil] at resolved
    omega

section Sessions

variable (src : Address) (listeners : Nat) (start : Instant) (as : List Action)

/-- The counters that readers see at the end count all sends and outcomes. -/
theorem counters_of_terminated (hb : c.Bounds)
    (terminated : (worldAfter c src listeners start as).shared.table.latest.status = .terminated)
    (intact : ¬ (worldAfter c src listeners start as).HasCrashed) :
    (worldAfter c src listeners start as).shared.table.latest.counters.sent =
        (markedAfter c src listeners start as .sent).length ∧
      (worldAfter c src listeners start as).shared.table.latest.counters.sendFailures =
        (markedAfter c src listeners start as .failed).length ∧
      (worldAfter c src listeners start as).shared.table.latest.counters.answered +
          (worldAfter c src listeners start as).shared.table.latest.counters.timedOut =
        (resolvedKeys (appliedAfter c src listeners start as)).length := by
  have teardown : Teardown (worldAfter c src listeners start as) := teardown_after ..
  have closed := teardown.status.latest.symm.trans terminated
  have found := found_after intact
  rw [(teardown.load closed).2, List.append_nil] at found
  -- Sends and failures are noted when they are found; at the end these notes are in the table.
  have size {f : Event → Option (UInt16 × UInt8)} {ks : List ProbeKey}
      (marked : (foundAfter c src listeners start as).filterMap f = ks.map ProbeKey.cell) :
      ((appliedAfter c src listeners start as).filterMap f).length = ks.length := by
    rw [← (found.filterMap f).length_eq, marked, List.length_map]
  have noted := noted_after src listeners start as hb
  have published : (worldAfter c src listeners start as).shared.table.latest.counters =
      ((appliedAfter c src listeners start as).foldl HopState.apply (.new c)).counters := by
    rw [teardown.published closed]
    exact (applies_after hb src listeners start as).counters
  obtain ⟨sent, resolved⟩ :=
    HopState.counters_foldl (.new c) (appliedAfter c src listeners start as)
  have failed := HopState.sendFailures_foldl (.new c) (appliedAfter c src listeners start as)
  have none : (HopState.new c).counters = {} := rfl
  rw [published, sent, failed, resolved, none]
  exact ⟨(Nat.zero_add _).trans (size noted.sent), (Nat.zero_add _).trans (size noted.failed),
    Nat.zero_add _⟩

/-- At the end nothing waits and nothing is in hand, so the books give the outcomes. -/
theorem outcomes_of_terminated (hb : c.Bounds)
    (terminated : (worldAfter c src listeners start as).shared.table.latest.status = .terminated)
    (intact : ¬ (worldAfter c src listeners start as).HasCrashed) :
    Outcomes (markedAfter c src listeners start as)
      (resolvedKeys (appliedAfter c src listeners start as))
      (worldAfter c src listeners start as).shared.table.latest.counters := by
  have teardown : Teardown (worldAfter c src listeners start as) := teardown_after ..
  have closed := teardown.status.latest.symm.trans terminated
  have claimed := Supervisor.hasClaimed_of_terminated closed
  obtain ⟨n, ended⟩ := teardown.scheduler claimed.hasJoined.status_ne
  obtain ⟨claims, sends, failures⟩ := books_after src listeners start as hb intact
  have inSend : (Scheduler.Phase.finished n).inSend = [] := rfl
  have refused : (Scheduler.Phase.finished n).refused = [] := rfl
  -- The scheduler has finished, so it is in no send and has no failure left to count.
  rw [teardown.waiting claimed, (teardown.load closed).1] at claims
  rw [ended, inSend, List.append_nil] at sends
  rw [ended, refused, List.append_nil] at failures
  obtain ⟨sent, failed, ends⟩ := counters_of_terminated src listeners start as hb terminated intact
  refine ⟨sends, List.perm_iff_count.mpr fun k => ?_, failures.symm, sent, failed, ends⟩
  have claims := claims.count_eq k
  have sends := sends.count_eq k
  simp only [List.map_nil, List.append_nil, List.count_append] at *
  omega

/-- Once a session has terminated, each registered probe has come to one of three ends, and all is
accounted for unless a probe was claimed while its send failed. -/
theorem accounts_unless_overtaken (hc : c.check = .ok ())
    (terminated : (worldAfter c src listeners start as).shared.table.latest.status = .terminated)
    (intact : ¬ (worldAfter c src listeners start as).HasCrashed) :
    Outcomes (markedAfter c src listeners start as)
        (resolvedKeys (appliedAfter c src listeners start as))
        (worldAfter c src listeners start as).shared.table.latest.counters ∧
      (Accounted (markedAfter c src listeners start as)
          (resolvedKeys (appliedAfter c src listeners start as))
          (worldAfter c src listeners start as).shared.table.latest.counters ↔
        markedAfter c src listeners start as .overtaken = []) := by
  have outcomes := outcomes_of_terminated src listeners start as (Config.bounds_of_check hc)
    terminated intact
  exact ⟨outcomes, outcomes.accounted_iff⟩

end Sessions

/-- A session of one probe, whose send fails three seconds after its registration. Then the session
is stopped and ends. -/
def lonelyFailure (meanwhile : List Action) : List Action :=
  turns ⟨0⟩ 6 ++ meanwhile ++ .schedule ⟨3000000000⟩ false :: turns ⟨3000000000⟩ 3 ++
    .stop :: turns ⟨3000000000⟩ 8 ++
    [.supervise ⟨3000000000⟩, .supervise ⟨3000000000⟩, .sweep ⟨3000000000⟩ true,
      .listen 0 ⟨3000000000⟩ .nothing] ++
    List.replicate 5 (.supervise ⟨3000000000⟩)

/-- If nobody claims the probe meanwhile, it is taken back. -/
theorem accounts_lonelyFailure :
    lonelyConfig.check = .ok () ∧
    (worldAfter lonelyConfig (.ofOctets4 10 0 0 100) 1 ⟨0⟩
      (lonelyFailure [])).shared.table.latest.counters = { sendFailures := 1 } ∧
    Accounted (markedAfter lonelyConfig (.ofOctets4 10 0 0 100) 1 ⟨0⟩ (lonelyFailure []))
      (resolvedKeys (appliedAfter lonelyConfig (.ofOctets4 10 0 0 100) 1 ⟨0⟩ (lonelyFailure [])))
      (worldAfter lonelyConfig (.ofOctets4 10 0 0 100) 1 ⟨0⟩
        (lonelyFailure [])).shared.table.latest.counters := by
  have terminated : (worldAfter lonelyConfig (.ofOctets4 10 0 0 100) 1 ⟨0⟩
      (lonelyFailure [])).shared.table.latest.status = .terminated := by decide +kernel
  have intact : ¬ (worldAfter lonelyConfig (.ofOctets4 10 0 0 100) 1 ⟨0⟩
      (lonelyFailure [])).HasCrashed := by decide +kernel
  have accounts := accounts_unless_overtaken (.ofOctets4 10 0 0 100) 1 ⟨0⟩ (lonelyFailure []) rfl
    terminated intact
  exact ⟨rfl, by decide +kernel, accounts.2.mpr (by decide +kernel)⟩

/-- If the sweeper claims it meanwhile, it is counted as timed out and as a failed send. -/
theorem not_accounted_of_claim_in_send :
    ¬ ∀ (c : Config) (src : Address) (listeners : Nat) (start : Instant) (as : List Action),
      c.check = .ok () →
      (worldAfter c src listeners start as).shared.table.latest.status = .terminated →
      ¬ (worldAfter c src listeners start as).HasCrashed →
      Accounted (markedAfter c src listeners start as)
        (resolvedKeys (appliedAfter c src listeners start as))
        (worldAfter c src listeners start as).shared.table.latest.counters := by
  intro hall
  have accounted := hall lonelyConfig (.ofOctets4 10 0 0 100) 1 ⟨0⟩
    (lonelyFailure (expiry ⟨3000000000⟩)) rfl (by decide +kernel) (by decide +kernel)
  have counters : (worldAfter lonelyConfig (.ofOctets4 10 0 0 100) 1 ⟨0⟩
      (lonelyFailure (expiry ⟨3000000000⟩))).shared.table.latest.counters =
        { sendFailures := 1, timedOut := 1 } := by decide +kernel
  have balance := accounted.balance
  rw [counters] at balance
  cases balance

end FlowTrace.Session
