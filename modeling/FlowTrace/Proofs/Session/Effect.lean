import FlowTrace.Proofs.Correlator
import FlowTrace.Proofs.HopTable
import FlowTrace.Proofs.Session.Tasks

/-!
# What one step of a task does

A claimed probe is on its way: its outcome is applied to the hop table first and it is settled then.
`Load` is what a task has on its way. A step is described by an `Effect`: the probes that it
registers, claims and takes back, the events that it applies, and the rounds that it settles.

- **Shared state** (`Effect.Acts`): what an effect makes of the outstanding probes and of the table.
- **Loads** (`Effect.Moves`): what a task claims it either brings to an end or keeps on its way. A
  listener that breaks down loses what it had on its way.
- **Tasks** (`Listener.Transition.effect`, `Sweeper.Transition.effect`,
  `Supervisor.Transition.effect`): each step of a task but the scheduler has an effect that
  registers nothing and applies what the task has ready (`applies`).
-/

namespace FlowTrace.Session

/-- What a task has on its way. -/
structure Load where
  /-- Claimed probes whose outcome is not in the table yet. -/
  held : List ProbeKey := []
  /-- The rounds of claimed probes that are not settled yet. -/
  owed : List UInt32 := []

namespace Load

instance : Append Load := ⟨fun a b => ⟨a.held ++ b.held, a.owed ++ b.owed⟩⟩

@[simp] theorem held_append (a b : Load) : (a ++ b).held = a.held ++ b.held := rfl

@[simp] theorem owed_append (a b : Load) : (a ++ b).owed = a.owed ++ b.owed := rfl

@[simp] theorem empty_append (a : Load) : {} ++ a = a := rfl

/-- Claimed probes that are neither applied nor settled. -/
def ofKeys (ks : List ProbeKey) : Load := ⟨ks, ks.map (·.round)⟩

@[simp] theorem held_ofKeys (ks : List ProbeKey) : (ofKeys ks).held = ks := rfl

@[simp] theorem owed_ofKeys (ks : List ProbeKey) : (ofKeys ks).owed = ks.map (·.round) := rfl

/-- What is not applied is not settled either. -/
def Ordered (l : Load) : Prop := ∀ k ∈ l.held, k.round ∈ l.owed

theorem ordered_ofKeys (ks : List ProbeKey) : (ofKeys ks).Ordered := fun _ hk =>
  List.mem_map_of_mem hk

theorem Ordered.append {a b : Load} (ha : a.Ordered) (hb : b.Ordered) : (a ++ b).Ordered := by
  intro k hk
  rcases List.mem_append.mp hk with hk | hk
  · exact List.mem_append_left _ (ha k hk)
  · exact List.mem_append_right _ (hb k hk)

end Load

/-- What one step of a task does. -/
structure Effect where
  registered : List PendingProbe := []
  claimed : List PendingProbe := []
  /-- Registrations that are taken back. -/
  withdrawn : List PendingProbe := []
  applied : List Event := []
  settled : List UInt32 := []

namespace Effect

/-- What an effect makes of the shared state. -/
structure Acts (e : Effect) (w w' : Shared) : Prop where
  waiting : (e.registered ++ w.index.waiting).Perm
    (e.claimed ++ (e.withdrawn ++ w'.index.waiting))
  inRound : ∀ r, w'.index.inRound r =
    w.index.inRound r + (e.registered.map (·.round)).count r - e.settled.count r
  length : w'.index.shards.length = w.index.shards.length
  wf : w'.index.WF
  table : w.table.Applies e.applied w'.table

/-- A step that changes the load of a task from `l` to `l'` and loses `lost`. -/
structure Moves (e : Effect) (l l' lost : Load) : Prop where
  held : (e.claimed.map PendingProbe.key ++ l.held).Perm
    (resolvedKeys e.applied ++ (l'.held ++ lost.held))
  owed : (e.claimed.map (·.round) ++ (e.withdrawn.map (·.round) ++ l.owed)).Perm
    (e.settled ++ (l'.owed ++ lost.owed))

/-- The effect of a task that sends nothing. -/
structure IsQuiet (e : Effect) : Prop where
  registered : e.registered = []
  withdrawn : e.withdrawn = []
  sent : sentCells e.applied = []

variable {w w' : Shared} {o : Outstanding}

/-- A step on the table alone. -/
theorem acts_apply (wf : w.index.WF) {es : List Event} {t : HopTable} (h : w.table.Applies es t) :
    Acts { applied := es } w { w with table := t } :=
  ⟨.refl _, fun _ => rfl, rfl, wf, h⟩

theorem acts_claim (wf : w.index.WF) {ps : List PendingProbe}
    (h : Outstanding.Claims w.index ps o) :
    Acts { claimed := ps } w { w with index := o } :=
  ⟨h.waiting, fun r => h.inRound r, h.length, h.wf wf, ⟨rfl, rfl, rfl, rfl⟩⟩

theorem acts_settle (wf : w.index.WF) (rounds : List UInt32) :
    Acts { settled := rounds } w (w.mapIndex (·.settle rounds)) where
  waiting := by
    rw [show (w.mapIndex (·.settle rounds)).index = w.index.settle rounds from rfl,
      Outstanding.settle_waiting]
    exact .refl _
  inRound r := wf.settle_inRound rounds r
  length := congrArg List.length (Outstanding.settle_shards w.index rounds)
  wf := wf.settle rounds
  table := ⟨rfl, rfl, rfl, rfl⟩

end Effect

/-- The rounds that a batch resolves are those of its probes. -/
theorem resolvedRounds_eq (es : List Event) :
    resolvedRounds es = (resolvedKeys es).map (·.round) := by
  unfold resolvedRounds resolvedKeys
  rw [List.map_filterMap]
  exact congrArg (List.filterMap · es) (funext Event.resolvedRound_eq)

theorem resolvedKeys_timedOut (ps : List PendingProbe) :
    resolvedKeys (ps.map (·.timedOut)) = ps.map (·.key) := by
  unfold resolvedKeys
  rw [List.filterMap_map]
  exact List.filterMap_eq_map (f := PendingProbe.key) ▸ rfl

theorem not_isSend_timedOut (ps : List PendingProbe) : ∀ e ∈ ps.map (·.timedOut), ¬ e.IsSend := by
  intro e he
  obtain ⟨p, -, rfl⟩ := List.mem_map.mp he
  exact id

theorem resolvedKeys_append (es es' : List Event) :
    resolvedKeys (es ++ es') = resolvedKeys es ++ resolvedKeys es' := List.filterMap_append

theorem sentCells_append (es es' : List Event) :
    sentCells (es ++ es') = sentCells es ++ sentCells es' := List.filterMap_append

namespace Effect

/-- A task that sends nothing has taken one step, in which it has applied `es` and lost `lost`. -/
def Passes (w w' : Shared) (l l' : Load) (es : List Event) (lost : Load) : Prop :=
  ∃ e : Effect, e.IsQuiet ∧ e.applied = es ∧ e.Acts w w' ∧ e.Moves l l' lost

variable {w w' : Shared} {l l' : Load}

/-- A step that changes the table by no event. -/
theorem Passes.of_table (wf : w.index.WF) (hi : w'.index = w.index)
    (ht : w.table.Applies [] w'.table) : Passes w w' l l [] {} := by
  refine ⟨{}, ⟨rfl, rfl, rfl⟩, rfl, ?_, ⟨by simp [resolvedKeys], by simp⟩⟩
  exact ⟨by simp [hi], fun r => by simp [hi], by rw [hi], by rw [hi]; exact wf, ht⟩

/-- A step that touches nothing but the signals. -/
theorem Passes.of_same (wf : w.index.WF) (hi : w'.index = w.index) (ht : w'.table = w.table) :
    Passes w w' l l [] {} := .of_table wf hi (ht ▸ w.table.applies_refl)

/-- Probes are claimed. -/
theorem Passes.of_claims (wf : w.index.WF) {ps : List PendingProbe} {o : Outstanding}
    (h : Outstanding.Claims w.index ps o) {ks : List ProbeKey}
    (hk : (ps.map (·.key) ++ ks).Perm l'.held)
    (hr : (ps.map (·.round) ++ ks.map (·.round)).Perm l'.owed) :
    Passes w { w with index := o } (.ofKeys ks) l' [] {} :=
  ⟨{ claimed := ps }, ⟨rfl, rfl, rfl⟩, rfl, acts_claim wf h,
    ⟨by simpa [resolvedKeys] using hk, by simpa using hr⟩⟩

/-- The outcomes of probes that are held are applied. -/
theorem Passes.of_apply (wf : w.index.WF) {es : List Event} (hs : sentCells es = []) :
    Passes w (w.mapTable (·.apply es)) (.ofKeys (resolvedKeys es))
      { owed := (resolvedKeys es).map (·.round) } es {} :=
  ⟨{ applied := es }, ⟨rfl, rfl, hs⟩, rfl, acts_apply wf (w.table.applies_apply es),
    ⟨by simp, by simp⟩⟩

/-- Probes that are owed are settled. -/
theorem Passes.of_settle (wf : w.index.WF) (rounds : List UInt32) :
    Passes w (w.mapIndex (·.settle rounds)) { owed := rounds } {} [] {} :=
  ⟨{ settled := rounds }, ⟨rfl, rfl, rfl⟩, rfl, acts_settle wf rounds,
    ⟨by simp [resolvedKeys], by simp⟩⟩

/-- A task breaks down with what it holds. -/
theorem Passes.of_loss (wf : w.index.WF) (ks : List ProbeKey) :
    Passes w w (.ofKeys ks) {} [] (.ofKeys ks) :=
  ⟨{}, ⟨rfl, rfl, rfl⟩, rfl, acts_apply wf w.table.applies_refl,
    ⟨by simp [resolvedKeys], by simp⟩⟩

end Effect

open Effect

/-! ## Listeners -/

namespace Listener

/-- The events of a listener that are not applied yet. -/
def Phase.batch : Phase → List Event
  | .draining batch => batch
  | .applying batch _ => batch
  | _ => []

/-- What a listener has on its way. -/
def Phase.load : Phase → Load
  | .draining batch => .ofKeys (resolvedKeys batch)
  | .applying batch _ => .ofKeys (resolvedKeys batch)
  | .settling rounds _ => { owed := rounds }
  | _ => {}

/-- The events that the next step applies to the table. -/
def Phase.applies : Phase → List Event
  | .applying batch _ => batch
  | _ => []

/-- A listener collects no sends. -/
def Phase.IsSilent (p : Phase) : Prop := sentCells p.batch = []

theorem load_closeBatch (batch : List Event) (failure : Option ListenerError) :
    (closeBatch batch failure).load = .ofKeys (resolvedKeys batch) := by
  unfold closeBatch
  split
  · cases failure <;> rfl
  · rfl

theorem batch_closeBatch (batch : List Event) (failure : Option ListenerError) :
    (closeBatch batch failure).batch = batch := by
  unfold closeBatch
  split
  · cases failure <;> rfl
  · rfl

theorem load_addEvent (batch : List Event) (e : Event) :
    (addEvent batch e).load = .ofKeys (resolvedKeys (batch ++ [e])) := by
  simp only [addEvent]
  split <;> rfl

theorem batch_addEvent (batch : List Event) (e : Event) :
    (addEvent batch e).batch = batch ++ [e] := by
  simp only [addEvent]
  split <;> rfl

/-- What is heard claims the probe that the event resolves. -/
theorem claims_of_hear {setup : Setup} {now : Instant} {index index' : Outstanding} {data : Bytes}
    {source : Address} {framing : Framing} {e : Event} (wf : index.WF)
    (h : hear setup now index data source framing = .ok (e, index')) :
    ∃ ps, Outstanding.Claims index ps index' ∧ resolvedKeys [e] = ps.map (·.key) ∧
      ¬ e.IsSend := by
  simp only [hear, bind, Except.bind] at h
  split at h
  case h_1 => cases h
  split at h
  · obtain ⟨rfl, rfl⟩ : Event.decodeDiscarded = e ∧ index = index' := by
      simpa [pure, Except.pure] using h
    exact ⟨[], .refl _, rfl, id⟩
  · rename_i response _
    cases hc : setup.correlator.correlate index response now with
    | none =>
      obtain ⟨rfl, rfl⟩ : Event.unmatched = e ∧ index = index' := by
        simpa [pure, Except.pure, hc] using h
      exact ⟨[], .refl _, rfl, id⟩
    | some x =>
      obtain rfl : x = (e, index') := by simpa [pure, Except.pure, hc] using h
      obtain ⟨q, hq, hk⟩ := Correlator.claims_of_correlate wf hc
      refine ⟨[q], hq, by simp [resolvedKeys, hk], ?_⟩
      cases e <;> first | exact id | cases hk

/-- A step of a listener. Only a breakdown loses anything. -/
theorem Transition.effect {setup : Setup} {now : Instant} {p p' : Phase} {w w' : Shared}
    {es : List Event} (wf : w.index.WF) (hs : p.IsSilent)
    (ht : Transition setup now p w es p' w') : ∃ lost, Passes w w' p.load p'.load p.applies lost ∧
      lost.Ordered ∧ (¬ p'.HasCrashed → lost = {}) ∧ p'.IsSilent := by
  cases ht with
  | leave | look => exact ⟨{}, .of_same wf rfl rfl, nofun, fun _ => rfl, rfl⟩
  | hear batch _ data source framing e index heard =>
    obtain ⟨ps, hps, hk, he⟩ := claims_of_hear wf heard
    refine ⟨{}, ?_, nofun, fun _ => rfl, ?_⟩
    · rw [load_addEvent, resolvedKeys_append, hk]
      refine .of_claims wf hps List.perm_append_comm ?_
      rw [Load.owed_ofKeys, List.map_append, List.map_map]
      exact List.perm_append_comm
    · rw [Phase.IsSilent, batch_addEvent, sentCells_append,
        (cells_of_no_send (List.forall_mem_singleton.mpr he)).1, List.append_nil]
      exact hs
  | close batch failure =>
    refine ⟨{}, ?_, nofun, fun _ => rfl, ?_⟩
    · rw [load_closeBatch]
      exact .of_same wf rfl rfl
    · rw [Phase.IsSilent, batch_closeBatch]
      exact hs
  -- A breakdown is the only step that loses what the listener has in hand.
  | crash batch => exact ⟨_, .of_loss wf _, Load.ordered_ofKeys _, fun h => (h trivial).elim, rfl⟩
  | apply batch failure =>
    refine ⟨{}, ?_, nofun, fun _ => rfl, rfl⟩
    show Passes _ _ (.ofKeys (resolvedKeys batch)) { owed := resolvedRounds batch } batch {}
    rw [resolvedRounds_eq]
    exact .of_apply wf hs
  | settle rounds failure =>
    refine ⟨{}, ?_, nofun, fun _ => rfl, ?_⟩
    · rw [load_closeBatch]
      exact .of_settle wf rounds
    · rw [Phase.IsSilent, batch_closeBatch]
      rfl

end Listener

/-! ## The sweeper and the supervisor -/

/-- What the sweeper has on its way. -/
def Sweeper.load : Sweeper → Load
  | .applying expired => .ofKeys (expired.map (·.key))
  | .settling rounds => { owed := rounds }
  | _ => {}

/-- The events that the next step of the sweeper applies to the table. -/
def Sweeper.applies : Sweeper → List Event
  | .applying expired => expired.map (·.timedOut)
  | _ => []

/-- What the supervisor has on its way. -/
def Supervisor.load : Supervisor → Load
  | .applying left _ => .ofKeys (left.map (·.key))
  | .settling rounds _ => { owed := rounds }
  | _ => {}

/-- The events that the next step of the supervisor applies to the table. -/
def Supervisor.applies : Supervisor → List Event
  | .applying left _ => left.map (·.timedOut)
  | _ => []

/-- All probes of an index are claimed, or those that are overdue. -/
theorem Effect.Passes.of_claimed {w : Shared} (wf : w.index.WF) {ps : List PendingProbe}
    {o : Outstanding} (h : Outstanding.Claims w.index ps o) :
    Passes w { w with index := o } {} (.ofKeys (ps.map (·.key))) [] {} := by
  show Passes w _ (.ofKeys []) _ _ _
  exact .of_claims wf h (by simp) (by simp [Function.comp_def, PendingProbe.key])

/-- Probes that were claimed without an answer are applied as timed out. -/
theorem Effect.Passes.of_timeouts {w : Shared} (wf : w.index.WF) (ps : List PendingProbe) :
    Passes w (w.mapTable (·.apply (ps.map (·.timedOut)))) (.ofKeys (ps.map (·.key)))
      { owed := ps.map (·.round) } (ps.map (·.timedOut)) {} := by
  have h := Passes.of_apply wf (cells_of_no_send (not_isSend_timedOut ps)).1
  rw [resolvedKeys_timedOut, List.map_map] at h
  exact h

/-- A step of the sweeper. -/
theorem Sweeper.Transition.effect {now : Instant} {leave : Bool} {s s' : Sweeper} {w w' : Shared}
    (wf : w.index.WF) (ht : Sweeper.Transition now leave s w s' w') :
    Passes w w' s.load s'.load s.applies {} := by
  cases ht with
  | leave | idle => exact .of_same wf rfl rfl
  | expire => exact .of_claimed wf (Outstanding.claims_expire w.index now)
  | apply expired => exact .of_timeouts wf expired
  | settle rounds => exact .of_settle wf rounds

/-- A step of the supervisor. -/
theorem Supervisor.Transition.effect {setup : Setup} {now : Instant} {w : World}
    {s s' : Supervisor} {shared : Shared} (wf : w.shared.index.WF)
    (ht : Supervisor.Transition setup now w s s' shared) :
    Passes w.shared shared s.load s'.load s.applies {} := by
  have drained := Passes.of_claimed wf (Outstanding.claims_drainAll w.shared.index)
  cases ht with
  | watch => exact .of_table wf rfl (w.shared.table.applies_setStatus .draining)
  | drain | join => exact .of_same wf rfl rfl
  | skip failure h =>
    rw [h] at drained
    exact drained
  | claim failure => exact drained
  | apply left failure => exact .of_timeouts wf left
  | settle rounds failure => exact .of_settle wf rounds
  | close failure => exact .of_table wf rfl (w.shared.table.applies_setStatus .terminated)

end FlowTrace.Session
